import Rehearsal.Proofs.JsonText

/-!
# Values laid out over lines are read back

`Json.pretty` puts each item and each entry on a line of its own, behind the blanks of its level.
Where no number needs more than 64 bits and no key is anything but a text (`Json.Plain`), what it
writes reads as the value that was written, at any level (`Json.Plain.reads`): an induction on the
value, in which the items of a list and the entries of a record are read one after the other
(`ItemsRead.pretty`, `EntriesRead.pretty`). So a decoder makes of the written text what it makes of
the value (`Decoder.readJson_pretty`).
-/

namespace Rehearsal

open Data

namespace Json

/-- A value with no more than so many collections inside each other, whose numbers have 64 bits and
whose keys are texts. -/
inductive Plain : Nat → Value → Prop
  | null {levels : Nat} : Plain levels .null
  | flag {levels : Nat} (b : Bool) : Plain levels (.flag b)
  | nat {levels n : Nat} : n < Nat.pow 2 64 → Plain levels (.nat n)
  | text {levels : Nat} (s : String) : Plain levels (.text s)
  | list {levels : Nat} {items : List Value} : (∀ v ∈ items, Plain levels v) →
    Plain (levels + 1) (.list items)
  | record {levels : Nat} {entries : List (String × Value)} :
    (∀ e ∈ entries, Plain levels e.2) → Plain (levels + 1) (.record entries)

theorem Plain.orNull {levels : Nat} {α : Type} {write : α → Value} {a : Option α}
    (h : ∀ x ∈ a, Plain levels (write x)) : Plain levels (.orNull (a.map write)) := by
  cases a with
  | none => exact .null
  | some x => exact h x rfl

/-! ## Lines -/

theorem blanks_indent (level : Nat) : Blanks (indent level) := by
  intro c hc
  rcases List.mem_cons.1 hc with rfl | hc
  · exact .inr (.inr (.inl rfl))
  · exact .inl (List.eq_of_mem_replicate hc)

variable {levels level : Nat} {first : Bool}

/-- Items on lines of their own, of which there is at least one. -/
theorem ItemsRead.pretty (outer : Nat) {v : Value} {items : List Value}
    (h : ∀ w ∈ v :: items, Reads levels w (prettyAt level w)) :
    ItemsRead levels first (v :: items)
      (comma first ++ prettyItems level (v :: items) ++ indent outer ++ [']']) := by
  induction items generalizing v first with
  | nil =>
    have : ItemsRead levels first [v] _ :=
      .cons (blanks_indent level) (h v List.mem_cons_self) (.nil (blanks_indent outer))
    simpa [prettyItems] using this
  | cons w items ih =>
    obtain ⟨hv, h⟩ := List.forall_mem_cons.1 h
    have : ItemsRead levels first (v :: w :: items) _ := .cons (blanks_indent level) hv (ih h)
    simpa [prettyItems, comma] using this

/-- Entries on lines of their own, of which there is at least one. -/
theorem EntriesRead.pretty (outer : Nat) {e : String × Value} {entries : List (String × Value)}
    (h : ∀ e' ∈ e :: entries, Reads levels e'.2 (prettyAt level e'.2)) :
    EntriesRead levels first (e :: entries)
      (comma first ++ prettyEntries level ((e :: entries).map fun (k, v) => (.text k, v)) ++
        indent outer ++ ['\x7d']) := by
  have hblank : Blanks [' '] := by
    intro c hc
    exact .inl (List.mem_singleton.1 hc)
  induction entries generalizing e first with
  | nil =>
    have : EntriesRead levels first [(e.1, e.2)] _ :=
      .cons (blanks_indent level) hblank (h e List.mem_cons_self) (.nil (blanks_indent outer))
    simpa [prettyEntries, keyText] using this
  | cons e' entries ih =>
    obtain ⟨he, h⟩ := List.forall_mem_cons.1 h
    have : EntriesRead levels first ((e.1, e.2) :: e' :: entries) _ :=
      .cons (blanks_indent level) hblank he (ih h)
    simpa [prettyEntries, keyText, comma] using this

/-! ## Values -/

/-- A value on lines reads back, at whatever level it is written. -/
theorem Plain.reads {v : Value} (h : Plain levels v) :
    ∀ level, Reads levels v (prettyAt level v) := by
  induction h with
  | null => exact fun _ => .null
  | flag b => exact fun _ => .flag b
  | nat hn => exact fun _ => .nat hn
  | text s => exact fun _ => .text s
  -- a collection without items or entries is written on one line
  | @list levels items _ ih =>
    intro level
    cases items with
    | nil => exact .list (.nil blanks_nil)
    | cons v items =>
      have : Reads (levels + 1) (.list (v :: items)) _ :=
        .list (ItemsRead.pretty level fun w hw => ih w hw (level + 1))
      simpa [comma, prettyAt] using this
  | @record levels entries _ ih =>
    intro level
    cases entries with
    | nil => exact .record (.nil blanks_nil)
    | cons e entries =>
      have : Reads (levels + 1) (.record (e :: entries)) _ :=
        .record (EntriesRead.pretty level fun e' he' => ih e' he' (level + 1))
      simpa [comma, prettyAt, Value.record] using this

end Json

/-- What a decoder makes of a value, it makes of the value's text on lines. -/
theorem Decoder.readJson_pretty {α : Type} {d : Decoder α} (hd : d.Agrees) {v : Value} {a : α}
    (hv : Json.Plain Json.levelLimit v) (ha : d.ofValue false v = .ok a) :
    d.readJson (Json.pretty v) = .ok a :=
  readJson_reads hd (hv.reads 0) ha

end Rehearsal
