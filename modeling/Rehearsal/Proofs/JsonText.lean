import Rehearsal.Decoder.Record
import Rehearsal.Json.Printer
import Rehearsal.Proofs.Literal
import Rehearsal.Proofs.RecordReading

/-!
# JSON texts are read as they are written

`Json.Reads v s`: the text `s`, in the place of a value and whatever follows it, makes a node that
denotes `v` and ends where `s` ends. Literals, numerals of 64 bits and the names of constants read
so (`Reads.text`, `Reads.nat`, `Reads.flag`, `Reads.null`), and a list or a record does if its items
or entries do (`Reads.list`, `Reads.record`); `Json.compact` writes such texts for records
(`Reads.compact`).

A decoder agrees with itself (`Decoder.Agrees`) if it makes of a node what it makes of the value
that the node denotes. So what is known of dynamic values is known of texts
(`Decoder.readJson_reads`).
-/

namespace Rehearsal

open Data

/-! ## Decimal numerals -/

namespace Text

theorem isDigit_of_mem_decimal {n : Nat} {c : Char} (h : c ∈ decimal n) : isDigit c = true := by
  simpa [isDigit, Char.isDigit, Char.le_def] using isDigit_decimal h

/-- A numeral starts with a zero only if that is all of it. -/
theorem decimal_cases (n : Nat) : decimal n = ['0'] ∨ ∃ d r, d ≠ '0' ∧ decimal n = d :: r := by
  have positive : 0 < n → ∃ d r, d ≠ '0' ∧ decimal n = d :: r := by
    induction n using Nat.strongRecOn with
    | ind n ih =>
      intro hn
      by_cases hlt : n < 10
      · have digits : ∀ m < 10, 0 < m → Nat.digitChar m ≠ '0' := by decide
        exact ⟨_, _, digits n hlt hn, Nat.toDigits_of_lt_base hlt⟩
      · obtain ⟨d, r, hd, he⟩ := ih (n / 10) (by omega) (by omega)
        refine ⟨d, r ++ [Nat.digitChar (n % 10)], hd, ?_⟩
        have := Nat.toDigits_of_base_le (b := 10) (n := n) (by omega) (by omega)
        rw [decimal, this, ← decimal, he, List.cons_append]
  rcases Nat.eq_zero_or_pos n with rfl | hn
  · exact .inl (Nat.toDigits_zero 10)
  · exact .inr (positive hn)

end Text

namespace Json

open Text

/-! ## Numbers -/

/-- What may follow a number: nothing that would continue it. -/
def Stops (r : List Char) : Prop :=
  ∀ c, r.head? = some c → isDigit c = false ∧ c ≠ '.' ∧ c ≠ 'e' ∧ c ≠ 'E'

theorem stops_nil : Stops [] := fun _ h => nomatch h

theorem le_ofDigitChars (n : Nat) (ds : List Char) : n ≤ Nat.ofDigitChars 10 ds n := by
  rw [Nat.ofDigitChars_eq_ofDigitChars_zero]
  have : 1 * n ≤ 10 ^ ds.length * n := Nat.mul_le_mul_right n (Nat.pow_pos (by decide))
  omega

/-- Digits that make a number of 64 bits are all taken. -/
theorem significand_eq {ds : List Char} {n : Nat} (h : Nat.ofDigitChars 10 ds n < Nat.pow 2 64) :
    significand n ds = (Nat.ofDigitChars 10 ds n, 0) := by
  induction ds generalizing n with
  | nil => rfl
  | cons d ds ih =>
    rw [Nat.ofDigitChars_cons] at h ⊢
    have hnext : 10 * n + (d.toNat - '0'.toNat) < Nat.pow 2 64 :=
      Nat.lt_of_le_of_lt (le_ofDigitChars _ ds) h
    have he : significand n (d :: ds) = significand (10 * n + (d.toNat - '0'.toNat)) ds :=
      if_pos hnext
    rw [he]
    exact ih h

theorem digits_append {ds r : List Char} (hd : ∀ c ∈ ds, isDigit c = true) (hr : Stops r)
    (p : Place) : Cursor.digits ⟨ds ++ r, p⟩ = (ds, ⟨r, ⟨p.line, p.column + ds.length⟩⟩) := by
  have htake : (ds ++ r).takeWhile isDigit = ds := by
    rw [List.takeWhile_append_of_pos hd]
    cases r with
    | nil => simp
    | cons c r => simp [(hr c rfl).1]
  simp [Cursor.digits, htake]

/-- A numeral of a number of 64 bits reads back as that number. -/
theorem numberAt_decimal {n : Nat} (h : n < Nat.pow 2 64) {r : List Char} (hr : Stops r)
    (p : Place) : ∃ p', numberAt ⟨decimal n ++ r, p⟩ = .ok (.nat n, ⟨r, p'⟩) := by
  have hdigits := digits_append (fun c => isDigit_of_mem_decimal (n := n)) hr p
  have hvalue : Nat.ofDigitChars 10 (decimal n) 0 = n := Nat.ofDigitChars_ten_toDigits
  have hsig : significand 0 (decimal n) = (n, 0) := by
    rw [significand_eq (by rw [hvalue]; exact h), hvalue]
  have hsign : (decimal n ++ r).head? ≠ some '-' := by
    rcases decimal_cases n with he | ⟨d, s, -, he⟩ <;> rw [he]
    · simp
    · have hd := isDigit_of_mem_decimal (n := n) (c := d) (by rw [he]; exact List.mem_cons_self)
      rintro ⟨⟩
      exact absurd hd (by decide)
  refine ⟨⟨p.line, p.column + (decimal n).length⟩, ?_⟩
  -- no zero in front (`hd`), and nothing after the digits goes on with the number: `hdot` rules out
  -- the case of a fraction
  rcases decimal_cases n with he | ⟨d, s, hd, he⟩ <;> rcases r with _ | ⟨c, r⟩
  all_goals
    simp only [numberAt, hsign, decide_false, if_false, hdigits]
    rw [he] at hsig ⊢
    simp only [hsig]
  · rfl
  · obtain ⟨-, hdot, hexp, hexp'⟩ := hr c rfl
    simp [hexp, hexp', integerValue, Value.nat]
  · simp [hd, integerValue, Value.nat]
  · obtain ⟨-, hdot, hexp, hexp'⟩ := hr c rfl
    simp [hd, hexp, hexp', integerValue, Value.nat]

/-! ## Nodes and the values that they denote -/

/-- A value that is neither a collection nor tagged. -/
def IsScalar : Value → Prop
  | .list _ | .map _ | .tagged _ _ => False
  | _ => True

mutual

/-- A node that is whole and denotes a value, which is a scalar, a list or a record. -/
inductive Denotes : Node → Value → Prop
  | scalar {v : Value} {start stop : Place} : IsScalar v → Denotes (.scalar v start stop) v
  | list {nodes : List Node} {items : List Value} {start stop : Place} :
    ItemsDenote nodes items → Denotes (.list nodes .closed start stop) (.list items)
  | record {nodes : List (Key × Node)} {entries : List (String × Value)} {start stop : Place} :
    EntriesDenote nodes entries → Denotes (.object nodes .closed start stop) (.record entries)

/-- Nodes that are whole and denote the items of a list. -/
inductive ItemsDenote : List Node → List Value → Prop
  | nil : ItemsDenote [] []
  | cons {n : Node} {v : Value} {nodes : List Node} {items : List Value} : Denotes n v →
    ItemsDenote nodes items → ItemsDenote (n :: nodes) (v :: items)

/-- Entries that are whole and denote those of a record. -/
inductive EntriesDenote : List (Key × Node) → List (String × Value) → Prop
  | nil : EntriesDenote [] []
  | cons {k : Key} {n : Node} {v : Value} {nodes : List (Key × Node)}
    {entries : List (String × Value)} : k.skipped = none → Denotes n v →
    EntriesDenote nodes entries → EntriesDenote ((k, n) :: nodes) ((k.text, v) :: entries)

end

mutual

theorem Denotes.unbroken {n : Node} {v : Value} : Denotes n v → n.brokenAt? = none
  | .scalar _ => rfl
  | .list h => by rw [Node.brokenAt?, h.unbroken]; rfl
  | .record h => by rw [Node.brokenAt?, h.unbroken]; rfl

theorem ItemsDenote.unbroken {nodes : List Node} {items : List Value} :
    ItemsDenote nodes items → itemsBrokenAt? nodes = none
  | .nil => rfl
  | .cons hn h => by rw [itemsBrokenAt?, hn.unbroken, h.unbroken]; rfl

theorem EntriesDenote.unbroken {nodes : List (Key × Node)} {entries : List (String × Value)} :
    EntriesDenote nodes entries → entriesBrokenAt? nodes = none
  | .nil => rfl
  | .cons _ hn h => by rw [entriesBrokenAt?, hn.unbroken, h.unbroken]; rfl

end

theorem ItemsDenote.length_eq {nodes : List Node} {items : List Value} :
    ItemsDenote nodes items → nodes.length = items.length
  | .nil => rfl
  | .cons _ h => congrArg (· + 1) h.length_eq

/-! ## Texts of values -/

/-- A text reads as a value: in its place there is a node that denotes the value, whatever follows,
unless that would continue a number. -/
def Reads (levels : Nat) (v : Value) (s : List Char) : Prop :=
  ∀ fuel r p, s.length ≤ fuel → Stops r →
    ∃ n p', valueAt fuel levels ⟨s ++ r, p⟩ = (n, ⟨r, p'⟩) ∧ Denotes n v

theorem valueAt_scalar {fuel levels : Nat} {c c' : Cursor} {v : Value}
    (hlist : c.rest.head? ≠ some '[') (hobject : c.rest.head? ≠ some '\x7b')
    (h : scalarAt c = .ok (v, c')) :
    valueAt (fuel + 1) levels c = (.scalar v c.place c'.place, c') := by
  unfold valueAt
  split
  · contradiction
  · rename_i he
    exact absurd (by rw [he]; rfl) hlist
  · rename_i he
    exact absurd (by rw [he]; rfl) hobject
  · rw [h]

namespace Reads

variable {levels : Nat} {v : Value} {s : List Char}

/-- What reads as a value starts with neither a blank nor a closing bracket. -/
theorem head (h : Reads levels v s) :
    ∃ c t, s = c :: t ∧ c ∉ [' ', '\t', '\n', '\r', ']', '\x7d'] := by
  obtain ⟨n, p', he, hn⟩ := h s.length [] ⟨1, 0⟩ (Nat.le_refl _) stops_nil
  cases s with
  | nil =>
    cases he
    cases hn
  | cons c t =>
    refine ⟨c, t, rfl, fun hc => ?_⟩
    simp only [List.mem_cons, List.not_mem_nil, or_false] at hc
    rcases hc with rfl | rfl | rfl | rfl | rfl | rfl <;> cases he

theorem text (s : String) : Reads levels (.text s) (literalText s.toList) := by
  intro fuel r p hf _
  obtain ⟨f, rfl⟩ : ∃ f, fuel = f + 1 := ⟨fuel - 1, by simp [literalText] at hf; omega⟩
  obtain ⟨p', hp⟩ := valueAt_literalText f levels s.toList r p
  rw [String.ofList_toList] at hp
  exact ⟨_, p', hp, .scalar trivial⟩

theorem nat {n : Nat} (h : n < Nat.pow 2 64) : Reads levels (.nat n) (decimal n) := by
  intro fuel r p hf hr
  obtain ⟨p', hp⟩ := numberAt_decimal h hr p
  obtain ⟨d, s, he⟩ : ∃ d s, decimal n = d :: s :=
    List.exists_cons_of_ne_nil Nat.toDigits_ne_nil
  have hd := isDigit_of_mem_decimal (n := n) (c := d) (by rw [he]; exact List.mem_cons_self)
  obtain ⟨f, rfl⟩ : ∃ f, fuel = f + 1 := ⟨fuel - 1, by rw [he] at hf; simp at hf; omega⟩
  -- a digit starts nothing but a number
  have hother : ∀ c, isDigit c = false → d ≠ c := by
    rintro c hc rfl
    rw [hd] at hc
    cases hc
  rw [he, List.cons_append] at hp ⊢
  have hscalar : scalarAt ⟨d :: (s ++ r), p⟩ = .ok (.nat n, ⟨r, p'⟩) := by
    rw [← hp]
    simp [scalarAt, hd, hother 'n' rfl, hother 't' rfl, hother 'f' rfl, hother '"' rfl]
  exact ⟨_, p', valueAt_scalar (by simpa using hother '[' rfl) (by simpa using hother '\x7b' rfl)
    hscalar, .scalar trivial⟩

theorem null : Reads levels .null (scalarText .null) := by
  intro fuel r p hf _
  obtain ⟨f, rfl⟩ : ∃ f, fuel = f + 1 := ⟨fuel - 1, by simp [scalarText] at hf; omega⟩
  exact ⟨_, _, rfl, .scalar trivial⟩

theorem flag (b : Bool) : Reads levels (.flag b) (scalarText (.flag b)) := by
  intro fuel r p hf _
  obtain ⟨f, rfl⟩ : ∃ f, fuel = f + 1 :=
    ⟨fuel - 1, by cases b <;> simp [scalarText] at hf <;> omega⟩
  cases b <;> exact ⟨_, _, rfl, .scalar trivial⟩

end Reads

/-! ### Lists and records -/

/-- Blanks between the parts of a text. -/
def Blanks (b : List Char) : Prop := ∀ c ∈ b, c = ' ' ∨ c = '\t' ∨ c = '\n' ∨ c = '\r'

theorem blanks_nil : Blanks [] := fun _ hc => nomatch hc

theorem skipBlanks_append {b r : List Char} {c : Char} (hb : Blanks b)
    (hc : c ∉ [' ', '\t', '\n', '\r']) (p : Place) :
    ∃ p', skipBlanks p (b ++ c :: r) = ⟨c :: r, p'⟩ := by
  induction b generalizing p with
  | nil => exact ⟨p, if_neg (by simpa using hc)⟩
  | cons d b ih =>
    obtain ⟨hd, hb⟩ := List.forall_mem_cons.1 hb
    obtain ⟨p', hp⟩ := ih hb (p.after d)
    exact ⟨p', by rw [← hp]; exact if_pos hd⟩

/-- A blank, a comma or a closing bracket is no part of a number. -/
theorem stops_append {b r : List Char} {c : Char} (hb : Blanks b) (hc : c ∈ [',', ']', '\x7d']) :
    Stops (b ++ c :: r) := by
  intro d hd
  cases b with
  | nil =>
    obtain rfl : c = d := Option.some.inj hd
    simp only [List.mem_cons, List.not_mem_nil, or_false] at hc
    rcases hc with rfl | rfl | rfl <;> decide
  | cons x b =>
    obtain rfl : x = d := Option.some.inj hd
    rcases hb x List.mem_cons_self with rfl | rfl | rfl | rfl <;> decide

/-- What stands before an item or an entry: a comma, unless it is the first. -/
def comma (first : Bool) : List Char := if first then [] else [',']

/-- The items of a list as texts, from some place on through the closing bracket. -/
inductive ItemsRead (levels : Nat) : Bool → List Value → List Char → Prop
  | nil {first : Bool} {b : List Char} : Blanks b → ItemsRead levels first [] (b ++ [']'])
  | cons {first : Bool} {b s t : List Char} {v : Value} {items : List Value} : Blanks b →
    Reads levels v s → ItemsRead levels false items t →
    ItemsRead levels first (v :: items) (comma first ++ b ++ s ++ t)

namespace ItemsRead

variable {levels : Nat} {first : Bool} {items : List Value} {t : List Char}

theorem stops (h : ItemsRead levels false items t) (r : List Char) : Stops (t ++ r) := by
  cases h with
  | @nil _ b hb =>
    rw [List.append_assoc]
    exact stops_append hb (by decide)
  | cons _ _ _ => exact stops_append blanks_nil (by decide)

theorem length_pos (h : ItemsRead levels first items t) : 0 < t.length := by
  cases h with
  | nil _ => simp
  | cons _ hv _ =>
    obtain ⟨c, s, rfl, -⟩ := hv.head
    simp only [List.length_append, List.length_cons]
    omega

/-- What stands before an item is passed over. -/
theorem itemsAt_before {b : List Char} {c : Char} (hb : Blanks b)
    (hc : c ∉ [' ', '\t', '\n', '\r', ']', '\x7d']) (fuel : Nat) (u : List Char) (p : Place) :
    ∃ p', Json.itemsAt (fuel + 1) levels first ⟨comma first ++ b ++ c :: u, p⟩ =
      Json.itemsAt (fuel + 1) levels true ⟨c :: u, p'⟩ := by
  have hblank : c ∉ [' ', '\t', '\n', '\r'] := by simp at hc ⊢; tauto
  have hend : c ≠ ']' := by simp at hc; tauto
  obtain ⟨p', hp⟩ := skipBlanks_append (r := u) hb hblank (if first then p else p.after ',')
  have hvalue : skipBlanks p' (c :: u) = ⟨c :: u, p'⟩ := if_neg (by simpa using hblank)
  refine ⟨p', ?_⟩
  cases first with
  | true =>
    simp only [if_true] at hp
    simp [comma, Json.itemsAt, Cursor.blanks, hp, hvalue]
  | false =>
    have hcomma : skipBlanks p (',' :: (b ++ c :: u)) = ⟨',' :: (b ++ c :: u), p⟩ := rfl
    simp only [Bool.false_eq_true, if_false] at hp
    simp [comma, Json.itemsAt, Cursor.blanks, Cursor.skip, hp, hvalue, hcomma, hend]

/-- The items of a list are found, through its closing bracket. -/
theorem itemsAt (h : ItemsRead levels first items t) :
    ∀ fuel r p, t.length ≤ fuel → ∃ nodes p',
      Json.itemsAt fuel levels first ⟨t ++ r, p⟩ = (nodes, .closed, ⟨r, p'⟩) ∧
      ItemsDenote nodes items := by
  induction h with
  | @nil first b hb =>
    intro fuel r p hf
    obtain ⟨f, rfl⟩ : ∃ f, fuel = f + 1 := ⟨fuel - 1, by simp at hf; omega⟩
    obtain ⟨p', hp⟩ := skipBlanks_append (r := r) hb (show ']' ∉ _ by decide) p
    refine ⟨[], p'.after ']', ?_, .nil⟩
    simp only [Json.itemsAt, Cursor.blanks, List.append_assoc, List.cons_append,
      List.nil_append, hp, Cursor.skip]
  | @cons first b s t v items hb hv h ih =>
    intro fuel r p hf
    obtain ⟨c, s', rfl, hc⟩ := hv.head
    obtain ⟨f, rfl⟩ : ∃ f, fuel = f + 1 := ⟨fuel - 1, by simp at hf; omega⟩
    have hlen : (c :: s').length ≤ f ∧ t.length ≤ f := by
      have := h.length_pos
      simp at hf ⊢
      omega
    obtain ⟨p₁, h₁⟩ := @itemsAt_before levels first b c hb hc f (s' ++ (t ++ r)) p
    obtain ⟨n, p₂, h₂, hn⟩ := hv f (t ++ r) p₁ hlen.1 (h.stops r)
    obtain ⟨nodes, p₃, h₃, hnodes⟩ := ih f r p₂ hlen.2
    refine ⟨n :: nodes, p₃, ?_, .cons hn hnodes⟩
    have htext : comma first ++ b ++ (c :: s') ++ t ++ r =
        comma first ++ b ++ c :: (s' ++ (t ++ r)) := by simp
    have hvalue : skipBlanks p₁ (c :: (s' ++ (t ++ r))) = ⟨c :: (s' ++ (t ++ r)), p₁⟩ :=
      if_neg (by simp at hc ⊢; tauto)
    have hend : c ≠ ']' := by simp at hc; tauto
    rw [List.cons_append] at h₂
    rw [htext, h₁]
    cases hn <;> simp [Json.itemsAt, Cursor.blanks, hvalue, hend, h₂, h₃]

end ItemsRead

/-- A list reads between brackets as its items do. -/
theorem Reads.list {levels : Nat} {items : List Value} {t : List Char}
    (h : ItemsRead levels true items t) : Reads (levels + 1) (.list items) ('[' :: t) := by
  intro fuel r p hf _
  obtain ⟨f, rfl⟩ : ∃ f, fuel = f + 1 := ⟨fuel - 1, by simp at hf; omega⟩
  obtain ⟨nodes, p', he, hn⟩ := h.itemsAt f r (p.after '[') (by simpa using hf)
  exact ⟨.list nodes .closed p p', p', by simp [valueAt, Cursor.skip, he], .list hn⟩

/-- The entries of a record as texts, from some place on through the closing brace. -/
inductive EntriesRead (levels : Nat) : Bool → List (String × Value) → List Char → Prop
  | nil {first : Bool} {b : List Char} : Blanks b → EntriesRead levels first [] (b ++ ['\x7d'])
  | cons {first : Bool} {b b' s t : List Char} {k : String} {v : Value}
    {entries : List (String × Value)} : Blanks b → Blanks b' → Reads levels v s →
    EntriesRead levels false entries t →
    EntriesRead levels first ((k, v) :: entries)
      (comma first ++ b ++ literalText k.toList ++ ':' :: b' ++ s ++ t)

namespace EntriesRead

variable {levels : Nat} {first : Bool} {entries : List (String × Value)} {t : List Char}

theorem stops (h : EntriesRead levels false entries t) (r : List Char) : Stops (t ++ r) := by
  cases h with
  | @nil _ b hb =>
    rw [List.append_assoc]
    exact stops_append hb (by decide)
  | cons _ _ _ _ => exact stops_append blanks_nil (by decide)

/-- What stands before an entry is passed over. -/
theorem entriesAt_before {b : List Char} (hb : Blanks b) (fuel : Nat) (u : List Char) (p : Place) :
    ∃ p', Json.entriesAt (fuel + 1) levels first ⟨comma first ++ b ++ '"' :: u, p⟩ =
      Json.entriesAt (fuel + 1) levels true ⟨'"' :: u, p'⟩ := by
  obtain ⟨p', hp⟩ := skipBlanks_append (r := u) hb (show '"' ∉ _ by decide)
    (if first then p else p.after ',')
  refine ⟨p', ?_⟩
  have hname : skipBlanks p' ('"' :: u) = ⟨'"' :: u, p'⟩ := rfl
  cases first with
  | true =>
    simp only [if_true] at hp
    simp [comma, Json.entriesAt, Cursor.blanks, hp, hname]
  | false =>
    have hcomma : skipBlanks p (',' :: (b ++ '"' :: u)) = ⟨',' :: (b ++ '"' :: u), p⟩ := rfl
    simp only [Bool.false_eq_true, if_false] at hp
    simp [comma, Json.entriesAt, Cursor.blanks, Cursor.skip, hp, hname, hcomma]

/-- The entries of a record are found, through its closing brace. -/
theorem entriesAt (h : EntriesRead levels first entries t) :
    ∀ fuel r p, t.length ≤ fuel → ∃ nodes p',
      Json.entriesAt fuel levels first ⟨t ++ r, p⟩ = (nodes, .closed, ⟨r, p'⟩) ∧
      EntriesDenote nodes entries := by
  induction h with
  | @nil first b hb =>
    intro fuel r p hf
    obtain ⟨f, rfl⟩ : ∃ f, fuel = f + 1 := ⟨fuel - 1, by simp at hf; omega⟩
    obtain ⟨p', hp⟩ := skipBlanks_append (r := r) hb (show '\x7d' ∉ _ by decide) p
    refine ⟨[], p'.after '\x7d', ?_, .nil⟩
    simp only [Json.entriesAt, Cursor.blanks, List.append_assoc, List.cons_append,
      List.nil_append, hp, Cursor.skip]
  | @cons first b b' s t k v entries hb hb' hv h ih =>
    intro fuel r p hf
    obtain ⟨f, rfl⟩ : ∃ f, fuel = f + 1 := ⟨fuel - 1, by simp at hf; omega⟩
    have hlen : s.length ≤ f ∧ t.length ≤ f := by
      simp [literalText] at hf
      omega
    obtain ⟨c, s', rfl, hc⟩ := hv.head
    obtain ⟨u, hu⟩ : ∃ u, literalText k.toList ++ ':' :: (b' ++ c :: (s' ++ (t ++ r))) = '"' :: u :=
      ⟨_, rfl⟩
    have htext : comma first ++ b ++ literalText k.toList ++ ':' :: b' ++ (c :: s') ++ t ++ r =
        comma first ++ b ++ '"' :: u := by
      simp [← hu]
    -- the name, the colon, the value, and the entries that follow
    obtain ⟨p₁, h₁⟩ := @entriesAt_before levels first b hb f u p
    obtain ⟨p₂, h₂⟩ := stringAt_literalText k.toList (':' :: (b' ++ c :: (s' ++ (t ++ r)))) p₁
    obtain ⟨p₃, h₃⟩ := skipBlanks_append (r := s' ++ (t ++ r)) hb' (c := c)
      (by simp at hc ⊢; tauto) (p₂.after ':')
    obtain ⟨n, p₄, h₄, hn⟩ := hv f (t ++ r) p₃ hlen.1 (h.stops r)
    obtain ⟨nodes, p₅, h₅, hnodes⟩ := ih f r p₄ hlen.2
    rw [hu, String.ofList_toList] at h₂
    refine ⟨(⟨k, p₂, none⟩, n) :: nodes, p₅, ?_, .cons rfl hn hnodes⟩
    have hname : skipBlanks p₁ ('"' :: u) = ⟨'"' :: u, p₁⟩ := rfl
    have hcolon : skipBlanks p₂ (':' :: (b' ++ c :: (s' ++ (t ++ r)))) =
      ⟨':' :: (b' ++ c :: (s' ++ (t ++ r))), p₂⟩ := rfl
    rw [List.cons_append] at h₄
    rw [htext, h₁]
    simp [Json.entriesAt, Cursor.blanks, Cursor.skip, hname, h₂, hcolon, h₃, h₄, hn.unbroken, h₅]

end EntriesRead

/-- A record reads between braces as its entries do. -/
theorem Reads.record {levels : Nat} {entries : List (String × Value)} {t : List Char}
    (h : EntriesRead levels true entries t) :
    Reads (levels + 1) (.record entries) ('\x7b' :: t) := by
  intro fuel r p hf _
  obtain ⟨f, rfl⟩ : ∃ f, fuel = f + 1 := ⟨fuel - 1, by simp at hf; omega⟩
  obtain ⟨nodes, p', he, hn⟩ := h.entriesAt f r (p.after '\x7b') (by simpa using hf)
  exact ⟨.object nodes .closed p p', p', by simp [valueAt, Cursor.skip, he], .record hn⟩

/-- Entries without blanks between them, of which there is at least one. -/
theorem EntriesRead.compact {levels : Nat} {first : Bool} {e : String × Value}
    {entries : List (String × Value)}
    (h : ∀ e' ∈ e :: entries, Reads levels e'.2 (Json.compact e'.2)) :
    EntriesRead levels first (e :: entries)
      (comma first ++ compactEntries ((e :: entries).map fun (k, v) => (.text k, v)) ++
        ['\x7d']) := by
  induction entries generalizing e first with
  | nil =>
    have : EntriesRead levels first [(e.1, e.2)] _ :=
      .cons blanks_nil blanks_nil (h e List.mem_cons_self) (.nil blanks_nil)
    simpa [compactEntries, keyText] using this
  | cons e' entries ih =>
    obtain ⟨he, h⟩ := List.forall_mem_cons.1 h
    have : EntriesRead levels first ((e.1, e.2) :: e' :: entries) _ :=
      .cons blanks_nil blanks_nil he (ih h)
    simpa [compactEntries, keyText, comma] using this

/-- A record on one line reads back, if its values do. -/
theorem Reads.compact {levels : Nat} {entries : List (String × Value)} (hne : entries ≠ [])
    (h : ∀ e ∈ entries, Reads levels e.2 (Json.compact e.2)) :
    Reads (levels + 1) (.record entries) (Json.compact (.record entries)) := by
  obtain ⟨e, entries, rfl⟩ := List.exists_cons_of_ne_nil hne
  have := Reads.record (.compact h)
  simpa [comma, Value.record, Json.compact] using this

/-! ## Documents -/

/-- A text that reads as a value is a document whose node denotes the value. -/
theorem Reads.document {v : Value} {s : List Char} (h : Reads levelLimit v s) :
    ∃ n, Document.ofText s = ⟨n, none⟩ ∧ Denotes n v := by
  obtain ⟨c, t, rfl, hc⟩ := h.head
  obtain ⟨p, hp⟩ := skipBlanks_append (r := t) (c := c) blanks_nil (by simp at hc ⊢; tauto) ⟨1, 0⟩
  obtain ⟨n, p', he, hn⟩ := h (2 * (c :: t).length + 4) [] p (by omega) stops_nil
  rw [List.nil_append] at hp
  rw [List.append_nil] at he
  have hend : skipBlanks p' [] = ⟨[], p'⟩ := rfl
  refine ⟨n, ?_, hn⟩
  simp only [Document.ofText, Cursor.blanks, hp, he, hend, List.isEmpty_nil, if_true]

end Json

/-! ## Decoders -/

namespace Decoder

open Json

variable {α β : Type} {d : Decoder α}

/-- A decoder reads a node as it reads the value that the node denotes. -/
def Agrees (d : Decoder α) : Prop :=
  ∀ n v a, Denotes n v → d.ofValue false v = .ok a → d.ofJson n = .ok a

theorem Agrees.map (h : d.Agrees) (f : α → β) : (d.map f).Agrees := by
  intro n v b hn hv
  have hv : (d.ofValue false v).map f = .ok b := hv
  rcases hd : d.ofValue false v with m | a <;> rw [hd] at hv
  · cases hv
  · cases hv
    have he : (d.map f).ofJson n = (d.ofJson n).map f := rfl
    rw [he, h n v a hn hd]
    rfl

theorem agrees_ofScalar {expected : String} {read : Value → Except Mistake α}
    {ofYaml : Yaml.Scalar → Option (Except Mistake α)}
    (hlist : ∀ items a, read (.list items) ≠ .ok a)
    (hmap : ∀ entries a, read (.map entries) ≠ .ok a) :
    (ofScalar expected read ofYaml).Agrees := by
  intro n v a hn hv
  have hv : read v = .ok a := hv
  cases hn with
  | scalar _ => simp only [ofScalar, hv]
  | list _ => exact absurd hv (hlist _ a)
  | record _ => exact absurd hv (hmap _ a)

theorem agrees_parsed (expected : String) (parse : String → Except String α) :
    (parsed expected parse).Agrees :=
  agrees_ofScalar (fun _ _ => nofun) fun _ _ => nofun

theorem agrees_text : Decoder.text.Agrees := agrees_parsed _ _

theorem agrees_path : Decoder.path.Agrees := agrees_parsed _ _

theorem agrees_flag : Decoder.flag.Agrees := by
  unfold Decoder.flag
  exact agrees_ofScalar (fun _ _ => nofun) fun _ _ => nofun

theorem agrees_nat (bound : Nat) (type : String) : (Decoder.nat bound type).Agrees := by
  unfold Decoder.nat
  exact agrees_ofScalar (fun _ _ => nofun) fun _ _ => nofun

theorem Agrees.option (h : d.Agrees) : d.option.Agrees := by
  intro n v a hn hv
  by_cases hnull : v = .null
  · subst hnull
    cases hn with
    | scalar _ => exact congrArg Except.ok (Except.ok.inj hv)
  · have hv : (d.map some).ofValue false v = .ok a := by
      rw [← hv]
      cases v <;> first | rfl | exact absurd rfl hnull
    rw [← h.map some n v a hn hv]
    cases hn with
    | scalar _ => cases v <;> first | rfl | exact absurd rfl hnull
    | list _ => rfl
    | record _ => rfl

theorem Agrees.jsonItems_eq (h : d.Agrees) {nodes : List Node} {items : List Value} {as : List α}
    (hn : ItemsDenote nodes items) (hv : items.mapM (d.ofValue false) = .ok as) :
    jsonItems d nodes = .ok as := by
  induction nodes generalizing items as with
  | nil =>
    cases hn
    cases hv
    rfl
  | cons n nodes ih =>
    cases hn with
    | @cons _ v _ items hn hnodes =>
      rw [List.mapM_cons] at hv
      obtain ⟨a, ha, hv⟩ := bind_ok.1 hv
      obtain ⟨as, has, hv⟩ := bind_ok.1 hv
      cases hv
      simp only [jsonItems, h n v a hn ha, ih hnodes has, bind, Except.bind]
      rfl

theorem Agrees.list (h : d.Agrees) : d.list.Agrees := by
  intro n v as hn hv
  cases hn with
  | @scalar v _ _ hs =>
    cases v <;> first | cases hv | cases hs
  | record _ => cases hv
  | @list nodes items _ _ hitems =>
    have hv : items.mapM (d.ofValue false) = .ok as := hv
    simp only [Decoder.list, h.jsonItems_eq hitems hv, bind, Except.bind]
    rfl

end Decoder

namespace Record

open Json

variable {σ : Type} {fields : List (Field σ)} {init : σ} {typeName : String}

theorem agrees_field {α : Type} {d : Decoder α} (h : d.Agrees) (name : String)
    (presence : Presence) (put : α → σ → σ) : (field name presence d put).read.Agrees :=
  h.map put

theorem ofJsonEntries_eq (hf : ∀ f ∈ fields, f.read.Agrees) {nodes : List (Key × Node)}
    {entries : List (String × Value)} (h : EntriesDenote nodes entries) {p q : Partial σ}
    (he : ofEntries false fields p (entries.map fun (k, v) => (.text k, v)) = .ok q) :
    ofJsonEntries fields p nodes = .ok q := by
  induction nodes generalizing entries p with
  | nil =>
    cases h
    cases he
    rfl
  | cons e nodes ih =>
    obtain ⟨k, n⟩ := e
    cases h with
    | @cons _ _ v _ entries hk hn h =>
      simp only [List.map_cons, ofEntries, keyed, bind, Except.bind] at he
      simp only [ofJsonEntries, bind, Except.bind]
      cases hnamed : named fields k.text with
      | none =>
        rw [hnamed] at he
        simp only [hk]
        exact ih h he
      | some f =>
        rw [hnamed] at he
        simp only at he ⊢
        split at he
        · cases he
        · rename_i hnew
          rw [if_neg hnew]
          rcases hread : f.read.ofValue false v with m | change <;> rw [hread] at he
          · cases he
          · have hmem : f ∈ fields := List.mem_of_find?_eq_some hnamed
            rw [hf f hmem n v change hn hread]
            exact ih h he

theorem ofJsonItems_eq (hf : ∀ f ∈ fields, f.read.Agrees) {nodes : List Node} {items : List Value}
    (h : ItemsDenote nodes items) {short : Nat → Mistake} {count : Nat} {r s : σ}
    (he : ofItems false short count r fields items = .ok s) :
    ofJsonItems count r fields nodes = .ok (.ok (s, nodes.drop fields.length)) := by
  induction fields generalizing nodes items count r with
  | nil =>
    cases he
    rfl
  | cons f fields ih =>
    obtain ⟨hread, hf⟩ := List.forall_mem_cons.1 hf
    cases h with
    | nil =>
      unfold ofItems at he
      unfold ofJsonItems
      split at he
      · rename_i hfree
        rw [if_pos hfree, ih hf .nil he, List.drop_nil, List.drop_nil]
      · cases he
    | @cons n v nodes items hn h =>
      obtain ⟨change, hchange, he⟩ := bind_ok.1 he
      simp only [ofJsonItems, hread n v change hn hchange, bind, Except.bind]
      exact ih hf h he

/-- A record is read from a text as it is read from the value that the text denotes, if its fields
are. -/
theorem agrees (hf : ∀ f ∈ fields, f.read.Agrees) :
    (Decoder.record typeName init fields).Agrees := by
  intro n v a hn hv
  have hv : ofValue typeName init fields false v = .ok a := hv
  cases hn with
  | @scalar v _ _ hs =>
    cases v <;> first | cases hv | cases hs
  | @list nodes items _ _ h =>
    obtain ⟨s, he, hv⟩ := bind_ok.1 hv
    have hlength : items.length ≤ fields.length := by
      by_contra hlong
      rw [if_pos (Nat.not_le.1 hlong)] at hv
      cases hv
    rw [if_neg (Nat.not_lt.2 hlength)] at hv
    cases hv
    have hrest : nodes.drop fields.length = [] :=
      List.drop_eq_nil_of_le (by rw [h.length_eq]; exact hlength)
    have hjson : (Decoder.record typeName init fields).ofJson = ofJson typeName init fields := rfl
    simp only [hjson, ofJson, ofJsonItems_eq hf h he, hrest, bind, Except.bind]
    rfl
  | record h =>
    obtain ⟨q, he, hfinish⟩ := bind_ok.1 hv
    have hjson : (Decoder.record typeName init fields).ofJson = ofJson typeName init fields := rfl
    simp only [hjson, ofJson, ofJsonEntries_eq hf h he, hfinish, bind, Except.bind]
    rfl

end Record

/-- What a decoder makes of a value, it makes of a text that reads as the value. -/
theorem Decoder.readJson_reads {α : Type} {d : Decoder α} (hd : d.Agrees) {v : Value} {a : α}
    {s : List Char} (hs : Json.Reads Json.levelLimit v s) (hv : d.ofValue false v = .ok a) :
    d.readJson s = .ok a := by
  obtain ⟨n, he, hn⟩ := hs.document
  simp only [readJson, he, hd n v a hn hv]
  rfl

end Rehearsal
