import Rehearsal.Course.Settings
import Rehearsal.Proofs.Runs

/-!
# Records are read as they are written

What decoders make of dynamic values, for all records at once. A record that is written with all its
fields, in order, is read back as the same record (`Record.ofValue_written`); so is a tagged one,
whose tag picks the alternative (`Tagged.ofValue_written`). Conversely, what is read of a tagged
value comes from the alternative that its tag names (`Tagged.ofValue_ok`), and keeps all that the
fields of that alternative keep (`Record.ofValue_keeps`).
-/

namespace Rehearsal

open Data

/-! ## Single values -/

namespace Decoder

variable {α : Type} {d : Decoder α} {setAside : Bool}

theorem ofValue_text (s : String) : Decoder.text.ofValue setAside (.text s) = .ok s := rfl

theorem ofValue_flag (b : Bool) : Decoder.flag.ofValue setAside (.flag b) = .ok b := rfl

theorem ofValue_nat {n bound : Nat} {type : String} (h : n < bound) :
    (Decoder.nat bound type).ofValue setAside (.nat n) = .ok n := by
  have hn : (0 : Int) ≤ n ∧ (n : Int) < bound := ⟨Int.natCast_nonneg n, Int.ofNat_lt.2 h⟩
  have he : (Decoder.nat bound type).ofValue setAside (.nat n) =
      if (0 : Int) ≤ n ∧ (n : Int) < bound then .ok (n : Int).toNat
      else .error (.wrongValue (.int n) type) := rfl
  rw [he, if_pos hn, Int.toNat_natCast]

/-- What may be absent is read back if what is there is, and is not written as null. -/
theorem ofValue_option {write : α → Value} {a : Option α}
    (h : ∀ x ∈ a, d.ofValue setAside (write x) = .ok x ∧ write x ≠ .null) :
    d.option.ofValue setAside (.orNull (a.map write)) = .ok a := by
  cases a with
  | none => rfl
  | some x =>
    obtain ⟨hx, hne⟩ := h x rfl
    simp only [option, Option.map_some, Value.orNull]
    rw [hx]
    rfl

theorem ofValue_list {write : α → Value} {as : List α}
    (h : ∀ a ∈ as, d.ofValue setAside (write a) = .ok a) :
    d.list.ofValue setAside (.list (as.map write)) = .ok as := by
  have he : d.list.ofValue setAside (.list (as.map write)) =
    (as.map write).mapM (d.ofValue setAside) := rfl
  rw [he, mapM_ok, List.forall₂_map_left_iff]
  exact List.forall₂_same.2 h

/-- A choice is read back from the name under which it is known. -/
theorem ofValue_choice {values : List (String × α)} {name : String} {a : α}
    (h : values.find? (·.1 = name) = some (name, a)) :
    (choice values).ofValue setAside (.text name) = .ok a := by
  have he : (Decoder.choice values).ofValue setAside (.text name) = Choice.named values name := rfl
  rw [he, Choice.named, h]

end Decoder

/-! ## Records -/

namespace Record

variable {σ : Type} {setAside : Bool} {fields all : List (Field σ)}
  {entries : List (String × Value)} {init r s : σ}

/-- Entries that give each of some fields a value, in order, and make one record another. -/
inductive Written (setAside : Bool) : List (Field σ) → List (String × Value) → σ → σ → Prop
  | nil {r : σ} : Written setAside [] [] r r
  | cons {f : Field σ} {fs : List (Field σ)} {v : Value} {es : List (String × Value)}
    {change : σ → σ} {r s : σ} : f.read.ofValue setAside v = .ok change →
    Written setAside fs es (change r) s → Written setAside (f :: fs) ((f.name, v) :: es) r s

theorem Written.field {α : Type} {name : String} {presence : Presence} {d : Decoder α}
    {put : α → σ → σ} {v : Value} {a : α} (ha : d.ofValue setAside v = .ok a)
    (h : Written setAside fields entries (put a r) s) :
    Written setAside (field name presence d put :: fields) ((name, v) :: entries) r s := by
  refine .cons (f := Rehearsal.field name presence d put) ?_ h
  have he : (Rehearsal.field name presence d put).read.ofValue setAside v =
    (d.ofValue setAside v).map put := rfl
  rw [he, ha]
  rfl

theorem Written.names (h : Written setAside fields entries r s) :
    entries.map (·.1) = fields.map (·.name) := by
  induction h with
  | nil => rfl
  | cons _ _ ih => rw [List.map_cons, List.map_cons, ih]

/-- Entries that give fields a value are put into a record in which these fields are not given yet;
all of them are given then. -/
theorem ofEntries_written (hn : (all.map (·.name)).Nodup) {given : List String}
    (hsub : ∀ f ∈ fields, f ∈ all) (hnew : ∀ f ∈ fields, f.name ∉ given)
    (hfields : (fields.map (·.name)).Nodup) (h : Written setAside fields entries r s) :
    ∃ after, (∀ f ∈ fields, f.name ∈ after) ∧ given ⊆ after ∧
      ofEntries setAside all ⟨r, given⟩ (entries.map fun (k, v) => (.text k, v)) =
        .ok ⟨s, after⟩ := by
  induction h generalizing given with
  | nil => exact ⟨given, nofun, List.Subset.refl _, rfl⟩
  | @cons f fs v es change r s hread _ ih =>
    obtain ⟨hmem, hsub⟩ := List.forall_mem_cons.1 hsub
    obtain ⟨hf, hnew⟩ := List.forall_mem_cons.1 hnew
    obtain ⟨hother, hfs⟩ := List.nodup_cons.1 hfields
    have hlater : ∀ g ∈ fs, g.name ∉ f.name :: given := by
      intro g hg hm
      rcases List.mem_cons.1 hm with he | hm
      · exact hother (List.mem_map.2 ⟨g, hg, he⟩)
      · exact hnew g hg hm
    obtain ⟨after, hall, hgiven, he⟩ := ih hsub hlater hfs
    refine ⟨after, List.forall_mem_cons.2 ⟨hgiven List.mem_cons_self, hall⟩,
      fun x hx => hgiven (List.mem_cons_of_mem _ hx), ?_⟩
    have hcontains : given.contains f.name = false := by
      simpa using hf
    have hf : named all f.name = some f := find?_of_nodup hn hmem
    simp only [List.map_cons, ofEntries, keyed, hf, hread, hcontains, bind, Except.bind]
    exact he

/-- A record that is written with some of its fields, in order, is read back if no field is missing
that must be given. -/
theorem ofValue_written_sublist (typeName : String) (hn : (all.map (·.name)).Nodup)
    (hsub : fields.Sublist all) (hrequired : ∀ f ∈ all, f.presence = .required → f ∈ fields)
    (h : Written setAside fields entries init r) :
    ofValue typeName init all setAside (.record entries) = .ok r := by
  obtain ⟨after, hgiven, -, he⟩ :=
    ofEntries_written hn (fun _ hf => hsub.subset hf) (fun _ _ => List.not_mem_nil)
      (hn.sublist (hsub.map _)) h
  have hfinish : finish all ⟨r, after⟩ = .ok r := by
    have hmissing : missing all after = none := by
      unfold missing
      rw [List.find?_eq_none.2 ?_]
      · rfl
      · intro f hf
        by_cases hp : f.presence = .required
        · simp [hgiven f (hrequired f hf hp)]
        · simp [hp]
    simp only [finish, hmissing]
  simp only [ofValue, Value.record]
  rw [he]
  exact hfinish

/-- A record that is written field by field is read back. -/
theorem ofValue_written (typeName : String) (hn : (fields.map (·.name)).Nodup)
    (h : Written setAside fields entries init r) :
    ofValue typeName init fields setAside (.record entries) = .ok r :=
  ofValue_written_sublist typeName hn (List.Sublist.refl _) (fun _ hf _ => hf) h

/-! ### What the fields keep -/

/-- Whatever a field reads, a record that has a property has it after the field is put in. -/
def Keeps (P : σ → Prop) (f : Field σ) : Prop :=
  ∀ setAside v change, f.read.ofValue setAside v = .ok change → ∀ r, P r → P (change r)

theorem keeps_field {α : Type} {P : σ → Prop} {name : String} {presence : Presence} {d : Decoder α}
    {put : α → σ → σ}
    (h : ∀ setAside v a, d.ofValue setAside v = .ok a → ∀ r, P r → P (put a r)) :
    Keeps P (field name presence d put) := by
  intro setAside v change hread
  have he : (field name presence d put).read.ofValue setAside v =
    (d.ofValue setAside v).map put := rfl
  rw [he] at hread
  rcases hd : d.ofValue setAside v with m | a <;> rw [hd] at hread
  · cases hread
  · cases hread
    exact h setAside v a hd

variable {P : σ → Prop}

theorem ofEntries_keeps {es : List (Value × Value)} {p q : Partial σ}
    (hk : ∀ f ∈ fields, Keeps P f) (hp : P p.record)
    (h : ofEntries setAside fields p es = .ok q) : P q.record := by
  induction es generalizing p with
  | nil =>
    cases h
    exact hp
  | cons e es ih =>
    obtain ⟨k, v⟩ := e
    obtain ⟨found, hkey, h⟩ := bind_ok.1 h
    cases found with
    | none => exact ih hp h
    | some f =>
      have hf : f ∈ fields := by
        unfold keyed at hkey
        split at hkey
        · exact List.mem_of_find?_eq_some (Except.ok.inj hkey)
        · split at hkey
          · exact List.mem_of_getElem? (Except.ok.inj hkey)
          · cases hkey
        · cases hkey
      simp only at h
      split at h
      · cases h
      · obtain ⟨change, hread, h⟩ := bind_ok.1 h
        exact ih (hk f hf setAside v change hread _ hp) h

theorem ofItems_keeps {short : Nat → Mistake} {count : Nat} {items : List Value}
    (hk : ∀ f ∈ fields, Keeps P f) (hp : P r)
    (h : ofItems setAside short count r fields items = .ok s) : P s := by
  induction fields generalizing count r items with
  | nil =>
    cases h
    exact hp
  | cons f fs ih =>
    obtain ⟨hf, hfs⟩ := List.forall_mem_cons.1 hk
    cases items with
    | nil =>
      unfold ofItems at h
      split at h
      · exact ih hfs hp h
      · cases h
    | cons v rest =>
      obtain ⟨change, hread, h⟩ := bind_ok.1 h
      exact ih hfs (hf setAside v change hread _ hp) h

/-- A record that is read has what the record with nothing read has, if all fields keep it. -/
theorem ofValue_keeps {typeName : String} {v : Value} (hk : ∀ f ∈ fields, Keeps P f)
    (hp : P init) (h : ofValue typeName init fields setAside v = .ok r) : P r := by
  unfold ofValue at h
  split at h
  · obtain ⟨p, hentries, h⟩ := bind_ok.1 h
    unfold finish at h
    split at h
    · cases h
    · cases h
      exact ofEntries_keeps hk hp hentries
  · obtain ⟨record, hitems, h⟩ := bind_ok.1 h
    split at h
    · cases h
    · cases h
      exact ofItems_keeps hk hp hitems
  · cases h

end Record

/-! ## Tagged values -/

namespace Tagged

variable {α : Type} {alternatives : List (Alternative α)} {tag : String} {a : Alternative α}

theorem mem_of_named {name : String} (h : Choice.named (byName alternatives) name = .ok a) :
    a ∈ alternatives ∧ a.name = name := by
  unfold Choice.named at h
  split at h
  · rename_i n b hfind
    cases h
    obtain ⟨c, hc, he⟩ := List.mem_map.1 (List.mem_of_find?_eq_some hfind)
    cases he
    exact ⟨hc, by simpa using List.find?_some hfind⟩
  · cases h

/-- What an identifier names is an alternative whose name the identifier is, below its tags. -/
theorem identified_ok {v : Value} (h : Choice.identified false (byName alternatives) v = .ok a) :
    a ∈ alternatives ∧ v.untagged.text? = some a.name := by
  unfold Choice.identified at h
  split at h
  · rename_i name he
    obtain ⟨hm, hn⟩ := mem_of_named h
    exact ⟨hm, by rw [he, hn]; rfl⟩
  · simp at h
  · cases h

theorem get?_cons_of_tag (v : Value) (es : List (Value × Value)) :
    Value.get? tag (.map ((.text tag, v) :: es)) = some v := by
  simp [Value.get?]

theorem get?_cons_of_not_tag {k v : Value} {es : List (Value × Value)} (h : k ≠ .text tag) :
    Value.get? tag (.map ((k, v) :: es)) = Value.get? tag (.map es) := by
  simp only [Value.get?]
  rw [List.find?_cons_of_neg]
  intro hk
  cases k with
  | text name => exact h (congrArg Value.text (by simpa using hk))
  | _ => cases hk

/-- An entry beside the tag is set aside. -/
theorem split_cons_of_not_tag {k v : Value} {es : List (Value × Value)} (h : k ≠ .text tag)
    (chosen : Option (Alternative α)) : split tag alternatives chosen ((k, v) :: es) = (do
      let k ← setAside k
      let v ← setAside v
      let (chosen, rest) ← split tag alternatives chosen es
      return (chosen, (k, v) :: rest)) := by
  cases k with
  | text name =>
    have hn : name ≠ tag := fun he => h (congrArg Value.text he)
    simp only [split, decide_eq_false hn]
    rfl
  | _ => rfl

/-- The alternative that entries choose is the one chosen before, if there is one, and otherwise the
one that the entry of the tag names. -/
theorem split_ok {es rest : List (Value × Value)} {chosen : Option (Alternative α)}
    (h : split tag alternatives chosen es = .ok (some a, rest)) :
    chosen = some a ∨ chosen = none ∧ a ∈ alternatives ∧
      ∃ v, Value.get? tag (.map es) = some v ∧ v.untagged.text? = some a.name := by
  induction es generalizing chosen rest with
  | nil =>
    cases h
    exact .inl rfl
  | cons e es ih =>
    obtain ⟨k, v⟩ := e
    by_cases hk : k = .text tag
    · subst hk
      simp only [split, decide_true, if_true] at h
      rcases chosen with _ | b
      · obtain ⟨c, hc, h⟩ := bind_ok.1 h
        obtain ⟨hm, hv⟩ := identified_ok hc
        rcases ih h with hca | ⟨hca, -⟩
        · cases hca
          exact .inr ⟨rfl, hm, v, get?_cons_of_tag v es, hv⟩
        · cases hca
      · cases h
    · rw [split_cons_of_not_tag hk] at h
      obtain ⟨k', -, h⟩ := bind_ok.1 h
      obtain ⟨v', -, h⟩ := bind_ok.1 h
      obtain ⟨⟨c, rest'⟩, hs, h⟩ := bind_ok.1 h
      cases h
      rw [get?_cons_of_not_tag hk]
      exact ih hs

/-- What is read of a tagged value that has an entry for the tag is made by the alternative that
this entry names. -/
theorem ofValue_ok {typeName : String} {v : Value} {x : α} {found : Value}
    (hget : v.untagged.get? tag = some found)
    (h : ofValue typeName tag alternatives v = .ok x) :
    ∃ a ∈ alternatives, found.untagged.text? = some a.name ∧ ∃ content, a.read content = .ok x := by
  cases v with
  | map es =>
    obtain ⟨⟨chosen, rest⟩, hs, h⟩ := bind_ok.1 h
    cases chosen with
    | none => cases h
    | some a =>
      rcases split_ok hs with hn | ⟨-, hm, w, hw, hname⟩
      · cases hn
      · have hget : Value.get? tag (.map es) = some found := hget
        rw [hget] at hw
        cases hw
        exact ⟨a, hm, hname, _, h⟩
  | list items => cases hget
  | tagged t b => cases h
  | null => cases h
  | flag b => cases h
  | int n => cases h
  | float bits => cases h
  | text s => cases h

/-- Entries beside the tag that can be set aside are set aside as they are. -/
theorem split_rest {entries : List (String × Value)}
    (h : ∀ e ∈ entries, e.1 ≠ tag ∧ canSetAside e.2 = true) (chosen : Option (Alternative α)) :
    split tag alternatives chosen (entries.map fun (k, v) => (.text k, v)) =
      .ok (chosen, entries.map fun (k, v) => (.text k, v)) := by
  induction entries with
  | nil => rfl
  | cons e es ih =>
    obtain ⟨k, v⟩ := e
    obtain ⟨⟨hk, hv⟩, hes⟩ := List.forall_mem_cons.1 h
    have hkey : setAside (.text k) = .ok (.text k) := rfl
    have hval : setAside v = .ok v := by
      unfold setAside
      rw [if_pos hv]
    rw [List.map_cons, split_cons_of_not_tag (fun he => hk (Value.text.inj he)), hkey, hval,
      ih hes]
    rfl

/-- A tagged value that is written with its tag in front is read by the alternative of that name. -/
theorem ofValue_written (typeName : String) {entries : List (String × Value)}
    (hn : (alternatives.map (·.name)).Nodup) (ha : a ∈ alternatives)
    (h : ∀ e ∈ entries, e.1 ≠ tag ∧ canSetAside e.2 = true) :
    ofValue typeName tag alternatives (.record ((tag, .text a.name) :: entries)) =
      a.read (.record entries) := by
  have hnamed : Choice.named (byName alternatives) a.name = .ok a := by
    rw [Choice.named, byName, List.find?_map, Function.comp_def, find?_of_nodup hn ha]
    rfl
  have hid : Choice.identified false (byName alternatives) (.text a.name) = .ok a := hnamed
  simp only [Value.record, List.map_cons, ofValue, split, decide_true, if_true, hid,
    split_rest h, bind, Except.bind]
  rfl

end Tagged
end Rehearsal
