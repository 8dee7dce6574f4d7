import Rehearsal.Text.Substitution

/-!
# Occurrences of a text

Where a part can occur in a text that is put together. No occurrence starts in a text that
`mayStart` denies, and none reaches from the front into a text that is `Apart` from the part. So
what follows the occurrences can be listed text by text (`Quiet.append`), and they can be replaced
text by text (`replaceAll_append`); a text that is both is left as it stands (`Inert.replaceAll`).
-/

namespace Rehearsal.Text

/-! ## Where an occurrence can start -/

/-- Whether an occurrence of a part may start in a text: an end of the text begins the part, or the
part begins an end of the text. -/
def mayStart (part : List Char) : List Char → Bool
  | [] => false
  | c :: r => (c :: r).isPrefixOf part || part.isPrefixOf (c :: r) || mayStart part r

theorem mayStart_cons {part : List Char} {c : Char} {r : List Char}
    (h : mayStart part (c :: r) = false) (t : List Char) :
    dropBeginning? part (c :: (r ++ t)) = none ∧ mayStart part r = false := by
  simp only [mayStart, Bool.or_eq_false_iff] at h
  obtain ⟨⟨h1, h2⟩, h3⟩ := h
  refine ⟨?_, h3⟩
  cases hd : dropBeginning? part (c :: (r ++ t)) with
  | none => rfl
  | some u =>
    have he : c :: r ++ t = part ++ u := dropBeginning?_eq_some.1 hd
    have hp : c :: r <+: part ∨ part <+: c :: r :=
      List.prefix_or_prefix_of_prefix ⟨t, rfl⟩ ⟨u, he.symm⟩
    simp only [← List.isPrefixOf_iff_prefix, h1, h2, Bool.false_eq_true, or_self] at hp

/-- A part does not start in a text without its first character. -/
theorem mayStart_of_not_mem {a : Char} {part x : List Char} (h : a ∉ x) :
    mayStart (a :: part) x = false := by
  induction x with
  | nil => rfl
  | cons c r ih =>
    simp only [List.mem_cons, not_or] at h
    have h1 : (a == c) = false := by simpa using h.1
    have h2 : (c == a) = false := by simpa using Ne.symm h.1
    simp only [mayStart, List.isPrefixOf, h1, h2, Bool.false_and, ih h.2, Bool.or_self]

/-! ## What follows the occurrences -/

/-- What follows each occurrence of a text, which is not empty, in another one. -/
def following (part : List Char) : List Char → List (List Char)
  | [] => []
  | c :: r => (dropBeginning? part (c :: r)).toList ++ following part r

/-- A text that adds no occurrence of a part, whatever comes after it. -/
def Quiet (part x : List Char) : Prop := ∀ t, following part (x ++ t) = following part t

theorem Quiet.nil (part : List Char) : Quiet part [] := fun _ => rfl

theorem Quiet.append {part x y : List Char} (hx : Quiet part x) (hy : Quiet part y) :
    Quiet part (x ++ y) := fun t => by rw [List.append_assoc, hx, hy]

theorem Quiet.of_not_mayStart {part x : List Char} (h : mayStart part x = false) :
    Quiet part x := by
  induction x with
  | nil => exact Quiet.nil part
  | cons c r ih =>
    intro t
    obtain ⟨hd, hr⟩ := mayStart_cons h t
    simp only [List.cons_append, following, hd, Option.toList_none, List.nil_append]
    exact ih hr t

theorem following_self {part : List Char} (hp : part ≠ []) (h : Quiet part part.tail)
    (t : List Char) : following part (part ++ t) = t :: following part t := by
  obtain ⟨a, p, rfl⟩ := List.exists_cons_of_ne_nil hp
  have hd : dropBeginning? (a :: p) (a :: (p ++ t)) = some t := dropBeginning?_eq_some.2 rfl
  have ht := h t
  simp only [List.tail_cons] at ht
  simp only [List.cons_append, following, hd, Option.toList_some, List.nil_append, ht]

/-! ## Replacing the occurrences -/

/-- No occurrence of a part starts before a text and reaches into it. -/
def Apart (part t : List Char) : Prop := ∀ x y, part = x ++ y → x ≠ [] → y ≠ [] → ¬ y <+: t

section
variable {part new : List Char}

theorem replaceFrom_append {t : List Char} (h : Apart part t) (a : List Char) (skip : Nat)
    (hs : skip ≤ a.length) :
    replaceFrom part new skip (a ++ t) = replaceFrom part new skip a ++ replaceAll part new t := by
  induction a generalizing skip with
  | nil =>
    obtain rfl : skip = 0 := by simpa using hs
    rfl
  | cons c r ih =>
    cases skip with
    | succ k => exact ih k (by simpa using hs)
    | zero =>
      simp only [List.cons_append, replaceFrom]
      cases hd : dropBeginning? part (c :: r) with
      | some u =>
        have he : c :: r = part ++ u := dropBeginning?_eq_some.1 hd
        have hd' : dropBeginning? part (c :: (r ++ t)) = some (u ++ t) :=
          dropBeginning?_eq_some.2 (by rw [← List.append_assoc, ← he, List.cons_append])
        have hl : part.length - 1 ≤ r.length := by
          have := congrArg List.length he
          simp only [List.length_cons, List.length_append] at this
          omega
        simp only [hd', ih _ hl, List.append_assoc]
      | none =>
        have hd' : dropBeginning? part (c :: (r ++ t)) = none := by
          cases hd' : dropBeginning? part (c :: (r ++ t)) with
          | none => rfl
          | some u =>
            -- the occurrence ends in the front text, which `hd` excludes, or reaches beyond it
            have he : c :: r ++ t = part ++ u := dropBeginning?_eq_some.1 hd'
            rcases List.append_eq_append_iff.1 he with ⟨y, hp, ht⟩ | ⟨y, hc, -⟩
            · by_cases hy : y = []
              · subst hy
                have he : dropBeginning? part (c :: r) = some [] :=
                  dropBeginning?_eq_some.2 (by simp [hp])
                rw [hd] at he
                cases he
              · exact absurd ⟨u, ht.symm⟩ (h _ y hp (List.cons_ne_nil c r) hy)
            · rw [dropBeginning?_eq_some.2 hc] at hd
              cases hd
        simp only [hd', ih 0 (Nat.zero_le _), List.cons_append]

theorem replaceAll_append {t : List Char} (h : Apart part t) (a : List Char) :
    replaceAll part new (a ++ t) = replaceAll part new a ++ replaceAll part new t :=
  replaceFrom_append h a 0 (Nat.zero_le _)

theorem replaceAll_of_not_mayStart {x : List Char} (h : mayStart part x = false) (t : List Char) :
    replaceAll part new (x ++ t) = x ++ replaceAll part new t := by
  induction x with
  | nil => rfl
  | cons c r ih =>
    obtain ⟨hd, hr⟩ := mayStart_cons h t
    have := ih hr
    simp only [replaceAll] at this
    simp only [replaceAll, List.cons_append, replaceFrom, hd, this]

theorem replaceFrom_length (r t : List Char) :
    replaceFrom part new r.length (r ++ t) = replaceAll part new t := by
  induction r with
  | nil => rfl
  | cons c r ih => exact ih

theorem replaceAll_self (hp : part ≠ []) (t : List Char) :
    replaceAll part new (part ++ t) = new ++ replaceAll part new t := by
  obtain ⟨a, p, rfl⟩ := List.exists_cons_of_ne_nil hp
  have hd : dropBeginning? (a :: p) (a :: (p ++ t)) = some t := dropBeginning?_eq_some.2 rfl
  simp only [replaceAll, List.cons_append, replaceFrom, hd, List.length_cons, Nat.add_sub_cancel]
  rw [replaceFrom_length, replaceAll]

end

/-- A text that has no occurrence of a part and does not take part in one, whatever stands around
it. -/
structure Inert (part x : List Char) : Prop where
  start : mayStart part x = false
  apart : ∀ t, Apart part (x ++ t)

theorem Inert.replaceAll {part x : List Char} (h : Inert part x) (new a t : List Char) :
    replaceAll part new (a ++ x ++ t) =
      replaceAll part new a ++ x ++ replaceAll part new t := by
  rw [List.append_assoc, replaceAll_append (h.apart t), replaceAll_of_not_mayStart h.start,
    List.append_assoc]

end Rehearsal.Text
