import Rehearsal.Placeholder
import Rehearsal.Proofs.Occurrence

/-!
# What placeholders stand for

Placeholders are replaced one after the other, so a value could spoil the placeholder of a name that
comes later, or a later pass could change what an earlier one put in. Neither happens for the key of
the course (`Placeholders.gives_courseKey`) and for the letters of the run
(`Placeholders.gives_unique`): wherever their placeholders stand in a text, the expanded text has
the value there, and without a key the placeholder as it was.
-/

namespace Rehearsal.Placeholders

open Text

/-- A text with the value of one name put for its placeholder, if there is a value. -/
def put (s : List Char) : String × Option String → List Char
  | (name, some v) => replaceAll (token name) v.toList s
  | (_, none) => s

theorem expandText_eq (p : Placeholders) (s : List Char) :
    p.expandText s = p.values.foldl put s := by
  unfold expandText
  refine congrArg (fun f => List.foldl f s p.values) ?_
  funext s ⟨name, value⟩
  cases value <;> rfl

/-- Wherever the placeholder of a name stands in a text, the expanded text has another text. -/
def Gives (p : Placeholders) (name : String) (x : List Char) : Prop :=
  ∀ a b, p.expandText (a ++ token name ++ b) = p.expandText a ++ x ++ p.expandText b

/-! ## Passes that leave a text alone -/

theorem token_eq (name : String) : token name = '\x7b' :: (name.toList ++ ['\x7d']) := rfl

/-- No occurrence of a placeholder reaches over an opening brace. -/
theorem apart_token {name : String} (h : '\x7b' ∉ name.toList) (t : List Char) :
    Apart (token name) ('\x7b' :: t) := by
  intro x y hxy hx hy hp
  obtain ⟨c, x, rfl⟩ := List.exists_cons_of_ne_nil hx
  obtain ⟨d, y, rfl⟩ := List.exists_cons_of_ne_nil hy
  obtain ⟨z, hz⟩ := hp
  obtain rfl : d = '\x7b' := (List.cons.inj hz).1
  have hm : '\x7b' ∈ name.toList ++ ['\x7d'] := by
    rw [token_eq, List.cons_append] at hxy
    rw [(List.cons.inj hxy).2]
    simp
  rcases List.mem_append.1 hm with hm | hm
  · exact h hm
  · simp at hm

theorem inert_token {name other : String} (h : '\x7b' ∉ name.toList)
    (hs : mayStart (token name) (token other) = false) : Inert (token name) (token other) :=
  ⟨hs, fun _ => apart_token h _⟩

theorem foldl_put_inert {x : List Char} :
    ∀ (values : List (String × Option String)) (a b : List Char),
      (∀ v ∈ values, Inert (token v.1) x) →
      values.foldl put (a ++ x ++ b) = values.foldl put a ++ x ++ values.foldl put b
  | [], _, _, _ => rfl
  | (name, none) :: values, a, b, h =>
    foldl_put_inert values a b fun v hv => h v (List.mem_cons_of_mem _ hv)
  | (name, some v) :: values, a, b, h => by
    have hi : Inert (token name) x := h _ List.mem_cons_self
    simp only [List.foldl_cons, put, hi.replaceAll]
    exact foldl_put_inert values _ _ fun v hv => h v (List.mem_cons_of_mem _ hv)

/-- The end of a placeholder has its closing brace. -/
theorem closing_mem_of_token {name : String} {x y : List Char} (h : token name = x ++ y)
    (hy : y ≠ []) : '\x7d' ∈ y := by
  obtain ⟨z, d, rfl⟩ := (List.eq_nil_or_concat y).resolve_left hy
  have he : token name = (x ++ z) ++ [d] := by
    rw [h, List.concat_eq_append, List.append_assoc]
  obtain rfl : '\x7d' = d := List.singleton_inj.1 (List.append_inj' he rfl).2
  simp

theorem put_token {name : String} (h : '\x7b' ∉ name.toList) (v : String) (a b : List Char) :
    put (a ++ token name ++ b) (name, some v) =
      put a (name, some v) ++ v.toList ++ put b (name, some v) := by
  have ha : Apart (token name) (token name ++ b) := apart_token h _
  simp only [put]
  rw [List.append_assoc, replaceAll_append ha, replaceAll_self (by simp [token]), List.append_assoc]

/-! ## The key of the course -/

/-- The names that are replaced before the key of the course. -/
def earlier : List String :=
  ["lms", "cms", "staff_email", "learner_email", "unique", "demo_course_id", "mail"]

theorem inert_courseKey {name : String} (h : name ∈ earlier) :
    Inert (token name) (token "course_key") := by
  have hs : ∀ n ∈ earlier, '\x7b' ∉ n.toList ∧ mayStart (token n) (token "course_key") = false := by
    decide +kernel
  exact inert_token (hs name h).1 (hs name h).2

/-- The placeholder of the course stands for its key, and for itself as long as there is none. -/
theorem gives_courseKey (p : Placeholders) :
    p.Gives "course_key" ((p.courseKey.map String.toList).getD (token "course_key")) := by
  intro a b
  have hv : p.values = p.values.take 7 ++ [("course_key", p.courseKey)] := rfl
  have hi : ∀ v ∈ p.values.take 7, Inert (token v.1) (token "course_key") := by
    intro v hv
    refine inert_courseKey ?_
    have : (p.values.take 7).map Prod.fst = earlier := rfl
    rw [← this]
    exact List.mem_map_of_mem hv
  simp only [expandText_eq]
  rw [hv]
  simp only [List.foldl_append, List.foldl_cons, List.foldl_nil, foldl_put_inert _ a b hi]
  cases p.courseKey with
  | none => rfl
  | some key => exact put_token (by decide) key _ _

/-! ## The letters of a run -/

/-- A text of letters from a to z that is longer than any run of letters in a placeholder. -/
structure Lettered (x : List Char) : Prop where
  letters : ∀ c ∈ x, c.isLower = true
  long : 10 ≤ x.length

theorem Lettered.inert {x : List Char} (h : Lettered x) {name : String}
    (hn : name ∈ ["demo_course_id", "mail", "course_key"]) : Inert (token name) x := by
  have hb : ∀ c ∈ x, c ≠ '\x7b' ∧ c ≠ '\x7d' := by
    intro c hc
    constructor <;> rintro rfl <;> exact absurd (h.letters _ hc) (by decide)
  refine ⟨mayStart_of_not_mem fun hc => (hb _ hc).1 rfl, fun t u y hxy hu hy hp => ?_⟩
  -- the end of the placeholder is a brace, so the occurrence goes beyond the letters
  have hlast : '\x7d' ∈ y := closing_mem_of_token hxy hy
  rcases List.prefix_or_prefix_of_prefix hp ⟨t, rfl⟩ with hyx | hxy'
  · exact (hb _ (hyx.subset hlast)).2 rfl
  · obtain ⟨z, rfl⟩ := hxy'
    have hten : ((token name).drop u.length).take 10 = x.take 10 := by
      rw [hxy, List.drop_left, List.take_append_of_le_length h.long]
    have hlower : (((token name).drop u.length).take 10).all Char.isLower = true := by
      rw [hten, List.all_eq_true]
      exact fun c hc => h.letters c (List.mem_of_mem_take hc)
    have hlen : u.length + 10 ≤ (token name).length := by
      have := h.long
      simp only [hxy, List.length_append]
      omega
    have hno : ∀ n ∈ ["demo_course_id", "mail", "course_key"], ∀ k < (token n).length,
        k + 10 ≤ (token n).length → (((token n).drop k).take 10).all Char.isLower = false := by
      decide +kernel
    rw [hno name hn u.length (by omega) hlen] at hlower
    cases hlower

/-- The placeholder of the run stands for its letters. -/
theorem gives_unique (p : Placeholders) (h : Lettered p.unique.toList) :
    p.Gives "unique" p.unique.toList := by
  intro a b
  have hv : p.values = p.values.take 4 ++ ("unique", some p.unique) :: p.values.drop 5 := rfl
  have hi : ∀ v ∈ p.values.take 4, Inert (token v.1) (token "unique") := by
    have hs : ∀ n ∈ ["lms", "cms", "staff_email", "learner_email"],
        '\x7b' ∉ n.toList ∧ mayStart (token n) (token "unique") = false := by decide +kernel
    intro v hv
    have hm : v.1 ∈ (p.values.take 4).map Prod.fst := List.mem_map_of_mem hv
    exact inert_token (hs _ hm).1 (hs _ hm).2
  have hl : ∀ v ∈ p.values.drop 5, Inert (token v.1) p.unique.toList := by
    intro v hv
    have hm : v.1 ∈ (p.values.drop 5).map Prod.fst := List.mem_map_of_mem hv
    exact h.inert hm
  simp only [expandText_eq]
  rw [hv]
  simp only [List.foldl_append, List.foldl_cons, foldl_put_inert _ a b hi,
    put_token (by decide : '\x7b' ∉ "unique".toList), foldl_put_inert _ _ _ hl]

end Rehearsal.Placeholders
