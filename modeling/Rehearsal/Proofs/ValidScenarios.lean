import Rehearsal.Proofs.SessionFirst

/-!
# Valid scenarios

A scenario is valid exactly if it has steps, first those of the session and then the others; one that
is not is refused with the place of its first other step and that of the first session step behind it
(`Scenario.validate_exact`). Validation counts the steps in front and those up to the late one
(`Scenario.lateSessionStep?_ok`); the places are these counts, by `FirstAfter.of_split`, and no two
places are first (`FirstAfter.unique`), so that the counts can be read off a late step as well.
-/

namespace Rehearsal

/-! ## First places -/

/-- A place of a list, counted from 1, that is the first one after another place whose item has a
property. -/
structure FirstAfter {α : Type} (p : α → Bool) (items : List α) (start place : Nat) : Prop where
  after : start < place
  holds : ∃ x, items[place - 1]? = some x ∧ p x = true
  first : ∀ k x, start < k → k < place → items[k - 1]? = some x → p x = false

namespace FirstAfter

variable {α : Type} {p : α → Bool} {items : List α} {start place other : Nat}

theorem within (h : FirstAfter p items start place) : place ≤ items.length := by
  obtain ⟨x, hx, -⟩ := h.holds
  obtain ⟨hlt, -⟩ := List.getElem?_eq_some_iff.1 hx
  omega

theorem not_lt (h : FirstAfter p items start place) (h' : FirstAfter p items start other) :
    ¬place < other := by
  intro hlt
  obtain ⟨x, hx, hp⟩ := h.holds
  rw [h'.first place x h.after hlt hx] at hp
  cases hp

theorem unique (h : FirstAfter p items start place) (h' : FirstAfter p items start other) :
    place = other := by
  have := h.not_lt h'
  have := h'.not_lt h
  omega

/-- An item with the property is at the first place after some items if the ones between do not have
it. -/
theorem of_split (front rest : List α) {middle : List α} {x : α} (hm : ∀ y ∈ middle, p y = false)
    (hx : p x = true) :
    FirstAfter p (front ++ (middle ++ x :: rest)) front.length
      (front.length + middle.length + 1) := by
  refine ⟨by omega, ⟨x, ?_, hx⟩, fun k y hk hlt hy => ?_⟩
  · rw [List.getElem?_append_right (by omega), List.getElem?_append_right (by omega)]
    have hzero : front.length + middle.length + 1 - 1 - front.length - middle.length = 0 := by omega
    rw [hzero]
    rfl
  · rw [List.getElem?_append_right (by omega), List.getElem?_append_left (by omega)] at hy
    exact hm y (List.mem_of_getElem? hy)

end FirstAfter

/-! ## Validation -/

namespace Scenario

/-- Session steps, and then others. -/
def SessionThenOthers (steps : List ScenarioStep) : Prop :=
  ∃ front rest, steps = front ++ rest ∧ (∀ s ∈ front, s.isSession = true) ∧
    ∀ s ∈ rest, s.isSession = false

variable {steps : List ScenarioStep} {first late n m : Nat}

theorem lateSessionStep?_none_iff :
    lateSessionStep? steps = none ↔ SessionThenOthers steps := by
  rw [lateSessionStep?_eq_none]
  constructor
  · intro h
    exact ⟨_, _, List.takeWhile_append_dropWhile.symm, fun s hs => List.mem_takeWhile_imp hs, h⟩
  · rintro ⟨front, rest, rfl, hfront, hrest⟩ s hs
    rw [List.dropWhile_append_of_pos hfront] at hs
    exact hrest s ((List.dropWhile_suffix _).subset hs)

/-- The counts cut the steps: session steps, at least one other, and a late session step. -/
theorem lateSessionStep?_ok (h : lateSessionStep? steps = some (n, m)) :
    ∃ front b middle s rest, steps = front ++ b :: (middle ++ s :: rest) ∧
      front.length = n ∧ middle.length + 1 = m ∧ (∀ x ∈ front, x.isSession = true) ∧
      b.isSession = false ∧ (∀ x ∈ middle, x.isSession = false) ∧ s.isSession = true := by
  unfold lateSessionStep? at h
  simp only [Option.ite_none_right_eq_some, Option.some.injEq, Prod.mk.injEq] at h
  obtain ⟨hlt, rfl, hm⟩ := h
  have hfront := List.takeWhile_append_dropWhile (p := ScenarioStep.isSession) (l := steps)
  have hhead : ∀ b ∈ (steps.dropWhile ScenarioStep.isSession).head?, b.isSession = false := by
    intro b hb
    have := List.head?_dropWhile_not ScenarioStep.isSession steps
    rw [Option.mem_def.1 hb] at this
    exact this
  rcases hd : steps.dropWhile ScenarioStep.isSession with _ | ⟨b, tail⟩
  · rw [hd] at hlt
    cases hlt
  · rw [hd] at hlt hm hfront hhead
    have hb : b.isSession = false := hhead b rfl
    rw [List.takeWhile_cons_of_pos (by simp [hb]), List.length_cons] at hlt hm
    have htail := List.takeWhile_append_dropWhile (p := fun s => !s.isSession) (l := tail)
    have hlast := List.head?_dropWhile_not (fun s : ScenarioStep => !s.isSession) tail
    rcases hr : tail.dropWhile (fun s => !s.isSession) with _ | ⟨s, rest⟩ <;> rw [hr] at htail hlast
    · rw [List.append_nil] at htail
      rw [htail, List.length_cons] at hlt
      omega
    · refine ⟨_, b, _, s, rest, ?_, rfl, hm, fun x hx => List.mem_takeWhile_imp hx, hb,
        fun x hx => ?_, by simpa using hlast⟩
      · rw [htail, hfront]
      · simpa using List.mem_takeWhile_imp hx

/-- Why a scenario with a session step behind another one is refused, by the places of the first other
step and of the session step. -/
def lateReason (first late : Nat) : String :=
  s!"step {late} logs in or out after browser step {first}; session steps must come first"

/-- Where session steps are late: the first step that is none, and the first one after it. -/
structure LateAt (steps : List ScenarioStep) (first late : Nat) : Prop where
  other : FirstAfter (fun s => !s.isSession) steps 0 first
  session : FirstAfter ScenarioStep.isSession steps first late

theorem LateAt.not_sessionThenOthers (h : LateAt steps first late) :
    ¬SessionThenOthers steps := by
  rintro ⟨front, rest, rfl, hfront, hrest⟩
  obtain ⟨b, hb, hother⟩ := h.other.holds
  obtain ⟨s, hs, hsession⟩ := h.session.holds
  have hafter := h.session.after
  have hbehind : front.length ≤ first - 1 := by
    by_contra hlt
    rw [List.getElem?_append_left (by omega)] at hb
    rw [hfront b (List.mem_of_getElem? hb)] at hother
    cases hother
  rw [List.getElem?_append_right (by omega)] at hs
  rw [hrest s (List.mem_of_getElem? hs)] at hsession
  cases hsession

theorem lateAt_of_counts (h : lateSessionStep? steps = some (n, m)) :
    LateAt steps (n + 1) (n + m + 1) := by
  obtain ⟨front, b, middle, s, rest, rfl, rfl, rfl, hfront, hb, hmiddle, hs⟩ :=
    lateSessionStep?_ok h
  constructor
  · have hother : ∀ x ∈ front, (!x.isSession) = false := fun x hx => by simp [hfront x hx]
    have hfirst := FirstAfter.of_split [] (middle ++ s :: rest) hother (x := b) (by simp [hb])
    simpa using hfirst
  · have hlate := FirstAfter.of_split (front ++ [b]) rest hmiddle hs
    simpa [Nat.add_assoc, Nat.add_comm 1] using hlate

theorem validate_cases (sc : Scenario) :
    sc.steps = [] ∧ sc.validate = .error (.scenarioInvalid sc.name "no steps") ∨
    sc.steps ≠ [] ∧ SessionThenOthers sc.steps ∧ sc.validate = .ok () ∨
    ∃ first late, LateAt sc.steps first late ∧
      sc.validate = .error (.scenarioInvalid sc.name (lateReason first late)) := by
  unfold validate
  by_cases hsteps : sc.steps = []
  · exact .inl ⟨hsteps, by rw [hsteps]; rfl⟩
  · rw [if_neg (by simpa using hsteps)]
    rcases hl : lateSessionStep? sc.steps with _ | ⟨n, m⟩
    · exact .inr (.inl ⟨hsteps, lateSessionStep?_none_iff.1 hl, rfl⟩)
    · exact .inr (.inr ⟨n + 1, n + m + 1, lateAt_of_counts hl, rfl⟩)

/-- **Validation is exact.** A scenario is valid exactly if it has steps, and these are steps of the
session and then others. Any other one is refused: without steps for having none, and with steps for
the places, counted from 1, of its first step that is not of the session and of the first one after
it that is. -/
theorem validate_exact (sc : Scenario) :
    (sc.validate = .ok () ↔ sc.steps ≠ [] ∧ SessionThenOthers sc.steps) ∧
    ∀ f, sc.validate = .error f ↔
      sc.steps = [] ∧ f = .scenarioInvalid sc.name "no steps" ∨
      ∃ first late, LateAt sc.steps first late ∧ first < late ∧ late ≤ sc.steps.length ∧
        f = .scenarioInvalid sc.name (lateReason first late) := by
  rcases sc.validate_cases with
    ⟨hsteps, he⟩ | ⟨hsteps, hsplit, he⟩ | ⟨first, late, hat, he⟩ <;> rw [he]
  · refine ⟨iff_of_false nofun fun h => h.1 hsteps, fun f => ?_⟩
    rw [Except.error.injEq]
    constructor
    · exact fun h => .inl ⟨hsteps, h.symm⟩
    · rintro (⟨-, rfl⟩ | ⟨first, late, -, hlt, hle, -⟩)
      · rfl
      · rw [hsteps, List.length_nil] at hle
        omega
  · refine ⟨iff_of_true rfl ⟨hsteps, hsplit⟩, fun f => iff_of_false nofun ?_⟩
    rintro (⟨hnil, -⟩ | ⟨first, late, hat, -⟩)
    · exact hsteps hnil
    · exact hat.not_sessionThenOthers hsplit
  · refine ⟨iff_of_false nofun fun h => hat.not_sessionThenOthers h.2, fun f => ?_⟩
    rw [Except.error.injEq]
    constructor
    · rintro rfl
      exact .inr ⟨first, late, hat, hat.session.after, hat.session.within, rfl⟩
    · rintro (⟨hnil, -⟩ | ⟨first', late', hat', -, -, rfl⟩)
      · have hle := hat.session.within
        have hlt := hat.session.after
        rw [hnil, List.length_nil] at hle
        omega
      · obtain rfl := hat.other.unique hat'.other
        obtain rfl := hat.session.unique hat'.session
        rfl

end Scenario
end Rehearsal
