import Mathlib.Data.List.Forall2
import Rehearsal.Plan

/-!
# Runs of draws and plans

What a successful run of a composed draw, or of a composed plan, says about the runs of its parts:
one equivalence for each way in which they are put together, and the same for what goes through a
list. Proofs take runs apart with them and unfold no monad.
-/

namespace Rehearsal

section
variable {α β : Type} {words rest : Words}

theorem bind_ok {ε : Type} {x : Except ε α} {f : α → Except ε β} {b : β} :
    (x >>= f) = .ok b ↔ ∃ a, x = .ok a ∧ f a = .ok b := by
  rcases x with e | a
  · constructor
    · intro h
      cases h
    · rintro ⟨a, h, -⟩
      cases h
  · constructor
    · exact fun h => ⟨a, rfl, h⟩
    · rintro ⟨b, h, hf⟩
      cases h
      exact hf

theorem bind_error {ε : Type} {x : Except ε α} {f : α → Except ε β} {e : ε} :
    (x >>= f) = .error e ↔ x = .error e ∨ ∃ a, x = .ok a ∧ f a = .error e := by
  rcases x with e' | a
  · constructor
    · intro h
      cases h
      exact .inl rfl
    · rintro (h | ⟨a, h, -⟩) <;> cases h
      rfl
  · constructor
    · exact fun h => .inr ⟨a, rfl, h⟩
    · rintro (h | ⟨b, h, hf⟩) <;> cases h
      exact hf

theorem ok_of_toOption {ε : Type} {x : Except ε α} {a : α} (h : x.toOption = some a) :
    x = .ok a := by
  rcases x with e | b
  · cases h
  · cases h
    rfl

/-- A list is gone through without a failure if each of its items is. -/
theorem mapM_ok {ε : Type} {f : α → Except ε β} {xs : List α} {ys : List β} :
    xs.mapM f = .ok ys ↔ List.Forall₂ (fun x y => f x = .ok y) xs ys := by
  induction xs generalizing ys with
  | nil =>
    rw [List.mapM_nil, List.forall₂_nil_left_iff]
    exact ⟨fun h => (Except.ok.inj h).symm, fun h => h ▸ rfl⟩
  | cons x xs ih =>
    rw [List.mapM_cons, bind_ok]
    constructor
    · rintro ⟨y, hy, h⟩
      obtain ⟨zs, hzs, h⟩ := bind_ok.1 h
      cases h
      exact .cons hy (ih.1 hzs)
    · intro h
      cases h with
      | cons hy hzs => exact ⟨_, hy, bind_ok.2 ⟨_, ih.2 hzs, rfl⟩⟩

theorem exists_mapM_ok {ε : Type} {f : α → Except ε β} {xs : List α} :
    (∃ ys, xs.mapM f = .ok ys) ↔ ∀ x ∈ xs, ∃ y, f x = .ok y := by
  induction xs with
  | nil => exact ⟨fun _ => by simp, fun _ => ⟨[], rfl⟩⟩
  | cons x xs ih =>
    rw [List.forall_mem_cons, ← ih]
    constructor
    · rintro ⟨ys, h⟩
      cases mapM_ok.1 h with
      | cons hy hys => exact ⟨⟨_, hy⟩, _, mapM_ok.2 hys⟩
    · rintro ⟨⟨y, hy⟩, ys, hys⟩
      exact ⟨y :: ys, mapM_ok.2 (.cons hy (mapM_ok.1 hys))⟩

/-- Going through a list fails at the first of its items that fails. -/
theorem mapM_error {ε : Type} {f : α → Except ε β} {xs : List α} {e : ε} :
    xs.mapM f = .error e ↔ ∃ before x after, xs = before ++ x :: after ∧
      (∀ y ∈ before, ∃ b, f y = .ok b) ∧ f x = .error e := by
  induction xs with
  | nil =>
    refine iff_of_false (fun h => by cases h) ?_
    rintro ⟨before, x, after, h, -⟩
    cases before <;> cases h
  | cons x xs ih =>
    rw [List.mapM_cons, bind_error]
    constructor
    · rintro (hx | ⟨y, hy, h⟩)
      · exact ⟨[], x, xs, rfl, by simp, hx⟩
      · rcases bind_error.1 h with hxs | ⟨ys, -, h⟩
        · obtain ⟨before, z, after, rfl, hb, hz⟩ := ih.1 hxs
          exact ⟨x :: before, z, after, rfl, List.forall_mem_cons.2 ⟨⟨y, hy⟩, hb⟩, hz⟩
        · cases h
    · rintro ⟨before, z, after, he, hb, hz⟩
      cases before with
      | nil =>
        obtain ⟨rfl, rfl⟩ := List.cons.inj he
        exact .inl hz
      | cons y before =>
        obtain ⟨rfl, rfl⟩ := List.cons.inj he
        obtain ⟨⟨b, hy⟩, hb⟩ := List.forall_mem_cons.1 hb
        exact .inr ⟨b, hy, bind_error.2 (.inl (ih.2 ⟨before, z, after, rfl, hb, hz⟩))⟩

theorem exists_of_forall₂ {R : α → β → Prop} {xs : List α} {ys : List β}
    (h : List.Forall₂ R xs ys) {y : β} (hy : y ∈ ys) : ∃ x ∈ xs, R x y := by
  induction h with
  | nil => cases hy
  | @cons x z xs ys hx _ ih =>
    rcases List.mem_cons.1 hy with rfl | hy
    · exact ⟨x, List.mem_cons_self, hx⟩
    · obtain ⟨w, hw, he⟩ := ih hy
      exact ⟨w, List.mem_cons_of_mem _ hw, he⟩

theorem exists_of_mapM {ε : Type} {f : α → Except ε β} {xs : List α} {ys : List β}
    (h : xs.mapM f = .ok ys) {y : β} (hy : y ∈ ys) : ∃ x ∈ xs, f x = .ok y :=
  exists_of_forall₂ (mapM_ok.1 h) hy

/-- An item of a list is found by its name if no two items have one. -/
theorem find?_of_nodup {β : Type} {l : List β} {name : β → String} (hn : (l.map name).Nodup)
    {b : β} (hb : b ∈ l) : l.find? (fun x => decide (name x = name b)) = some b := by
  induction l with
  | nil => cases hb
  | cons x xs ih =>
    obtain ⟨hx, hxs⟩ := List.nodup_cons.1 hn
    rcases List.mem_cons.1 hb with rfl | hb
    · exact List.find?_cons_of_pos (decide_eq_true rfl)
    · have hne : name x ≠ name b := fun he => hx (List.mem_map.2 ⟨b, hb, he.symm⟩)
      rw [List.find?_cons_of_neg (by simpa using hne), ih hxs hb]

/-! ## Draws -/

theorem Draw.bind_ok {d : Draw α} {f : α → Draw β} {b : β} :
    (d >>= f) words = some (b, rest) ↔
      ∃ a mid, d words = some (a, mid) ∧ f a mid = some (b, rest) := by
  simp only [bind, StateT.bind, Option.bind_eq_some_iff, Prod.exists]

theorem Draw.pure_ok {a b : α} :
    (pure a : Draw α) words = some (b, rest) ↔ a = b ∧ words = rest := by
  have h : (pure a : Draw α) words = some (a, words) := rfl
  rw [h, Option.some.injEq, Prod.mk.injEq]

theorem Draw.map_ok {d : Draw α} {f : α → β} {b : β} :
    (f <$> d) words = some (b, rest) ↔ ∃ a, d words = some (a, rest) ∧ f a = b := by
  simp only [Functor.map, StateT.map, bind, pure, Option.bind_eq_some_iff, Prod.exists,
    Option.some.injEq, Prod.mk.injEq]
  constructor
  · rintro ⟨a, mid, hd, hf, rfl⟩
    exact ⟨a, hd, hf⟩
  · rintro ⟨a, hd, hf⟩
    exact ⟨a, rest, hd, hf, rfl⟩

/-- The letters from A to Z. -/
def Draw.capitals : List Char := "ABCDEFGHIJKLMNOPQRSTUVWXYZ".toList

theorem Draw.letter_ok {c : Char} (h : Draw.letter words = some (c, rest)) :
    c ∈ Draw.capitals := by
  have hc : ∀ n < 26, Char.ofNat (65 + n) ∈ Draw.capitals := by decide
  obtain ⟨n, hn, rfl⟩ := Draw.map_ok.1 h
  exact hc n (Draw.belowFrom_lt (by decide) hn)

theorem Draw.letterList_ok {n : Nat} {letters : List Char}
    (h : Draw.letterList n words = some (letters, rest)) :
    letters.length = n ∧ ∀ c ∈ letters, c ∈ Draw.capitals := by
  induction n generalizing words letters with
  | zero =>
    cases h
    exact ⟨rfl, by simp⟩
  | succ n ih =>
    obtain ⟨c, mid, hc, h⟩ := Draw.bind_ok.1 h
    obtain ⟨cs, last, hcs, h⟩ := Draw.bind_ok.1 h
    obtain ⟨rfl, rfl⟩ := Draw.pure_ok.1 h
    obtain ⟨hlen, hall⟩ := ih hcs
    exact ⟨by simp [hlen], List.forall_mem_cons.2 ⟨letter_ok hc, hall⟩⟩

/-! ## Planned values -/

theorem Planned.run_bind (x : Planned α) (f : α → Planned β) :
    (x >>= f).run words = (x.run words).bind fun r => match r with
      | (.ok a, mid) => (f a).run mid
      | (.error e, mid) => some (.error e, mid) := by
  have hb : (x >>= f).run words = (x.run words).bind fun r => ExceptT.bindCont f r.1 r.2 := rfl
  rw [hb]
  rcases x.run words with _ | ⟨_ | a, mid⟩ <;> rfl

theorem Planned.bind_ok {x : Planned α} {f : α → Planned β} {b : β} :
    (x >>= f).run words = some (.ok b, rest) ↔
      ∃ a mid, x.run words = some (.ok a, mid) ∧ (f a).run mid = some (.ok b, rest) := by
  rw [run_bind]
  constructor
  · intro h
    rcases hx : x.run words with _ | ⟨_ | a, mid⟩ <;> rw [hx] at h
    · cases h
    · cases h
    · exact ⟨a, mid, rfl, h⟩
  · rintro ⟨a, mid, hx, hf⟩
    rw [hx]
    exact hf

theorem Planned.bind_of_none {x : Planned α} (f : α → Planned β) (h : x.run words = none) :
    (x >>= f).run words = none := by
  rw [run_bind, h]
  rfl

theorem Planned.bind_of_error {x : Planned α} (f : α → Planned β) {e : Failure}
    (h : x.run words = some (.error e, rest)) : (x >>= f).run words = some (.error e, rest) := by
  rw [run_bind, h]
  rfl

theorem Planned.bind_of_ok {x : Planned α} (f : α → Planned β) {a : α}
    (h : x.run words = some (.ok a, rest)) : (x >>= f).run words = (f a).run rest := by
  rw [run_bind, h]
  rfl

theorem Planned.exists_ok {x : Planned α} (h : (x.run words).any (·.1.isOk) = true) :
    ∃ a rest, x.run words = some (.ok a, rest) := by
  rcases hx : x.run words with _ | ⟨_ | a, mid⟩ <;> rw [hx] at h
  · cases h
  · cases h
  · exact ⟨a, mid, rfl⟩

theorem Planned.run_lift (d : Draw α) (words : Words) :
    (liftM d : Planned α).run words = (d words).map fun r => (.ok r.1, r.2) := by
  have h : (liftM d : Planned α).run words =
      (d words).bind fun r => some (Except.ok r.1, r.2) := rfl
  rw [h, Option.map_eq_bind]
  rfl

theorem Planned.lift_ok {d : Draw α} {a : α} :
    (liftM d : Planned α).run words = some (.ok a, rest) ↔ d words = some (a, rest) := by
  have h : (liftM d : Planned α).run words = (Except.ok <$> d : Draw (Except Failure α)) words := rfl
  rw [h, Draw.map_ok]
  constructor
  · rintro ⟨b, hd, hb⟩
    rwa [← Except.ok.inj hb]
  · exact fun hd => ⟨a, hd, rfl⟩

theorem Planned.pure_ok {a b : α} :
    (pure a : Planned α).run words = some (.ok b, rest) ↔ a = b ∧ words = rest := by
  have h : (pure a : Planned α).run words = some (.ok a, words) := rfl
  rw [h, Option.some.injEq, Prod.mk.injEq, Except.ok.injEq]

theorem Planned.except_ok {r : Except Failure α} {a : α} :
    (ExceptT.mk (pure r) : Planned α).run words = some (.ok a, rest) ↔
      r = .ok a ∧ words = rest := by
  have h : (ExceptT.mk (pure r) : Planned α).run words = some (r, words) := rfl
  rw [h, Option.some.injEq, Prod.mk.injEq]

end
end Rehearsal
