import Mathlib.Data.Finset.Card
import Mathlib.Data.Finset.Prod
import Rehearsal.Proofs.CourseCandidates

/-!
# The supply of courses

With a fixed organization and one year for the run, courses differ in their numbers only. There are
676000 of these, so that a generator hands out as many courses and no more; and as long as it has
handed out fewer, there are words on which it hands out another one (`CourseGenerator.supply`). The
last number, which it refuses as well, is one of those that were handed out
(`Course.Fresh.of_number`), so that a number is left by counting, and each number can be drawn.
-/

namespace Rehearsal

open Text

/-! ## Numbers -/

namespace Course

/-- The numbers of courses: two letters from A to Z, and a number below 1000. -/
def numbers : Finset String :=
  (Draw.capitals.toFinset ×ˢ Draw.capitals.toFinset ×ˢ Finset.range 1000).image fun x =>
    String.ofList [x.1, x.2.1] ++ s!"{x.2.2}"

theorem mem_numbers {number : String} : number ∈ numbers ↔ ∃ letters n, letters.length = 2 ∧
    (∀ a ∈ letters, a ∈ Draw.capitals) ∧ n < 1000 ∧ number.toList = letters ++ decimal n := by
  simp only [numbers, Finset.mem_image, Finset.mem_product, List.mem_toFinset, Finset.mem_range,
    Prod.exists]
  constructor
  · rintro ⟨a, b, n, ⟨ha, hb, hn⟩, rfl⟩
    refine ⟨[a, b], n, rfl, by simp [ha, hb], hn, ?_⟩
    rw [String.toList_append, String.toList_ofList, toList_number]
  · rintro ⟨letters, n, hlength, hletters, hn, he⟩
    obtain ⟨a, b, rfl⟩ := List.length_eq_two.1 hlength
    refine ⟨a, b, n, ⟨hletters a (by simp), hletters b (by simp), hn⟩, String.toList_inj.1 ?_⟩
    rw [String.toList_append, String.toList_ofList, toList_number, he]

theorem card_numbers : numbers.card = 676000 := by
  have hcapitals : Draw.capitals.toFinset.card = 26 := by decide
  rw [numbers, Finset.card_image_of_injOn, Finset.card_product, Finset.card_product,
    Finset.card_range, hcapitals]
  rintro ⟨a, b, n⟩ - ⟨c, d, m⟩ - he
  have hparts := congrArg String.toList he
  simp only [String.toList_append, String.toList_ofList, toList_number] at hparts
  obtain ⟨hfront, hback⟩ := List.append_inj hparts rfl
  cases hfront
  rw [decimal_inj.1 hback]

theorem Fresh.of_number {courses : List Course} {c : Course}
    (h : c.number ∉ courses.map (·.number)) : c.Fresh courses := by
  have hall : ∀ d ∈ courses, d.number ≠ c.number :=
    fun d hd he => h (List.mem_map.2 ⟨d, hd, he⟩)
  refine ⟨fun d hd => hall d (List.mem_of_getLast? hd), fun d hd he => hall d hd ?_⟩
  exact congrArg (·.2.1) he

end Course

/-! ## Courses of one year -/

namespace CourseGenerator

/-- The courses that a generator hands out one after the other in a year, each with some words, and
the generator after them. -/
inductive HandsIn (year : Int) : CourseGenerator → List Course → CourseGenerator → Prop
  | nil {g : CourseGenerator} : HandsIn year g [] g
  | cons {g g' g'' : CourseGenerator} {c : Course} {courses : List Course} {words rest : Words} :
    g.generate year words = some ((c, g'), rest) → HandsIn year g' courses g'' →
    HandsIn year g (c :: courses) g''

section
variable {s : CourseSettings} {value : String} {year : Int} {g g' g'' : CourseGenerator}
  {courses : List Course} {c : Course} {words rest : Words}

theorem HandsIn.hands (h : g.HandsIn year courses g') : g.Hands courses g' := by
  induction h with
  | nil => exact .nil
  | cons hc _ ih => exact .cons hc ih

theorem HandsIn.concat (h : g.HandsIn year courses g')
    (hc : g'.generate year words = some ((c, g''), rest)) :
    g.HandsIn year (courses ++ [c]) g'' := by
  induction h with
  | nil => exact .cons hc .nil
  | cons hd _ ih => exact .cons hd (ih hc)

/-- All but the numbers of the courses is settled. -/
theorem HandsIn.settled (h : g.HandsIn year courses g') (horg : g.org = .fixed value)
    (hrun : g.run = .year) :
    ∀ c ∈ courses, c.number ∈ Course.numbers ∧ c.org = value ∧ c.run = s!"{year}" := by
  induction h with
  | nil => simp
  | cons hc _ ih =>
    obtain ⟨hshape, -, rfl⟩ := generate_ok hc
    have ho := hshape.org
    have hr := hshape.run
    rw [horg] at ho
    rw [hrun] at hr
    exact List.forall_mem_cons.2 ⟨⟨Course.mem_numbers.2 hshape.number, ho, hr⟩, ih horg hrun⟩

theorem HandsIn.nodup_numbers (h : g.HandsIn year courses g') (horg : g.org = .fixed value)
    (hrun : g.run = .year) : (courses.map (·.number)).Nodup := by
  have hkeys : courses.map Course.key =
      (courses.map (·.number)).map fun n => s!"course-v1:{value}+{n}+{year}" := by
    rw [List.map_map]
    refine List.map_congr_left fun c hc => ?_
    obtain ⟨-, ho, hr⟩ := h.settled horg hrun c hc
    simp only [Course.key, ho, hr]
    rfl
  have hnodup := h.hands.nodup_keys
  rw [hkeys] at hnodup
  exact hnodup.of_map _

theorem HandsIn.length_le (h : g.HandsIn year courses g') (horg : g.org = .fixed value)
    (hrun : g.run = .year) : courses.length ≤ 676000 := by
  have hsub : (courses.map (·.number)).toFinset ⊆ Course.numbers := by
    intro n hn
    obtain ⟨c, hc, rfl⟩ := List.mem_map.1 (List.mem_toFinset.1 hn)
    exact (h.settled horg hrun c hc).1
  have hcard := Finset.card_le_card hsub
  rw [List.toFinset_card_of_nodup (h.nodup_numbers horg hrun), List.length_map,
    Course.card_numbers] at hcard
  exact hcard

/-- After fewer courses than there are numbers, some words give a course with another one. -/
theorem Hands.exists_next (h : (ofSettings s).Hands courses g) (horg : s.org = .fixed value)
    (hrun : s.run = .year) (hlt : courses.length < 676000) (year : Int) :
    ∃ words c g' rest, g.generate year words = some ((c, g'), rest) := by
  have hcard : (courses.map (·.number)).toFinset.card < Course.numbers.card := by
    have := (courses.map (·.number)).toFinset_card_le
    rw [List.length_map] at this
    rw [Course.card_numbers]
    omega
  obtain ⟨number, hmem, hnew⟩ := Finset.exists_mem_notMem_of_card_lt_card hcard
  obtain ⟨letters, n, hlength, hletters, hn, he⟩ := Course.mem_numbers.1 hmem
  let d : Drawn := ⟨0, [], letters, n, none⟩
  have hfits : d.Fits s :=
    ⟨Nat.succ_pos 99999, by rw [horg], ⟨hlength, hletters⟩, hn, by rw [hrun]⟩
  have hnumber : (d.course s year).number = number := by
    refine String.toList_inj.1 ?_
    rw [he, Drawn.course, String.toList_append, String.toList_ofList, toList_number]
  have hfresh : (d.course s year).Fresh courses :=
    .of_number (by rw [hnumber]; exact fun hm => hnew (List.mem_toFinset.2 hm))
  obtain ⟨words, hwords⟩ := CourseSettings.drawn_reaches hfits
  rw [h.eq_after]
  exact ⟨words ++ [], _, _, [], generate_iff.2
    ⟨[], d, .cons (hwords []) .nil, rfl, by simp, hfresh, rfl⟩⟩

theorem exists_handsIn (horg : s.org = .fixed value) (hrun : s.run = .year) (year : Int) {n : Nat}
    (hn : n ≤ 676000) :
    ∃ courses g, (ofSettings s).HandsIn year courses g ∧ courses.length = n := by
  induction n with
  | zero => exact ⟨[], _, .nil, rfl⟩
  | succ n ih =>
    obtain ⟨courses, g, h, hlength⟩ := ih (by omega)
    obtain ⟨words, c, g', rest, hc⟩ := h.hands.exists_next horg hrun (by omega) year
    exact ⟨courses ++ [c], g', h.concat hc, by rw [List.length_append, hlength]; rfl⟩

end

/-- **The supply of courses is 676000.** With a fixed organization and the year for the run, a
generator hands out at most 676000 courses in a year, and some words make it hand out as many. Whatever
it has handed out, in this year or others, there are words on which it hands out another course in
the year as long as there were fewer; after 676000 in the year there are no such words. -/
theorem supply {s : CourseSettings} {value : String} (horg : s.org = .fixed value)
    (hrun : s.run = .year) (year : Int) :
    (∀ courses g, (ofSettings s).HandsIn year courses g → courses.length ≤ 676000) ∧
    (∀ courses g, (ofSettings s).Hands courses g → courses.length < 676000 →
      ∃ words c g' rest, g.generate year words = some ((c, g'), rest)) ∧
    (∀ courses g, (ofSettings s).HandsIn year courses g → courses.length = 676000 →
      ∀ words, g.generate year words = none) ∧
    ∃ courses g, (ofSettings s).HandsIn year courses g ∧ courses.length = 676000 := by
  refine ⟨fun courses g h => h.length_le horg hrun,
    fun courses g h hlt => h.exists_next horg hrun hlt year, fun courses g h hfull words => ?_,
    exists_handsIn horg hrun year (Nat.le_refl _)⟩
  rcases hc : g.generate year words with _ | ⟨⟨c, g'⟩, rest⟩
  · rfl
  · have hle := (h.concat hc).length_le horg hrun
    rw [List.length_append, hfull] at hle
    simp at hle

/-- A generator of one organization that has handed out all of its courses. -/
theorem supply_exhausted :
    ∃ courses g, (ofSettings { org := .fixed "Abstract" }).HandsIn 2026 courses g ∧
      courses.length = 676000 ∧ ∀ words, g.generate 2026 words = none := by
  obtain ⟨-, -, hnone, courses, g, h, hfull⟩ :=
    supply (s := { org := .fixed "Abstract" }) rfl rfl 2026
  exact ⟨courses, g, h, hfull, hnone courses g h hfull⟩

end CourseGenerator
end Rehearsal
