import Mathlib.Data.List.Chain
import Mathlib.Data.List.Nodup
import Rehearsal.Proofs.CourseDraws
import Rehearsal.Proofs.Lowering

/-!
# Keys of courses

The courses that one generator hands out have different keys, and neighbours have different numbers
(`CourseGenerator.keys_distinct`). A generator only compares identities, and an organization may
hold a plus sign itself, so the key is read from its end: a number and a run have no plus sign
(`CourseGenerator.Shape.separable`), and hence equal keys are of equal identities
(`Course.identity_of_key`). The induction is on the courses that are still to come; it carries that
none of them was handed out before (`CourseGenerator.Hands.fresh`).
-/

namespace Rehearsal

open Text

/-! ## Keys -/

/-- A course whose number and run have no plus sign. -/
structure Course.Separable (c : Course) : Prop where
  number : '+' ∉ c.number.toList
  run : '+' ∉ c.run.toList

/-- Two texts that are cut at their last separator. -/
theorem append_cons_inj_of_last {α : Type} {sep : α} {a b x y : List α} (hx : sep ∉ x)
    (hy : sep ∉ y) (h : a ++ sep :: x = b ++ sep :: y) : a = b ∧ x = y := by
  rcases List.append_eq_append_iff.1 h with ⟨z, hb, hz⟩ | ⟨z, ha, hz⟩
  · cases z with
    | nil => exact ⟨by simpa using hb.symm, (List.cons.inj hz).2⟩
    | cons d z =>
      have : x = z ++ sep :: y := (List.cons.inj hz).2
      exact absurd (by simp [this]) hx
  · cases z with
    | nil => exact ⟨by simpa using ha, (List.cons.inj hz).2.symm⟩
    | cons d z =>
      have : y = z ++ sep :: x := (List.cons.inj hz).2
      exact absurd (by simp [this]) hy

theorem Course.toList_key (c : Course) : c.key.toList =
    ("course-v1:".toList ++ c.org.toList ++ '+' :: c.number.toList) ++ '+' :: c.run.toList := by
  have hk : c.key = "course-v1:" ++ c.org ++ "+" ++ c.number ++ "+" ++ c.run := rfl
  simp [hk]

/-- The key of a course tells its identity, whatever its organization is. -/
theorem Course.identity_of_key {c d : Course} (hc : c.Separable) (hd : d.Separable)
    (h : c.key = d.key) : c.identity = d.identity := by
  have h' := congrArg String.toList h
  rw [toList_key, toList_key] at h'
  obtain ⟨hfront, hrun⟩ := append_cons_inj_of_last hc.run hd.run h'
  obtain ⟨horg, hnumber⟩ := append_cons_inj_of_last hc.number hd.number hfront
  have horg := List.append_cancel_left horg
  unfold identity
  rw [String.toList_inj.1 horg, String.toList_inj.1 hnumber, String.toList_inj.1 hrun]

/-! ## Candidates -/

namespace CourseGenerator

/-- What the courses of a generator in a year look like. -/
structure Shape (g : CourseGenerator) (year : Int) (c : Course) : Prop where
  name : ∃ n < 100000, c.name.toList = g.namePrefix.toList ++ decimal n
  org : match g.org with
    | .random length => c.org.toList.length = length ∧ ∀ a ∈ c.org.toList, a ∈ Draw.capitals
    | .fixed value => c.org = value
  number : ∃ letters n, letters.length = 2 ∧ (∀ a ∈ letters, a ∈ Draw.capitals) ∧ n < 1000 ∧
    c.number.toList = letters ++ decimal n
  run : match g.run with
    | .year => c.run = s!"{year}"
    | .yearWithDigit => ∃ d < 10, c.run.toList = (s!"{year}_").toList ++ decimal d

section
variable {g g' : CourseGenerator} {year : Int} {c : Course} {words rest : Words}

theorem Shape.of_fits {d : Drawn} (h : d.Fits g.rules) : g.Shape year (d.course g.rules year) where
  name := ⟨d.name, h.name, by rw [Drawn.course, String.toList_append, toList_number]; rfl⟩
  org := by
    have horg := h.org
    rw [Drawn.course]
    rcases ho : g.org with length | value <;> simp only [rules, ho] at horg ⊢
    · simpa only [Drawn.orgText, String.toList_ofList] using horg
    · rfl
  number := ⟨d.front, d.back, h.front.1, h.front.2, h.back, by
    rw [Drawn.course, String.toList_append, String.toList_ofList, toList_number]⟩
  run := by
    have hdigit := h.digit
    rw [Drawn.course]
    rcases hr : g.run with _ | _ <;> simp only [rules, hr] at hdigit ⊢
    · rw [hdigit]
      rfl
    · obtain ⟨k, hk, hd⟩ := hdigit
      exact ⟨k, hk, by rw [hd, Drawn.toList_runText]⟩

theorem candidate_ok (h : g.candidate year words = some (c, rest)) : g.Shape year c := by
  obtain ⟨d, hd, rfl⟩ := candidate_iff.1 h
  exact .of_fits (Drawn.fits_of_drawn hd)

theorem plus_not_mem_decimal (n : Nat) : '+' ∉ decimal n :=
  fun h => absurd (isDigit_decimal h) (by decide)

theorem plus_not_mem_year (year : Int) : '+' ∉ (s!"{year}").toList := by
  cases year with
  | ofNat n =>
    have he : s!"{Int.ofNat n}" = s!"{n}" := rfl
    rw [he, toList_number]
    exact plus_not_mem_decimal n
  | negSucc n =>
    have he : s!"{Int.negSucc n}" = "-" ++ s!"{n + 1}" := rfl
    rw [he, String.toList_append, toList_number]
    simpa using plus_not_mem_decimal (n + 1)

theorem Shape.separable (h : g.Shape year c) : c.Separable := by
  have hcapitals : '+' ∉ Draw.capitals := by decide
  constructor
  · obtain ⟨letters, n, -, hletters, -, hn⟩ := h.number
    rw [hn, List.mem_append]
    rintro (hm | hm)
    · exact hcapitals (hletters _ hm)
    · exact plus_not_mem_decimal n hm
  · have hrun := h.run
    have hyear := plus_not_mem_year year
    split at hrun
    · rwa [hrun]
    · obtain ⟨d, -, hd⟩ := hrun
      rw [hd, List.mem_append]
      rintro (hm | hm)
      · simp only [String.toList_append, List.mem_append] at hm
        rcases hm with hm | hm
        · exact hyear hm
        · exact absurd hm (by decide)
      · exact plus_not_mem_decimal d hm

/-- A course that is handed out is a candidate that was accepted. -/
theorem search_ok {tries : Nat} (h : g.search year tries words = some ((c, g'), rest)) :
    g.Shape year c ∧ g.accepts c = true ∧ g' = g.issue c := by
  induction tries generalizing words with
  | zero => cases h
  | succ tries ih =>
    obtain ⟨d, mid, hd, h⟩ := Draw.bind_ok.1 h
    split at h
    · rename_i ha
      obtain ⟨he, -⟩ := Draw.pure_ok.1 h
      cases he
      exact ⟨candidate_ok hd, ha, rfl⟩
    · exact ih h

theorem generate_ok (h : g.generate year words = some ((c, g'), rest)) :
    g.Shape year c ∧ g.accepts c = true ∧ g' = g.issue c := by
  obtain ⟨_, _, -, h⟩ := Draw.bind_ok.1 h
  exact search_ok h

theorem accepts_iff : g.accepts c = true ↔ g.last ≠ some c.number ∧ c.identity ∉ g.issued := by
  simp [accepts]

end

/-! ## Runs -/

/-- The courses that a generator hands out one after the other, each in some year and with some
words, and the generator after them. -/
inductive Hands : CourseGenerator → List Course → CourseGenerator → Prop
  | nil {g : CourseGenerator} : Hands g [] g
  | cons {g g' g'' : CourseGenerator} {c : Course} {courses : List Course} {year : Int}
    {words rest : Words} : g.generate year words = some ((c, g'), rest) → Hands g' courses g'' →
    Hands g (c :: courses) g''

theorem Hands.of_generateMany {year : Int} {n : Nat} {g : CourseGenerator}
    {issued : List (Course × Nat)} {words rest : Words}
    (h : g.generateMany year n words = some (issued, rest)) :
    ∃ g', g.Hands (issued.map Prod.fst) g' := by
  induction n generalizing g issued words with
  | zero =>
    cases h
    exact ⟨g, .nil⟩
  | succ n ih =>
    obtain ⟨c, g', mid, tail, hg, ht, rfl⟩ := generateMany_succ.1 h
    obtain ⟨g'', hh⟩ := ih ht
    exact ⟨g'', .cons hg hh⟩

section
variable {g g' : CourseGenerator} {courses : List Course}

/-- No course that is handed out was handed out before. -/
theorem Hands.fresh (h : g.Hands courses g') :
    ∀ c ∈ courses, c.Separable ∧ c.identity ∉ g.issued := by
  induction h with
  | nil => simp
  | @cons g g' g'' c courses year words rest hg _ ih =>
    obtain ⟨hs, ha, rfl⟩ := generate_ok hg
    refine List.forall_mem_cons.2 ⟨⟨hs.separable, (accepts_iff.1 ha).2⟩, fun d hd => ?_⟩
    obtain ⟨hsep, hnew⟩ := ih d hd
    exact ⟨hsep, fun hm => hnew (List.mem_cons_of_mem _ hm)⟩

theorem Hands.nodup_keys (h : g.Hands courses g') : (courses.map Course.key).Nodup := by
  induction h with
  | nil => exact List.nodup_nil
  | @cons g g' g'' c courses year words rest hg ht ih =>
    obtain ⟨hs, -, rfl⟩ := generate_ok hg
    refine List.nodup_cons.2 ⟨fun hm => ?_, ih⟩
    obtain ⟨d, hd, hk⟩ := List.mem_map.1 hm
    obtain ⟨hsep, hnew⟩ := ht.fresh d hd
    exact hnew (Course.identity_of_key hsep hs.separable hk ▸ List.mem_cons_self)

theorem Hands.first_number (h : g.Hands courses g') :
    ∀ c ∈ courses.head?, g.last ≠ some c.number := by
  cases h with
  | nil => simp
  | cons hg _ =>
    intro c hc
    obtain rfl := Option.mem_some_iff.1 hc
    exact (accepts_iff.1 (generate_ok hg).2.1).1

theorem Hands.neighbours (h : g.Hands courses g') :
    courses.IsChain fun c d => c.number ≠ d.number := by
  induction h with
  | nil => exact .nil
  | @cons g g' g'' c courses year words rest hg ht ih =>
    obtain ⟨-, -, rfl⟩ := generate_ok hg
    exact List.isChain_cons.2 ⟨fun d hd he => ht.first_number d hd (congrArg some he), ih⟩

end

/-- **Courses are unique over whole runs.** Whatever a generator hands out one after the other, in
any years and with any words, has different keys, and neighbours have different numbers; so have the
courses of any plan. -/
theorem keys_distinct :
    (∀ (s : CourseSettings) (courses : List Course) (g : CourseGenerator),
      (ofSettings s).Hands courses g →
        (courses.map Course.key).Nodup ∧ courses.IsChain fun c d => c.number ≠ d.number) ∧
    ∀ (sc : Scenario) (p : Planner) (settings : BrowserSettings) (session : Session) (plan : Plan)
      (words rest : Words), (sc.plan p settings session).run words = some (.ok plan, rest) →
        (plan.courses.map Course.key).Nodup ∧
          plan.courses.IsChain fun c d => c.number ≠ d.number := by
  have hands {g g' : CourseGenerator} {courses : List Course} (h : g.Hands courses g') :
      (courses.map Course.key).Nodup ∧ courses.IsChain fun c d => c.number ≠ d.number :=
    ⟨h.nodup_keys, h.neighbours⟩
  refine ⟨fun s courses g h => hands h, fun sc p settings session plan words rest h => ?_⟩
  obtain ⟨_, _, issued, _, -, -, hm, hi, -⟩ := Scenario.plan_ok h
  obtain ⟨_, hh⟩ := Hands.of_generateMany hm
  rw [hi]
  exact hands hh

/-- Settings with a plus sign in the organization. -/
def joined : CourseSettings := { org := .fixed "A+B", run := .yearWithDigit }

/-- A scenario that creates two courses. -/
def twice : Scenario :=
  { Scenario.visit with steps := List.replicate 2 (.command (.createCourse none)) }

/-- In the second year the first candidate has the number of the course before, and is refused. -/
theorem keys_distinct_years :
    ∃ g, (ofSettings joined).Hands
        [⟨"Test 0", "A+B", "AA0", "-1_0"⟩, ⟨"Test 0", "A+B", "AA500", "2026_0"⟩] g ∧
      ["course-v1:A+B+AA0+-1_0", "course-v1:A+B+AA500+2026_0"].Nodup ∧
      ∃ plan rest, (twice.plan .loopback {} (.start .down ⟨0, 0⟩)).run
          ((List.range 50).map fun n => UInt64.ofNat (n * 80000000)) = some (.ok plan, rest) ∧
        (plan.courses.map Course.key).Nodup := by
  let first : CourseGenerator := (ofSettings joined).issue ⟨"Test 0", "A+B", "AA0", "-1_0"⟩
  let second : CourseGenerator := first.issue ⟨"Test 0", "A+B", "AA500", "2026_0"⟩
  have h1 : (ofSettings joined).generate (-1) (List.replicate 5 0) =
      some ((⟨"Test 0", "A+B", "AA0", "-1_0"⟩, first), []) := by decide +kernel
  have h2 : first.generate 2026 (List.replicate 8 0 ++ [2147483648, 0]) =
      some ((⟨"Test 0", "A+B", "AA500", "2026_0"⟩, second), []) := by decide +kernel
  have hd : ((twice.plan .loopback {} (.start .down ⟨0, 0⟩)).run
      ((List.range 50).map fun n => UInt64.ofNat (n * 80000000))).any (·.1.isOk) = true := by
    decide +kernel
  obtain ⟨plan, rest, hp⟩ := Planned.exists_ok hd
  have hh := Hands.cons h1 (.cons h2 .nil)
  exact ⟨second, hh, (keys_distinct.1 joined _ second hh).1, plan, rest, hp,
    (keys_distinct.2 _ _ _ _ plan _ rest hp).1⟩

end CourseGenerator
end Rehearsal
