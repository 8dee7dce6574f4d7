import Rehearsal.Proofs.CourseKeys

/-!
# Candidates for courses

A generator hands out the first candidate that is fresh, among those that its words give one after
the other (`CourseGenerator.generate_first`). It keeps of the courses before only what tells whether
another one is fresh (`CourseGenerator.Hands.eq_after`). The search stops after as many candidates as
there are words, and misses no fresh one by that, since each candidate takes a word
(`CourseSettings.Draws.length`).
-/

namespace Rehearsal

namespace CourseSettings

/-- The values for candidates that are drawn one after the other from some words, and the words
left. -/
inductive Draws (s : CourseSettings) : Words → List Drawn → Words → Prop
  | nil {words : Words} : Draws s words [] words
  | cons {words mid rest : Words} {d : Drawn} {ds : List Drawn} :
    s.drawn words = some (d, mid) → Draws s mid ds rest → Draws s words (d :: ds) rest

variable {s : CourseSettings} {ds : List Drawn} {words rest : Words}

theorem Draws.length (h : s.Draws words ds rest) : ds.length + rest.length ≤ words.length := by
  induction h with
  | nil => simp
  | cons hd _ ih =>
    have := drawn_length hd
    rw [List.length_cons]
    omega

theorem Draws.fits (h : s.Draws words ds rest) : ∀ d ∈ ds, d.Fits s := by
  induction h with
  | nil => simp
  | cons hd _ ih => exact List.forall_mem_cons.2 ⟨Drawn.fits_of_drawn hd, ih⟩

end CourseSettings

/-! ## What a generator hands out -/

/-- A course that may come after others: its number is not that of the last one, and none of them has
its organization, number and run. -/
structure Course.Fresh (courses : List Course) (c : Course) : Prop where
  number : ∀ d ∈ courses.getLast?, d.number ≠ c.number
  identity : ∀ d ∈ courses, d.identity ≠ c.identity

namespace CourseGenerator

/-- The generator of some settings after it has handed out some courses. -/
def after (s : CourseSettings) (courses : List Course) : CourseGenerator :=
  ⟨s.namePrefix, s.org, s.run, courses.getLast?.map (·.number),
    (courses.map Course.identity).reverse⟩

variable {s : CourseSettings} {g g' : CourseGenerator} {courses : List Course} {year : Int}
  {c : Course} {words rest : Words} {ds : List Drawn} {d : Drawn} {tries : Nat}

theorem issue_after (s : CourseSettings) (courses : List Course) (c : Course) :
    (after s courses).issue c = after s (courses ++ [c]) := by
  simp [after, issue]

theorem Hands.after_append (before : List Course) (h : (after s before).Hands courses g) :
    g = after s (before ++ courses) := by
  generalize hg : after s before = start at h
  induction h generalizing before with
  | nil => rw [← hg, List.append_nil]
  | @cons _ g' g'' c courses year words rest hc _ ih =>
    subst hg
    obtain ⟨-, -, rfl⟩ := generate_ok hc
    rw [ih _ (issue_after s before c).symm, List.append_assoc]
    rfl

/-- All that a generator keeps of what it has handed out. -/
theorem Hands.eq_after (h : (ofSettings s).Hands courses g) : g = after s courses :=
  Hands.after_append [] h

theorem accepts_after : (after s courses).accepts c = true ↔ c.Fresh courses := by
  rw [accepts_iff]
  constructor
  · rintro ⟨hlast, hissued⟩
    refine ⟨fun d hd he => hlast ?_, fun d hd he => hissued ?_⟩
    · simp only [after, Option.mem_def.1 hd, Option.map_some, he]
    · simp only [after, List.mem_reverse, List.mem_map]
      exact ⟨d, hd, he⟩
  · rintro ⟨hnumber, hidentity⟩
    constructor
    · intro h
      obtain ⟨d, hd, he⟩ := Option.map_eq_some_iff.1 h
      exact hnumber d hd he
    · intro h
      simp only [after, List.mem_reverse, List.mem_map] at h
      obtain ⟨d, hd, he⟩ := h
      exact hidentity d hd he

theorem candidate_after : (after s courses).candidate year words = some (c, rest) ↔
    ∃ d, s.drawn words = some (d, rest) ∧ d.course s year = c := candidate_iff

/-- A course that is found is the first fresh one of the candidates. -/
theorem draws_of_search (h : (after s courses).search year tries words = some ((c, g'), rest)) :
    ∃ refused d, s.Draws words (refused ++ [d]) rest ∧ d.course s year = c ∧
      (∀ e ∈ refused, ¬(e.course s year).Fresh courses) ∧ c.Fresh courses ∧
      g' = (after s courses).issue c := by
  induction tries generalizing words with
  | zero => cases h
  | succ tries ih =>
    obtain ⟨c', mid, hc, h⟩ := Draw.bind_ok.1 h
    obtain ⟨d, hd, rfl⟩ := candidate_after.1 hc
    split at h
    · rename_i ha
      obtain ⟨he, rfl⟩ := Draw.pure_ok.1 h
      cases he
      exact ⟨[], d, .cons hd .nil, rfl, by simp, accepts_after.1 ha, rfl⟩
    · rename_i ha
      obtain ⟨refused, e, hdraws, he, hall, hfresh, hg⟩ := ih h
      have hnot : ¬(d.course s year).Fresh courses := fun hf => ha (accepts_after.2 hf)
      exact ⟨d :: refused, e, .cons hd hdraws, he, List.forall_mem_cons.2 ⟨hnot, hall⟩, hfresh, hg⟩

/-- The first fresh candidate is found by as many tries as there are candidates up to it. -/
theorem search_of_draws {refused : List Drawn} (h : s.Draws words (refused ++ [d]) rest)
    (hall : ∀ e ∈ refused, ¬(e.course s year).Fresh courses)
    (hfresh : (d.course s year).Fresh courses) (htries : refused.length < tries) :
    (after s courses).search year tries words =
      some ((d.course s year, (after s courses).issue (d.course s year)), rest) := by
  induction refused generalizing words tries with
  | nil =>
    obtain ⟨tries, rfl⟩ := Nat.exists_eq_succ_of_ne_zero (Nat.ne_of_gt htries)
    cases h with
    | cons hd hrest =>
      cases hrest
      refine Draw.bind_ok.2 ⟨_, _, candidate_after.2 ⟨d, hd, rfl⟩, ?_⟩
      rw [if_pos (accepts_after.2 hfresh)]
      rfl
  | cons e refused ih =>
    obtain ⟨tries, rfl⟩ := Nat.exists_eq_succ_of_ne_zero (Nat.ne_of_gt (Nat.zero_lt_of_lt htries))
    obtain ⟨hnot, hall⟩ := List.forall_mem_cons.1 hall
    cases h with
    | cons he hrest =>
      refine Draw.bind_ok.2 ⟨_, _, candidate_after.2 ⟨e, he, rfl⟩, ?_⟩
      rw [if_neg fun ha => hnot (accepts_after.1 ha)]
      exact ih hrest hall (Nat.lt_of_succ_lt_succ htries)

theorem generate_iff : (after s courses).generate year words = some ((c, g'), rest) ↔
    ∃ refused d, s.Draws words (refused ++ [d]) rest ∧ d.course s year = c ∧
      (∀ e ∈ refused, ¬(e.course s year).Fresh courses) ∧ c.Fresh courses ∧
      g' = (after s courses).issue c := by
  have hgenerate : (after s courses).generate year words =
      (after s courses).search year words.length words := rfl
  rw [hgenerate]
  refine ⟨draws_of_search, ?_⟩
  rintro ⟨refused, d, hdraws, rfl, hall, hfresh, rfl⟩
  have hlen := hdraws.length
  rw [List.length_append, List.length_singleton] at hlen
  exact search_of_draws hdraws hall hfresh (by omega)

/-- **A generator hands out the first fresh candidate.** For a generator that has handed out some
courses, a course comes of some words exactly if it is the last of candidates that they give one after
the other, it is fresh after those courses, and none of the candidates before it is. The generator
then has this course as the last one and its organization, number and run among those handed out,
and is else as it was, whatever was refused. The drawn values can be drawn, and are the only ones of
which the course can be spelled out: the number in its name, the letters of its organization, the
letters and the number of its number, and the digit of its run. -/
theorem generate_first (h : (ofSettings s).Hands courses g) (year : Int) :
    g.last = courses.getLast?.map (·.number) ∧
    (∀ x, x ∈ g.issued ↔ ∃ c ∈ courses, c.identity = x) ∧
    ∀ words c g' rest, g.generate year words = some ((c, g'), rest) ↔
      ∃ refused d, s.Draws words (refused ++ [d]) rest ∧ d.course s year = c ∧
        (∀ e ∈ refused, ¬(e.course s year).Fresh courses) ∧ c.Fresh courses ∧
        g' = { g with last := some c.number, issued := c.identity :: g.issued } ∧
        d.Fits s ∧ ∀ e : Drawn, e.Fits s → e.course s year = c → e = d := by
  obtain rfl := h.eq_after
  refine ⟨rfl, fun x => by simp [after], fun words c g' rest => ?_⟩
  rw [generate_iff]
  refine exists_congr fun refused => exists_congr fun d => ?_
  constructor
  · rintro ⟨hdraws, hc, hall, hfresh, hg⟩
    have hfits := hdraws.fits d (by simp)
    exact ⟨hdraws, hc, hall, hfresh, hg, hfits,
      fun e he hec => Drawn.course_inj he hfits (hec.trans hc.symm)⟩
  · rintro ⟨hdraws, hc, hall, hfresh, hg, -⟩
    exact ⟨hdraws, hc, hall, hfresh, hg⟩

/-- The first candidate has the number of the course before. -/
theorem generate_first_refusing : ∃ g,
    (ofSettings joined).Hands [⟨"Test 0", "A+B", "AA0", "-1_0"⟩] g ∧ g.last = some "AA0" ∧
    ∃ refused d, joined.Draws (List.replicate 8 0 ++ [2147483648, 0]) (refused ++ [d]) [] ∧
      d.course joined 2026 = ⟨"Test 0", "A+B", "AA500", "2026_0"⟩ ∧
      (∀ e ∈ refused, ¬(e.course joined 2026).Fresh [⟨"Test 0", "A+B", "AA0", "-1_0"⟩]) ∧
      d.Fits joined := by
  let g := (ofSettings joined).issue ⟨"Test 0", "A+B", "AA0", "-1_0"⟩
  have h1 : (ofSettings joined).generate (-1) (List.replicate 5 0) =
      some ((⟨"Test 0", "A+B", "AA0", "-1_0"⟩, g), []) := by decide +kernel
  have h2 : g.generate 2026 (List.replicate 8 0 ++ [2147483648, 0]) =
      some ((⟨"Test 0", "A+B", "AA500", "2026_0"⟩, g.issue ⟨"Test 0", "A+B", "AA500", "2026_0"⟩),
        []) := by decide +kernel
  have hh : (ofSettings joined).Hands [⟨"Test 0", "A+B", "AA0", "-1_0"⟩] g := .cons h1 .nil
  obtain ⟨hlast, -, hiff⟩ := generate_first hh 2026
  obtain ⟨refused, d, hdraws, hd, hall, -, -, hfits, -⟩ := (hiff _ _ _ _).1 h2
  exact ⟨g, hh, hlast, refused, d, hdraws, hd, hall, hfits⟩

end CourseGenerator
end Rehearsal
