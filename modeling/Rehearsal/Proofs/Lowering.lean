import Rehearsal.Proofs.Expansion
import Rehearsal.Proofs.Runs

/-!
# What a scenario is lowered to

The steps of a scenario are lowered one after the other, while the placeholders and the generator of
courses change. `Lowers` says what one step comes to, given the placeholders that it sees and the
course that was created last; `Scenario.plan_lowers` says it for each step of a planned scenario by
its position alone: its page has the images of the steps in order, and its courses are those of a
fresh generator. `lower_cases` lists what one step does; the induction is on the steps that are
left.
-/

namespace Rehearsal

/-! ## What one step comes to -/

/-- Whether a step creates a course. -/
def ScenarioStep.creates : ScenarioStep → Bool
  | .command (.createCourse _) => true
  | _ => false

/-- How many courses some steps create. -/
def creations (steps : List ScenarioStep) : Nat := steps.countP ScenarioStep.creates

namespace Planner

/-- What a step comes to, given the placeholders that it sees and the course that was created last:
a step of the session to nothing, a created course to the eight steps of the form and possibly one
more, an upload to one file put into an input, and a step of the browser to itself with the values
put for the placeholders. -/
inductive Lowers (p : Planner) (v : Placeholders) (latest : Option Course) :
    ScenarioStep → List BrowserStep → Prop
  | session {c : Command} (h : c.isSession = true) : Lowers p v latest (.command c) []
  | create {c : Course} (nextUrl : Option String) (h : latest = some c) :
    Lowers p v latest (.command (.createCourse nextUrl))
      ([.navigate (joinAddress p.setup.cms p.setup.course.landingPath)
          (some p.setup.course.selectors.newCourseButton),
        .click p.setup.course.selectors.newCourseButton false none,
        .fill p.setup.course.selectors.name c.name,
        .fill p.setup.course.selectors.org c.org,
        .fill p.setup.course.selectors.number c.number,
        .fill p.setup.course.selectors.run c.run,
        .click p.setup.course.selectors.save false none,
        .urlContains p.setup.course.createdUrlFragment p.setup.course.createdTimeout] ++
        (nextUrl.map fun u => BrowserStep.navigate (v.expand u) none).toList)
  | upload {b : Blob} (fixture : String) (selector : Option String)
    (encoding : Option FixtureEncoding)
    (h : Blob.prepare p.fixtures p.setup.upload p.files fixture
      (encoding.getD p.setup.upload.encoding) = .ok b) :
    Lowers p v latest (.command (.uploadFile fixture selector encoding))
      [.injectFile ((selector.map v.expand).getD p.setup.upload.inputSelector) b.filename b.mimeType
        b.base64]
  | browser (s : BrowserStep) : Lowers p v latest (.browser s) [v.expandStep s]

variable {p : Planner} {o o' : Outlook} {s : ScenarioStep} {l : Lowered} {words rest : Words}

/-- A step that is lowered creates a course, which it sees itself, or leaves everything to the steps
after it as it was. -/
theorem lower_cases (h : (p.lower o s).run words = some (.ok (l, o'), rest)) :
    (s.creates = true ∧ ∃ c, o.generator.generate p.year words = some ((c, o'.generator), rest) ∧
      l.course = some c ∧ o'.placeholders = { o.placeholders with courseKey := some c.key } ∧
      p.Lowers o'.placeholders (some c) s l.steps) ∨
    (s.creates = false ∧ rest = words ∧ o' = o ∧ l.course = none ∧
      ∀ latest, p.Lowers o.placeholders latest s l.steps) := by
  cases s with
  | browser s =>
    obtain ⟨he, rfl⟩ := Planned.pure_ok.1 h
    cases he
    exact .inr ⟨rfl, rfl, rfl, rfl, fun _ => .browser s⟩
  | command c =>
    cases c with
    | createCourse nextUrl =>
      obtain ⟨⟨c, g⟩, mid, hg, h⟩ := Planned.bind_ok.1 h
      obtain ⟨he, rfl⟩ := Planned.pure_ok.1 h
      cases he
      refine .inl ⟨rfl, c, Planned.lift_ok.1 hg, rfl, rfl, ?_⟩
      have := Lowers.create (p := p) (v := { o.placeholders with courseKey := some c.key })
        nextUrl (rfl : some c = some c)
      cases nextUrl <;> exact this
    | uploadFile fixture selector encoding =>
      obtain ⟨step, mid, hu, h⟩ := Planned.bind_ok.1 h
      obtain ⟨hu, rfl⟩ := Planned.except_ok.1 hu
      obtain ⟨he, rfl⟩ := Planned.pure_ok.1 h
      cases he
      refine .inr ⟨rfl, rfl, rfl, rfl, fun latest => ?_⟩
      unfold uploadStep at hu
      rcases hb : Blob.prepare p.fixtures p.setup.upload p.files fixture
        (encoding.getD p.setup.upload.encoding) with _ | b <;> simp only [hb] at hu
      · cases hu
      · cases hu
        exact .upload fixture selector encoding hb
    | _ =>
      obtain ⟨he, rfl⟩ := Planned.pure_ok.1 h
      cases he
      exact .inr ⟨rfl, rfl, rfl, rfl, fun _ => .session rfl⟩

end Planner

/-! ## What all steps come to -/

/-- The course that was created last when the step at a position is lowered; a step that creates a
course sees its own. -/
def latestCourse? (steps : List ScenarioStep) (courses : List Course) (i : Nat) : Option Course :=
  (courses.take (creations (steps.take (i + 1)))).getLast?

/-- Placeholders after a course was created, or before one was. -/
def Placeholders.withCourse (v : Placeholders) (c : Option Course) : Placeholders :=
  { v with courseKey := c.map Course.key }

theorem Placeholders.withCourse_gives_courseKey (v : Placeholders) (c : Option Course) :
    (v.withCourse c).Gives "course_key"
      ((c.map fun c => c.key.toList).getD (token "course_key")) := by
  have h := (v.withCourse c).gives_courseKey
  cases c <;> exact h

section
variable {s : ScenarioStep} {steps : List ScenarioStep} {courses : List Course}

theorem creations_cons_of_creates (h : s.creates = true) :
    creations (s :: steps) = creations steps + 1 := List.countP_cons_of_pos h

theorem creations_cons_of_not_creates (h : s.creates = false) :
    creations (s :: steps) = creations steps := List.countP_cons_of_neg (by simp [h])

theorem latestCourse?_cons_of_creates (h : s.creates = true) (c : Course) (i : Nat) :
    latestCourse? (s :: steps) (c :: courses) (i + 1) =
      (latestCourse? steps courses i).or (some c) := by
  unfold latestCourse?
  rw [List.take_succ_cons, creations_cons_of_creates h, List.take_succ_cons,
    List.getLast?_cons]
  cases (courses.take (creations (steps.take (i + 1)))).getLast? <;> rfl

theorem latestCourse?_cons_of_not_creates (h : s.creates = false) (i : Nat) :
    latestCourse? (s :: steps) courses (i + 1) = latestCourse? steps courses i := by
  unfold latestCourse?
  rw [List.take_succ_cons, creations_cons_of_not_creates h]

theorem latestCourse?_zero_of_creates (h : s.creates = true) (c : Course) :
    latestCourse? (s :: steps) (c :: courses) 0 = some c := by
  unfold latestCourse?
  rw [List.take_succ_cons, creations_cons_of_creates h]
  rfl

theorem latestCourse?_zero_of_not_creates (h : s.creates = false) :
    latestCourse? (s :: steps) courses 0 = none := by
  unfold latestCourse?
  rw [List.take_succ_cons, creations_cons_of_not_creates h]
  rfl

end

theorem CourseGenerator.generateMany_succ {g : CourseGenerator} {year : Int} {n : Nat}
    {issued : List (Course × Nat)} {words rest : Words} :
    g.generateMany year (n + 1) words = some (issued, rest) ↔
      ∃ c g' mid tail, g.generate year words = some ((c, g'), mid) ∧
        g'.generateMany year n mid = some (tail, rest) ∧ issued = (c, mid.length) :: tail := by
  constructor
  · intro h
    obtain ⟨⟨c, g'⟩, mid, hg, h⟩ := Draw.bind_ok.1 h
    obtain ⟨_, _, hl, h⟩ := Draw.bind_ok.1 h
    cases hl
    obtain ⟨tail, _, ht, h⟩ := Draw.bind_ok.1 h
    obtain ⟨rfl, rfl⟩ := Draw.pure_ok.1 h
    exact ⟨c, g', mid, tail, hg, ht, rfl⟩
  · rintro ⟨c, g', mid, tail, hg, ht, rfl⟩
    refine Draw.bind_ok.2 ⟨(c, g'), mid, hg, Draw.bind_ok.2 ⟨mid, mid, rfl, ?_⟩⟩
    exact Draw.bind_ok.2 ⟨tail, rest, ht, Draw.pure_ok.2 ⟨rfl, rfl⟩⟩

theorem CourseGenerator.generateMany_length {year : Int} {n : Nat} {g : CourseGenerator}
    {issued : List (Course × Nat)} {words rest : Words}
    (h : g.generateMany year n words = some (issued, rest)) : issued.length = n := by
  induction n generalizing g issued words with
  | zero =>
    cases h
    rfl
  | succ n ih =>
    obtain ⟨c, g', mid, tail, -, ht, rfl⟩ := generateMany_succ.1 h
    rw [List.length_cons, ih ht]

namespace Planner

/-- Some steps come to images, position by position; `latest` is the course that was created last
before all of them. -/
structure LowersAll (p : Planner) (v : Placeholders) (latest : Option Course)
    (steps : List ScenarioStep) (courses : List Course) (images : List (List BrowserStep)) :
    Prop where
  length : images.length = steps.length
  image : ∀ i s, steps[i]? = some s → ∃ image, images[i]? = some image ∧
    p.Lowers (v.withCourse ((latestCourse? steps courses i).or latest))
      ((latestCourse? steps courses i).or latest) s image

section
variable {p : Planner} {v : Placeholders} {latest : Option Course} {s : ScenarioStep}
  {steps : List ScenarioStep} {courses : List Course} {image : List BrowserStep}
  {images : List (List BrowserStep)}

theorem LowersAll.nil : p.LowersAll v latest [] [] [] := ⟨rfl, by simp⟩

theorem LowersAll.create {c : Course} (hs : s.creates = true)
    (hi : p.Lowers (v.withCourse (some c)) (some c) s image)
    (h : p.LowersAll v (some c) steps courses images) :
    p.LowersAll v latest (s :: steps) (c :: courses) (image :: images) := by
  refine ⟨by simp [h.length], fun i t ht => ?_⟩
  cases i with
  | zero =>
    obtain rfl : s = t := by simpa using ht
    rw [latestCourse?_zero_of_creates hs, Option.some_or]
    exact ⟨image, rfl, hi⟩
  | succ i =>
    obtain ⟨x, hx, hl⟩ := h.image i t (by simpa using ht)
    rw [latestCourse?_cons_of_creates hs, Option.or_assoc, Option.some_or]
    exact ⟨x, by simpa using hx, hl⟩

theorem LowersAll.keep (hs : s.creates = false) (hi : p.Lowers (v.withCourse latest) latest s image)
    (h : p.LowersAll v latest steps courses images) :
    p.LowersAll v latest (s :: steps) courses (image :: images) := by
  refine ⟨by simp [h.length], fun i t ht => ?_⟩
  cases i with
  | zero =>
    obtain rfl : s = t := by simpa using ht
    rw [latestCourse?_zero_of_not_creates hs, Option.none_or]
    exact ⟨image, rfl, hi⟩
  | succ i =>
    obtain ⟨x, hx, hl⟩ := h.image i t (by simpa using ht)
    rw [latestCourse?_cons_of_not_creates hs]
    exact ⟨x, by simpa using hx, hl⟩

end

/-- The queue is made of the images of the steps, and the courses are those that the generator hands
out. -/
theorem lowerAll_ok {p : Planner} {v : Placeholders} :
    ∀ {steps : List ScenarioStep} {o : Outlook} {latest : Option Course} {words rest : Words}
      {queue : List BrowserStep} {courses : List Course},
      o.placeholders = v.withCourse latest →
      (p.lowerAll o steps).run words = some (.ok (queue, courses), rest) →
      ∃ (issued : List (Course × Nat)) (images : List (List BrowserStep)),
        o.generator.generateMany p.year (creations steps) words = some (issued, rest) ∧
        courses = issued.map Prod.fst ∧ queue = images.flatten ∧
        p.LowersAll v latest steps courses images
  | [], o, latest, words, rest, queue, courses, ho, h => by
    obtain ⟨he, rfl⟩ := Planned.pure_ok.1 h
    cases he
    exact ⟨[], [], rfl, rfl, rfl, .nil⟩
  | s :: steps, o, latest, words, rest, queue, courses, ho, h => by
    obtain ⟨⟨l, o'⟩, mid, hl, h⟩ := Planned.bind_ok.1 h
    obtain ⟨⟨queue', courses'⟩, mid', hr, h⟩ := Planned.bind_ok.1 h
    obtain ⟨he, rfl⟩ := Planned.pure_ok.1 h
    cases he
    rcases lower_cases hl with ⟨hs, c, hg, hc, ho', hi⟩ | ⟨hs, rfl, rfl, hc, hi⟩
    · have hv : o'.placeholders = v.withCourse (some c) := by rw [ho', ho]; rfl
      obtain ⟨issued, images, hm, rfl, rfl, ha⟩ := lowerAll_ok hv hr
      rw [hc, creations_cons_of_creates hs]
      exact ⟨_, l.steps :: images,
        CourseGenerator.generateMany_succ.2 ⟨c, o'.generator, mid, issued, hg, hm, rfl⟩, rfl, rfl,
        .create hs (hv ▸ hi) ha⟩
    · obtain ⟨issued, images, hm, rfl, rfl, ha⟩ := lowerAll_ok ho hr
      rw [hc, creations_cons_of_not_creates hs]
      exact ⟨issued, l.steps :: images, hm, rfl, rfl, .keep hs (ho ▸ hi latest) ha⟩

end Planner

/-! ## The plan -/

/-- What a plan is made of: the cookies of the session, the letters of the run, and, for the steps
of the scenario, the courses of a fresh generator and the images. -/
theorem Scenario.plan_ok {sc : Scenario} {p : Planner} {settings : BrowserSettings}
    {session : Session} {plan : Plan} {words rest : Words}
    (h : (sc.plan p settings session).run words = some (.ok plan, rest)) :
    ∃ (letters : List Char) (mid : Words) (issued : List (Course × Nat))
      (images : List (List BrowserStep)),
      session.browserCookies (cookieUrls p.setup) = .ok plan.page.cookies ∧
      Draw.letterList uniqueLength words = some (letters, mid) ∧
      (CourseGenerator.ofSettings p.setup.course).generateMany p.year (creations sc.steps) mid =
        some (issued, rest) ∧
      plan.courses = issued.map Prod.fst ∧ plan.page.steps = images.flatten ∧
      p.LowersAll (.ofSetup p.setup (String.ofList (letters.map Char.toLower))) none sc.steps
        plan.courses images := by
  obtain ⟨cookies, _, hc, h⟩ := Planned.bind_ok.1 h
  obtain ⟨hcookies, rfl⟩ := Planned.except_ok.1 hc
  obtain ⟨letters, mid, hl, h⟩ := Planned.bind_ok.1 h
  obtain ⟨⟨queue, courses⟩, last, ha, h⟩ := Planned.bind_ok.1 h
  obtain ⟨he, rfl⟩ := Planned.pure_ok.1 h
  have ho : Placeholders.ofSetup p.setup (String.ofList (letters.map Char.toLower)) =
    (Placeholders.ofSetup p.setup (String.ofList (letters.map Char.toLower))).withCourse none := rfl
  obtain ⟨issued, images, hm, hi, hq, hall⟩ := Planner.lowerAll_ok ho ha
  subst he
  exact ⟨letters, mid, issued, images, hcookies, Planned.lift_ok.1 hl, hm, hi, hq, hall⟩

/-- **What a scenario is lowered to.** The page of a plan has the images of the scenario's steps in
order, and its courses are those that a fresh generator hands out, one for each step that creates a
course. Each step is lowered with the course that was created last, up to that step and by it: the
key of that course stands where its placeholder was, which stays as it is if there is no course yet,
and the letters of the run are the same at every step. -/
theorem Scenario.plan_lowers {sc : Scenario} {p : Planner} {settings : BrowserSettings}
    {session : Session} {plan : Plan} {words rest : Words}
    (h : (sc.plan p settings session).run words = some (.ok plan, rest)) :
    ∃ (letters : List Char) (mid : Words) (issued : List (Course × Nat))
      (images : List (List BrowserStep)),
      Draw.letterList uniqueLength words = some (letters, mid) ∧
      (CourseGenerator.ofSettings p.setup.course).generateMany p.year (creations sc.steps) mid =
        some (issued, rest) ∧
      plan.courses = issued.map Prod.fst ∧ plan.courses.length = creations sc.steps ∧
      plan.page.steps = images.flatten ∧ images.length = sc.steps.length ∧
      ∀ i s, sc.steps[i]? = some s → ∃ image latest v, images[i]? = some image ∧
        latest = latestCourse? sc.steps plan.courses i ∧
        v = (Placeholders.ofSetup p.setup (String.ofList (letters.map Char.toLower))).withCourse
          latest ∧
        p.Lowers v latest s image ∧
        v.Gives "course_key"
          ((latest.map fun c => c.key.toList).getD (Placeholders.token "course_key")) ∧
        v.Gives "unique" (letters.map Char.toLower) := by
  obtain ⟨letters, mid, issued, images, -, hl, hm, hi, hq, hall⟩ := plan_ok h
  obtain ⟨hlen, hletters⟩ := Draw.letterList_ok hl
  have hlower : ∀ c ∈ letters, c.toLower.isLower = true := by
    have hc : (Draw.capitals.all fun c => c.toLower.isLower) = true := by decide
    exact fun c h => List.all_eq_true.1 hc c (hletters c h)
  have hn : plan.courses.length = creations sc.steps := by
    rw [hi, List.length_map, CourseGenerator.generateMany_length hm]
  refine ⟨letters, mid, issued, images, hl, hm, hi, hn, hq, hall.length, fun i s hs => ?_⟩
  obtain ⟨image, hx, hlow⟩ := hall.image i s hs
  rw [Option.or_none] at hlow
  refine ⟨image, _, _, hx, rfl, rfl, hlow, Placeholders.withCourse_gives_courseKey _ _, ?_⟩
  have hu : Placeholders.Lettered (letters.map Char.toLower) :=
    ⟨by simpa using hlower, by simp [hlen, uniqueLength]⟩
  have hg := Placeholders.gives_unique ((Placeholders.ofSetup p.setup
    (String.ofList (letters.map Char.toLower))).withCourse (latestCourse? sc.steps plan.courses i))
  simp only [Placeholders.withCourse, Placeholders.ofSetup, String.toList_ofList] at hg
  exact hg hu

/-- A scenario that logs out, creates a course and goes to its page. -/
def Scenario.visit : Scenario where
  name := "visit"
  description := ""
  tags := []
  viewport := ⟨1280, 720⟩
  steps := [.command .logout,
    .command (.createCourse (some "\x7bcms\x7d/course/\x7bcourse_key\x7d")),
    .browser (.fill "#id" "\x7bunique\x7d")]

/-- A planner without fixtures, for an application on the same machine. -/
def Planner.loopback : Planner :=
  ⟨{ lms := "http://[::1]", cms := "http://[::1]:4701" }, ⟨.folder [], []⟩, 2026⟩

theorem Scenario.plan_lowers_visit :
    ∃ (plan : Plan) (rest : Words) (images : List (List BrowserStep)),
      (visit.plan .loopback {} (.start .down ⟨0, 0⟩)).run (List.replicate 40 5) =
        some (.ok plan, rest) ∧
      plan.courses.length = 1 ∧ plan.page.steps = images.flatten ∧ images.length = 3 := by
  have hd : ((visit.plan .loopback {} (.start .down ⟨0, 0⟩)).run (List.replicate 40 5)).any
      (·.1.isOk) = true := by decide +kernel
  obtain ⟨plan, rest, h⟩ := Planned.exists_ok hd
  obtain ⟨letters, mid, issued, images, -, -, -, hn, hq, hlen, -⟩ := plan_lowers h
  exact ⟨plan, rest, images, h, hn, hq, hlen⟩

end Rehearsal
