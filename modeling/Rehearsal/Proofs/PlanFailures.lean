import Rehearsal.Proofs.CookieExport
import Rehearsal.Proofs.Lowering

/-!
# When a scenario cannot be planned

A plan needs the cookies of three addresses and the fixtures of all uploads. A setup is valid only
if these addresses are URLs, so the cookies are always there (`Scenario.cookieUrls_parse`), and of the
steps only uploads can fail. `Planner.lower_run_cases` lists all that a step can come to; from it
`Planner.lowerAll_run` says of all steps that they fail for the first fixture that cannot be
prepared, and that nothing but random words can be missing for a result. `Scenario.plan_fails` puts
this together.
-/

namespace Rehearsal

/-! ## Steps that fail -/

/-- The failure that a result is, if it is one. -/
def failureOf? {α : Type} : Except Failure α → Option Failure
  | .error f => some f
  | .ok _ => none

theorem failureOf?_eq_some {α : Type} {r : Except Failure α} {f : Failure} :
    failureOf? r = some f ↔ r = .error f := by
  cases r <;> simp [failureOf?]

theorem CourseGenerator.generateMany_run (g : CourseGenerator) (year : Int) (n : Nat)
    (words : Words) : g.generateMany year (n + 1) words =
      (g.generate year words).bind fun r =>
        (r.1.2.generateMany year n r.2).map fun d => ((r.1.1, r.2.length) :: d.1, d.2) := by
  have h : g.generateMany year (n + 1) words = (g.generate year words).bind fun r =>
      (r.1.2.generateMany year n r.2).bind fun d => some ((r.1.1, r.2.length) :: d.1, d.2) := rfl
  rw [h]
  simp only [Option.map_eq_bind]
  rfl

namespace Planner

/-- Why the fixture of a step cannot be prepared; `none` if it can, or if the step uploads nothing. -/
def fixtureFailure? (p : Planner) : ScenarioStep → Option Failure
  | .command (.uploadFile fixture _ encoding) =>
    failureOf? (Blob.prepare p.fixtures p.setup.upload p.files fixture
      (encoding.getD p.setup.upload.encoding))
  | _ => none

variable {p : Planner} {s : ScenarioStep} {f : Failure}

theorem fixtureFailure?_eq_some : p.fixtureFailure? s = some f ↔
    ∃ fixture selector encoding, s = .command (.uploadFile fixture selector encoding) ∧
      Blob.prepare p.fixtures p.setup.upload p.files fixture
        (encoding.getD p.setup.upload.encoding) = .error f := by
  constructor
  · intro h
    unfold fixtureFailure? at h
    split at h
    · exact ⟨_, _, _, rfl, failureOf?_eq_some.1 h⟩
    · cases h
  · rintro ⟨fixture, selector, encoding, rfl, h⟩
    exact failureOf?_eq_some.2 h

/-- All that a step can come to: a course is created if one can be drawn, a fixture cannot be
prepared, or the step is lowered without any draw. -/
theorem lower_run_cases (p : Planner) (o : Outlook) (s : ScenarioStep) (words : Words) :
    (s.creates = true ∧ p.fixtureFailure? s = none ∧
      o.generator.generate p.year words = none ∧ (p.lower o s).run words = none) ∨
    (s.creates = true ∧ p.fixtureFailure? s = none ∧ ∃ c l o' rest,
      o.generator.generate p.year words = some ((c, o'.generator), rest) ∧
      (p.lower o s).run words = some (.ok (l, o'), rest)) ∨
    (∃ f, p.fixtureFailure? s = some f ∧ (p.lower o s).run words = some (.error f, words)) ∨
    (s.creates = false ∧ p.fixtureFailure? s = none ∧ ∃ l,
      (p.lower o s).run words = some (.ok (l, o), words)) := by
  cases s with
  | browser s => exact .inr (.inr (.inr ⟨rfl, rfl, _, rfl⟩))
  | command c =>
    cases c with
    | createCourse nextUrl =>
      have hlift := Planned.run_lift (o.generator.generate p.year) words
      rcases hg : o.generator.generate p.year words with _ | ⟨⟨c, g⟩, rest⟩ <;> rw [hg] at hlift
      · exact .inl ⟨rfl, rfl, rfl, Planned.bind_of_none _ hlift⟩
      · exact .inr (.inl ⟨rfl, rfl, c, _, _, rest, rfl, Planned.bind_of_ok _ hlift⟩)
    | uploadFile fixture selector encoding =>
      have hstep : p.uploadStep o fixture selector encoding =
          (Blob.prepare p.fixtures p.setup.upload p.files fixture
            (encoding.getD p.setup.upload.encoding)).map fun b =>
              b.injection ((selector.map o.placeholders.expand).getD p.setup.upload.inputSelector) :=
        rfl
      have hlift : (lower.liftExcept (p.uploadStep o fixture selector encoding)).run words =
          some (p.uploadStep o fixture selector encoding, words) := rfl
      rcases hb : Blob.prepare p.fixtures p.setup.upload p.files fixture
        (encoding.getD p.setup.upload.encoding) with f | b
      · have hu : p.uploadStep o fixture selector encoding = .error f := by rw [hstep, hb]; rfl
        exact .inr (.inr (.inl ⟨f, congrArg failureOf? hb,
          Planned.bind_of_error _ (hlift.trans (congrArg (fun r => some (r, words)) hu))⟩))
      · obtain ⟨step, hu⟩ : ∃ step, p.uploadStep o fixture selector encoding = .ok step :=
          ⟨_, by rw [hstep, hb]; rfl⟩
        exact .inr (.inr (.inr ⟨rfl, congrArg failureOf? hb, _,
          Planned.bind_of_ok _ (hlift.trans (congrArg (fun r => some (r, words)) hu))⟩))
    | _ => exact .inr (.inr (.inr ⟨rfl, rfl, _, rfl⟩))

/-- The steps before the first fixture that cannot be prepared. -/
def soundFront (p : Planner) (steps : List ScenarioStep) : List ScenarioStep :=
  steps.takeWhile fun s => (p.fixtureFailure? s).isNone

theorem map_failureOf?_bind {α β : Type} {x : Planned α} {f : α → β} {words : Words} :
    ((x >>= fun a => pure (f a)).run words).map (fun r => (failureOf? r.1, r.2)) =
      (x.run words).map fun r => (failureOf? r.1, r.2) := by
  rcases hx : x.run words with _ | ⟨e | a, rest⟩
  · rw [Planned.bind_of_none _ hx]
    rfl
  · rw [Planned.bind_of_error _ hx]
    rfl
  · rw [Planned.bind_of_ok _ hx]
    rfl

/-- What the steps after a step come to decides, once that step is lowered. -/
theorem lowerAll_of_lower {o o' : Outlook} {l : Lowered} {words rest : Words}
    (h : (p.lower o s).run words = some (.ok (l, o'), rest)) (steps : List ScenarioStep) :
    ((p.lowerAll o (s :: steps)).run words).map (fun r => (failureOf? r.1, r.2)) =
      ((p.lowerAll o' steps).run rest).map fun r => (failureOf? r.1, r.2) := by
  have hrun : (p.lowerAll o (s :: steps)).run words = (p.lowerAll o' steps >>= fun x =>
      pure (l.steps ++ x.1, l.course.toList ++ x.2) : Planned _).run rest :=
    Planned.bind_of_ok _ h
  rw [hrun, map_failureOf?_bind]

/-- All steps fail for the first fixture that cannot be prepared, and succeed if there is none; the
draws are those for the courses before it, and there is a result exactly if these can be drawn. -/
theorem lowerAll_run (p : Planner) (steps : List ScenarioStep) (o : Outlook) (words : Words) :
    ((p.lowerAll o steps).run words).map (fun r => (failureOf? r.1, r.2)) =
      (o.generator.generateMany p.year (creations (p.soundFront steps)) words).map
        fun d => (steps.findSome? p.fixtureFailure?, d.2) := by
  induction steps generalizing o words with
  | nil => rfl
  | cons s steps ih =>
    have hfront (hf : p.fixtureFailure? s = none) :
        p.soundFront (s :: steps) = s :: p.soundFront steps :=
      List.takeWhile_cons_of_pos (by rw [hf]; rfl)
    rcases p.lower_run_cases o s words with
      ⟨hs, hf, hg, hr⟩ | ⟨hs, hf, c, l, o', rest, hg, hr⟩ | ⟨f, hf, hr⟩ | ⟨hs, hf, l, hr⟩
    · have hn : (p.lowerAll o (s :: steps)).run words = none := Planned.bind_of_none _ hr
      rw [hn, hfront hf, creations_cons_of_creates hs, CourseGenerator.generateMany_run, hg]
      rfl
    · rw [lowerAll_of_lower hr, ih, hfront hf, creations_cons_of_creates hs,
        CourseGenerator.generateMany_run, hg, List.findSome?_cons, hf, Option.bind_some,
        Option.map_map]
      rfl
    · have he : (p.lowerAll o (s :: steps)).run words = some (.error f, words) :=
        Planned.bind_of_error _ hr
      rw [he, soundFront, List.takeWhile_cons_of_neg (by rw [hf]; simp), List.findSome?_cons, hf]
      rfl
    · rw [lowerAll_of_lower hr, ih, hfront hf, creations_cons_of_not_creates hs,
        List.findSome?_cons, hf]

end Planner

/-! ## The plan -/

namespace Scenario

variable {sc : Scenario} {p : Planner}

/-- What is drawn for a plan: the letters of the run, and the courses before the first fixture that
cannot be prepared. -/
def draws (sc : Scenario) (p : Planner) : Draw (List (Course × Nat)) := do
  let _ ← Draw.letterList uniqueLength
  (CourseGenerator.ofSettings p.setup.course).generateMany p.year
    (creations (p.soundFront sc.steps))

/-- The addresses whose cookies the browser takes over are URLs if the setup is valid. -/
theorem cookieUrls_parse {setup : Setup} (h : setup.validate = .ok ()) :
    ∀ url ∈ cookieUrls setup, ∃ u, urlOf url = .ok u := by
  obtain ⟨u, hu, h⟩ := bind_ok.1 h
  obtain ⟨v, hv, h⟩ := bind_ok.1 h
  obtain ⟨w, hw, -⟩ := bind_ok.1 h
  simpa [cookieUrls] using ⟨⟨u, hu⟩, ⟨v, hv⟩, ⟨w, hw⟩⟩

/-- A plan fails for the first fixture that cannot be prepared, once there are the cookies; there is
a result exactly if what is drawn for it can be drawn. -/
theorem plan_run (sc : Scenario) {session : Session} {cookies : List BrowserCookie}
    (hc : session.browserCookies (cookieUrls p.setup) = .ok cookies) (settings : BrowserSettings)
    (words : Words) :
    ((sc.plan p settings session).run words).map (fun r => (failureOf? r.1, r.2)) =
      (sc.draws p words).map fun d => (sc.steps.findSome? p.fixtureFailure?, d.2) := by
  have hcookies : (ExceptT.mk (pure (session.browserCookies (cookieUrls p.setup))) :
      Planned (List BrowserCookie)).run words = some (.ok cookies, words) :=
    congrArg (fun r => some (r, words)) hc
  have hletters := Planned.run_lift (Draw.letterList uniqueLength) words
  have hplan : (sc.plan p settings session).run words = _ := Planned.bind_of_ok _ hcookies
  have hdraws : sc.draws p words = (Draw.letterList uniqueLength words).bind fun r =>
    (CourseGenerator.ofSettings p.setup.course).generateMany p.year
      (creations (p.soundFront sc.steps)) r.2 := rfl
  rw [hplan, hdraws]
  rcases hl : Draw.letterList uniqueLength words with _ | ⟨letters, mid⟩ <;> rw [hl] at hletters
  · rw [Planned.bind_of_none _ hletters]
    rfl
  · have hlower := p.lowerAll_run sc.steps
      ⟨.ofSettings p.setup.course, .ofSetup p.setup (String.ofList (letters.map Char.toLower))⟩ mid
    rw [Planned.bind_of_ok _ hletters]
    exact Planner.map_failureOf?_bind.trans hlower

/-- **When a scenario cannot be planned.** Take a valid setup and any session, files and scenario.
The cookies of the session can always be handed over. There is a result exactly if there are random
words enough for what is drawn: the letters of the run and the courses that are created before the
first fixture that cannot be prepared. And the result is a failure exactly if some upload's fixture
cannot be prepared, namely the one of the first such upload. -/
theorem plan_fails (h : p.setup.validate = .ok ()) (sc : Scenario) (settings : BrowserSettings)
    (session : Session) :
    (∃ cookies, session.browserCookies (cookieUrls p.setup) = .ok cookies) ∧
    ∀ words,
      ((sc.plan p settings session).run words).isSome = (sc.draws p words).isSome ∧
      ∀ r rest, (sc.plan p settings session).run words = some (r, rest) →
        ((∃ f, r = .error f) ↔ ∃ s ∈ sc.steps, ∃ f, p.fixtureFailure? s = some f) ∧
        ∀ f, r = .error f ↔ ∃ before fixture selector encoding after,
          sc.steps = before ++ .command (.uploadFile fixture selector encoding) :: after ∧
          (∀ s ∈ before, p.fixtureFailure? s = none) ∧
          Blob.prepare p.fixtures p.setup.upload p.files fixture
            (encoding.getD p.setup.upload.encoding) = .error f := by
  have hcookies := Session.browserCookies_of_urls (s := session) (cookieUrls_parse h)
  refine ⟨⟨_, hcookies⟩, fun words => ?_⟩
  have hrun := sc.plan_run hcookies settings words
  refine ⟨?_, fun r rest hr => ?_⟩
  · have hsome := congrArg Option.isSome hrun
    rwa [Option.isSome_map, Option.isSome_map] at hsome
  have hfailure : ∀ f, r = .error f ↔ sc.steps.findSome? p.fixtureFailure? = some f := by
    rw [hr, Option.map_some] at hrun
    obtain ⟨d, -, hd⟩ := Option.map_eq_some_iff.1 hrun.symm
    have hfirst : sc.steps.findSome? p.fixtureFailure? = failureOf? r := congrArg Prod.fst hd
    intro f
    rw [← failureOf?_eq_some, hfirst]
  constructor
  · rw [exists_congr hfailure, ← Option.isSome_iff_exists, List.findSome?_isSome_iff]
    simp only [Option.isSome_iff_exists]
  · intro f
    rw [hfailure, List.findSome?_eq_some_iff]
    constructor
    · rintro ⟨before, s, after, hs, hf, hb⟩
      obtain ⟨fixture, selector, encoding, rfl, hprepare⟩ := Planner.fixtureFailure?_eq_some.1 hf
      exact ⟨before, fixture, selector, encoding, after, hs, hb, hprepare⟩
    · rintro ⟨before, fixture, selector, encoding, after, hs, hb, hf⟩
      exact ⟨before, _, after, hs, failureOf?_eq_some.2 hf, hb⟩

end Scenario

/-- A planner with one fixture, for an application on the same machine. -/
def Planner.supplied : Planner :=
  { Planner.loopback with
    files := ⟨.folder [("fixtures", .folder [("a.txt", .file [104, 105])])], []⟩ }

/-- A scenario that creates a course and uploads three files, of which only the first one is there. -/
def Scenario.halfSupplied : Scenario where
  name := "half supplied"
  description := ""
  tags := []
  viewport := ⟨1280, 720⟩
  steps := [.command (.createCourse none), .command (.uploadFile "a.txt" none none),
    .browser (.fill "#id" "\x7bcourse_key\x7d"), .command (.uploadFile "./b.txt" none none),
    .command (.uploadFile "../c.txt" none none)]

theorem Scenario.plan_fails_halfSupplied : Planner.supplied.setup.validate = .ok () ∧
    ∃ rest, (halfSupplied.plan .supplied {} Session.layered).run (List.replicate 40 5) =
      some (.error (.fixtureNotFound "fixtures/./b.txt"), rest) := by
  have hvalid : Planner.supplied.setup.validate = .ok () := ok_of_toOption (by decide +kernel)
  obtain ⟨-, hrun⟩ := plan_fails hvalid halfSupplied {} .layered
  obtain ⟨hsome, hfails⟩ := hrun (List.replicate 40 5)
  have hdraws : (halfSupplied.draws .supplied (List.replicate 40 5)).isSome = true := by
    decide +kernel
  rw [hdraws] at hsome
  obtain ⟨⟨r, rest⟩, hr⟩ := Option.isSome_iff_exists.1 hsome
  obtain ⟨-, hfirst⟩ := hfails r rest hr
  have he : r = .error (.fixtureNotFound "fixtures/./b.txt") := by
    refine (hfirst _).2 ⟨halfSupplied.steps.take 3, "./b.txt", none, none,
      halfSupplied.steps.drop 4, rfl, ?_, rfl⟩
    have hall : ((halfSupplied.steps.take 3).all fun s =>
        (Planner.supplied.fixtureFailure? s).isNone) = true := by decide +kernel
    exact fun s hs => Option.isNone_iff_eq_none.1 (List.all_eq_true.1 hall s hs)
  exact ⟨hvalid, rest, he ▸ hr⟩

end Rehearsal
