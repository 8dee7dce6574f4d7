import Rehearsal.Proofs.SessionFirst

/-!
# When a scenario passes

A scenario passes if its session and its plan succeed and the browser tool, if there is something to
do for it, ends with code zero (`Scenario.perform_success`). What the tool tells about the steps is
reported as it stands: with code zero it does not count, so a scenario can pass with a failed step
or with fewer reports than steps. `Scenario.perform_cases` lists what can come of a scenario.
-/

namespace Rehearsal

/-! ## The run of a page -/

/-- The events that an outcome of the browser tool tells. -/
def ToolOutcome.events (o : ToolOutcome) : List StepEvent :=
  StepEvent.ofOutput (Text.decodeLossy o.stdout)

namespace Page

/-- The browser tool can be started for a page: its folders can be made, and the tool is found. -/
def Starts (p : Page) (stage : Stage) : Prop :=
  ∃ files, p.readyFiles stage.files = .ok files ∧
    stage.tools.refusal? files p.settings.projectDir p.settings.nodeBinary = none

variable {p : Page} {r : PageReport}

theorem conclude_ok {o : ToolOutcome} : p.conclude o = .ok r ↔
    r.steps = o.events.map p.report ∧ (o.code = 0 ∧ r.success = true ∨
      o.code ≠ 0 ∧ r.success = false ∧ ∃ e ∈ o.events, e.success = false) := by
  obtain ⟨success, steps⟩ := r
  have he : p.reports o.stdout = o.events.map p.report := rfl
  have hany : (o.events.map p.report).any (!·.success) = true ↔
      ∃ e ∈ o.events, e.success = false := by
    simp [report]
  unfold conclude
  rw [he]
  by_cases hc : o.code = 0
  · rw [if_pos hc]
    simp only [Except.ok.injEq, PageReport.mk.injEq]
    constructor
    · rintro ⟨rfl, rfl⟩
      exact ⟨rfl, .inl ⟨hc, rfl⟩⟩
    · rintro ⟨rfl, ⟨-, rfl⟩ | ⟨hn, -⟩⟩
      · exact ⟨rfl, rfl⟩
      · exact absurd hc hn
  · rw [if_neg hc]
    split
    · rename_i ha
      simp only [Except.ok.injEq, PageReport.mk.injEq]
      constructor
      · rintro ⟨rfl, rfl⟩
        exact ⟨rfl, .inr ⟨hc, rfl, hany.1 ha⟩⟩
      · rintro ⟨rfl, ⟨h0, -⟩ | ⟨-, rfl, -⟩⟩
        · exact absurd h0 hc
        · exact ⟨rfl, rfl⟩
    · rename_i ha
      constructor
      · intro h
        cases h
      · rintro ⟨-, ⟨h0, -⟩ | ⟨-, -, hx⟩⟩
        · exact absurd h0 hc
        · exact absurd (hany.2 hx) ha

theorem run_ok {stage : Stage} : (p.run stage).1 = .ok r ↔
    p.Starts stage ∧ p.conclude stage.tools.next = .ok r := by
  unfold run Starts
  rcases hf : p.readyFiles stage.files with f | files
  · simp
  · rcases hr : stage.tools.refusal? files p.settings.projectDir p.settings.nodeBinary with _ | e
    · simp [hr]
    · simp [hr]

end Page

/-! ## What comes of a scenario -/

namespace Scenario

/-- What comes of the session steps of a scenario on a stage. -/
def sessionOutcome (sc : Scenario) (setup : Setup) (stage : Stage) : SessionOutcome :=
  takeSessionSteps setup (Session.start stage.network stage.now) sc.steps

/-- The plan of a scenario on a stage, or the failure to plan it, with the words left. -/
def planned (sc : Scenario) (setup : Setup) (settings : BrowserSettings) (stage : Stage) :
    Option (Except Failure Plan × Words) :=
  (sc.plan ⟨setup, stage.files, stage.year⟩ settings (sc.sessionOutcome setup stage).session).run
    stage.words

section
variable (sc : Scenario) (setup : Setup) (settings : BrowserSettings) (stage : Stage)

/-- What can come of a scenario: a session step fails, planning fails, there is nothing to do for
the browser, or the page is run. -/
inductive Performed : ScenarioReport → Stage → Prop
  | session {f : Failure} : (sc.sessionOutcome setup stage).failure = some f →
    Performed (.failed sc.name (sc.sessionOutcome setup stage).steps [] f)
      { stage with network := (sc.sessionOutcome setup stage).session.network }
  | unplanned {f : Failure} {words : Words} : (sc.sessionOutcome setup stage).failure = none →
    sc.planned setup settings stage = some (.error f, words) →
    Performed (.failed sc.name (sc.sessionOutcome setup stage).steps [] f)
      { stage with network := (sc.sessionOutcome setup stage).session.network, words := words }
  | idle {plan : Plan} {words : Words} : (sc.sessionOutcome setup stage).failure = none →
    sc.planned setup settings stage = some (.ok plan, words) → plan.page.steps = [] →
    Performed ⟨sc.name, true, 0, (sc.sessionOutcome setup stage).steps, plan.courses.map Course.key,
        none⟩
      { stage with network := (sc.sessionOutcome setup stage).session.network, words := words }
  | browser {plan : Plan} {words : Words} {r : Except Failure PageReport} {after : Stage} :
    (sc.sessionOutcome setup stage).failure = none →
    sc.planned setup settings stage = some (.ok plan, words) → plan.page.steps ≠ [] →
    plan.page.run { stage with
      network := (sc.sessionOutcome setup stage).session.network, words := words } = (r, after) →
    Performed
      (sc.concludePage (sc.sessionOutcome setup stage).steps (plan.courses.map Course.key) r) after

end

section
variable {sc : Scenario} {setup : Setup} {settings : BrowserSettings} {stage after : Stage}
  {r : ScenarioReport}

theorem perform_eq : sc.perform setup settings stage =
    match (sc.sessionOutcome setup stage).failure with
    | some f => some (.failed sc.name (sc.sessionOutcome setup stage).steps [] f,
        { stage with network := (sc.sessionOutcome setup stage).session.network })
    | none => (sc.planned setup settings stage).bind fun (planned, words) =>
      let stage' := { stage with
        network := (sc.sessionOutcome setup stage).session.network, words := words }
      match planned with
      | .error f => some (.failed sc.name (sc.sessionOutcome setup stage).steps [] f, stage')
      | .ok plan =>
        let courses := plan.courses.map Course.key
        if plan.page.steps.isEmpty then
          some (⟨sc.name, true, 0, (sc.sessionOutcome setup stage).steps, courses, none⟩, stage')
        else
          some (sc.concludePage (sc.sessionOutcome setup stage).steps courses
            (plan.page.run stage').1, (plan.page.run stage').2) := rfl

theorem perform_cases (h : sc.perform setup settings stage = some (r, after)) :
    sc.Performed setup settings stage r after := by
  rw [perform_eq] at h
  rcases hf : (sc.sessionOutcome setup stage).failure with _ | f <;> rw [hf] at h
  · rcases hp : sc.planned setup settings stage with _ | ⟨f | plan, words⟩ <;> rw [hp] at h
    · cases h
    · cases h
      exact .unplanned hf hp
    · simp only [Option.bind_some] at h
      by_cases he : plan.page.steps = []
      · rw [if_pos (by simp [he])] at h
        cases h
        exact .idle hf hp he
      · rw [if_neg (by simpa using he)] at h
        cases h
        exact .browser hf hp he rfl
  · cases h
    exact .session hf

/-! ## What passes -/

/-- A scenario that passes had nothing to do for the browser, or the browser tool ended with code
zero; then the events that it told are reported. -/
theorem pass_cases (h : sc.perform setup settings stage = some (r, after)) (hs : r.success = true) :
    (sc.sessionOutcome setup stage).failure = none ∧
    ∃ plan words, sc.planned setup settings stage = some (.ok plan, words) ∧
      (plan.page.steps = [] ∧ r.steps = (sc.sessionOutcome setup stage).steps ∧ r.error = none ∨
      plan.page.steps ≠ [] ∧ plan.page.Starts stage ∧ stage.tools.next.code = 0 ∧
        r.steps = (sc.sessionOutcome setup stage).steps ++
          stage.tools.next.events.map plan.page.report ∧
        r.error = stage.tools.next.events.findSome? (·.error)) := by
  cases perform_cases h with
  | session hf => cases hs
  | unplanned hf hp => cases hs
  | @idle plan words hf hp he => exact ⟨hf, plan, words, hp, .inl ⟨he, rfl, rfl⟩⟩
  | @browser plan words report after hf hp he hr =>
    rcases report with f | report
    · cases hs
    · obtain ⟨hstart, hc⟩ := Page.run_ok.1 (congrArg Prod.fst hr)
      have hs : report.success = true := hs
      obtain ⟨hsteps, ⟨hcode, -⟩ | ⟨-, hfail, -⟩⟩ := Page.conclude_ok.1 hc
      · refine ⟨hf, plan, words, hp, .inr ⟨he, hstart, hcode, ?_, ?_⟩⟩
        · rw [← hsteps]
          rfl
        · simp only [concludePage, PageReport.firstError, hs, hsteps, if_true, Option.or_none,
            List.findSome?_map]
          rfl
      · rw [hs] at hfail
        cases hfail

theorem success_of_code (h : sc.perform setup settings stage = some (r, after))
    (hf : (sc.sessionOutcome setup stage).failure = none) {plan : Plan} {words : Words}
    (hp : sc.planned setup settings stage = some (.ok plan, words))
    (hq : plan.page.steps = [] ∨ plan.page.Starts stage ∧ stage.tools.next.code = 0) :
    r.success = true := by
  cases perform_cases h with
  | session hf' =>
    rw [hf] at hf'
    cases hf'
  | unplanned _ hp' =>
    rw [hp] at hp'
    cases hp'
  | idle _ _ _ => rfl
  | @browser plan' words' report after _ hp' he hr =>
    rw [hp] at hp'
    cases hp'
    obtain ⟨hstart, hcode⟩ := hq.resolve_left he
    have hc : plan.page.conclude stage.tools.next =
        .ok ⟨true, stage.tools.next.events.map plan.page.report⟩ :=
      Page.conclude_ok.2 ⟨rfl, .inl ⟨hcode, rfl⟩⟩
    have hrun : (plan.page.run { stage with
        network := (sc.sessionOutcome setup stage).session.network, words := words }).1 =
        .ok ⟨true, stage.tools.next.events.map plan.page.report⟩ := Page.run_ok.2 ⟨hstart, hc⟩
    obtain rfl : report = .ok ⟨true, stage.tools.next.events.map plan.page.report⟩ := by
      rw [← hrun]
      exact (congrArg Prod.fst hr).symm
    rfl

/-- **What a pass says.** A scenario passes exactly if no session step fails, it can be planned, and
either there is nothing to do for the browser or the browser tool can be started and ends with code
zero. Then all session steps are reported as successful, the other reports are the events that the
tool told, and the error is the first one among them; so a pass means that every step of the browser
was reported as successful, without an error, exactly if the tool told as many events, and they say
so. -/
theorem perform_success (h : sc.perform setup settings stage = some (r, after)) :
    (r.success = true ↔ (sc.sessionOutcome setup stage).failure = none ∧
      ∃ plan words, sc.planned setup settings stage = some (.ok plan, words) ∧
        (plan.page.steps = [] ∨ plan.page.Starts stage ∧ stage.tools.next.code = 0)) ∧
    (r.success = true → ∃ plan words events,
      sc.planned setup settings stage = some (.ok plan, words) ∧
      events = (if plan.page.steps = [] then [] else stage.tools.next.events) ∧
      r.steps = (sc.sessionOutcome setup stage).steps ++ events.map plan.page.report ∧
      (∀ s ∈ (sc.sessionOutcome setup stage).steps, s.success = true ∧ s.error = none) ∧
      r.error = events.findSome? (·.error) ∧
      (r.error = none ∧ (∀ s ∈ r.steps, s.success = true) ∧
          r.steps.length = (sc.sessionOutcome setup stage).steps.length + plan.page.steps.length ↔
        events.length = plan.page.steps.length ∧
          ∀ e ∈ events, e.success = true ∧ e.error = none)) := by
  constructor
  · constructor
    · intro hs
      obtain ⟨hf, plan, words, hp, ⟨he, -⟩ | ⟨-, hstart, hcode, -⟩⟩ := pass_cases h hs
      · exact ⟨hf, plan, words, hp, .inl he⟩
      · exact ⟨hf, plan, words, hp, .inr ⟨hstart, hcode⟩⟩
    · rintro ⟨hf, plan, words, hp, hq⟩
      exact success_of_code h hf hp hq
  · intro hs
    obtain ⟨hf, plan, words, hp, hcases⟩ := pass_cases h hs
    have hsession := (taken_of_failure_eq_none hf).success
    obtain ⟨events, hevents, hsteps, herror⟩ : ∃ events : List StepEvent,
        events = (if plan.page.steps = [] then [] else stage.tools.next.events) ∧
        r.steps = (sc.sessionOutcome setup stage).steps ++ events.map plan.page.report ∧
        r.error = events.findSome? (·.error) := by
      rcases hcases with ⟨he, hsteps, herror⟩ | ⟨he, -, -, hsteps, herror⟩
      · exact ⟨[], by rw [if_pos he], by simpa using hsteps, herror⟩
      · exact ⟨stage.tools.next.events, by rw [if_neg he], hsteps, herror⟩
    refine ⟨plan, words, events, hp, hevents, hsteps, hsession, herror, ?_⟩
    rw [herror, hsteps, List.findSome?_eq_none_iff, List.length_append, List.length_map]
    constructor
    · rintro ⟨hnone, hall, hlen⟩
      refine ⟨by omega, fun e he => ⟨?_, hnone e he⟩⟩
      exact hall (plan.page.report e) (List.mem_append_right _ (List.mem_map_of_mem he))
    · rintro ⟨hlen, hall⟩
      refine ⟨fun e he => (hall e he).2, fun s hs => ?_, by omega⟩
      rcases List.mem_append.1 hs with hs | hs
      · exact (hsession s hs).1
      · obtain ⟨e, he, rfl⟩ := List.mem_map.1 hs
        exact (hall e he).1

end

end Scenario

/-- A scenario that waits twice. -/
def Scenario.pause : Scenario where
  name := "pause"
  description := ""
  tags := []
  viewport := ⟨1280, 720⟩
  steps := [.browser (.sleep 1), .browser (.sleep 2)]

/-- A stage on which the browser tool tells that the first step failed and ends with code zero. -/
def Stage.lenient : Stage where
  files := ⟨.folder [("work", .folder [])], ["work"]⟩
  network := .down
  tools := { outcomes := [⟨Text.utf8 ("__E2E__\x7b\"index\":0,\"name\":\"sleep:1ms\"," ++
    "\"success\":false,\"duration_ms\":1,\"error\":\"boom\"\x7d").toList, [], 0⟩] }
  words := List.replicate 20 5
  now := ⟨0, 0⟩
  year := 2026

namespace Scenario

theorem perform_pause : ∃ after,
    pause.perform Planner.loopback.setup {} .lenient =
      some (⟨"pause", true, 0, [⟨false, "sleep:1ms", 1, some "boom", none⟩], [], some "boom"⟩,
        after) := by
  have h : (pause.perform Planner.loopback.setup {} .lenient).map (·.1) =
      some ⟨"pause", true, 0, [⟨false, "sleep:1ms", 1, some "boom", none⟩], [], some "boom"⟩ := by
    decide +kernel
  obtain ⟨⟨r, after⟩, hp, rfl⟩ := Option.map_eq_some_iff.1 h
  exact ⟨after, hp⟩

/-- A scenario can pass with an error, a step that failed, and fewer reports than steps. -/
theorem pass_with_error :
    (pause.sessionOutcome Planner.loopback.setup .lenient).steps = [] ∧
    ((pause.planned Planner.loopback.setup {} .lenient).any
      (·.1.toOption.any (·.page.steps.length = 2))) = true ∧
    ∃ r after, pause.perform Planner.loopback.setup {} .lenient = some (r, after) ∧
      r.success = true ∧ r.error = some "boom" ∧ (∃ s ∈ r.steps, s.success = false) ∧
      r.steps.length = 1 := by
  refine ⟨by decide +kernel, by decide +kernel, ?_⟩
  obtain ⟨after, h⟩ := perform_pause
  exact ⟨_, after, h, rfl, rfl, ⟨_, List.mem_singleton_self _, rfl⟩, rfl⟩

theorem perform_success_pause : ∃ r after,
    pause.perform Planner.loopback.setup {} .lenient = some (r, after) ∧ r.success = true ∧
    ∃ plan words, pause.planned Planner.loopback.setup {} .lenient = some (.ok plan, words) ∧
      (plan.page.steps = [] ∨ plan.page.Starts .lenient ∧ Stage.lenient.tools.next.code = 0) := by
  obtain ⟨after, h⟩ := perform_pause
  obtain ⟨-, plan, words, hp, hq⟩ := (perform_success h).1.1 rfl
  exact ⟨_, after, h, rfl, plan, words, hp, hq⟩

end Scenario
end Rehearsal
