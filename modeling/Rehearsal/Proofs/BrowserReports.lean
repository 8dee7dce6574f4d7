import Rehearsal.Proofs.Verdict

/-!
# What becomes of the reports of a browser

The events that the browser tool tells are the reports of a page, in order, as long as the tool ends
with code zero or tells of a step that failed. A tool that ends otherwise after it told only of
steps that succeeded is taken for one that never came to a step: its events are dropped
(`ToolOutcome.Drops`), and the failure has its whole output instead (`Page.conclude_eq`).
`Page.reports_kept` says that these are all outcomes that lose reports, for a page by itself and
for the scenario whose page it is.
-/

namespace Rehearsal

namespace ToolOutcome

/-- All that the browser tool wrote, as a failure words it. -/
def wording (o : ToolOutcome) : String :=
  let out := String.ofList (Text.decodeLossy o.stdout)
  let err := String.ofList (Text.decodeLossy o.stderr)
  s!"Script failed:\nstdout: {out}\nstderr: {err}"

/-- The browser tool failed, and it told of steps that all succeeded. -/
structure Drops (o : ToolOutcome) : Prop where
  code : o.code ≠ 0
  told : o.events ≠ []
  succeeded : ∀ e ∈ o.events, e.success = true

end ToolOutcome

/-! ## The run of a page -/

namespace Page

variable {p : Page} {o : ToolOutcome} {stage : Stage}

/-- An outcome says everything about a page: it is a report with all events, or a failure if the
tool failed and no step did. -/
theorem conclude_eq (p : Page) (o : ToolOutcome) :
    ((o.code = 0 ∨ ∃ e ∈ o.events, e.success = false) ∧
      p.conclude o = .ok ⟨decide (o.code = 0), o.events.map p.report⟩) ∨
    ((o.code ≠ 0 ∧ ∀ e ∈ o.events, e.success = true) ∧
      p.conclude o = .error (.browserFailed o.wording)) := by
  by_cases hc : o.code = 0
  · refine .inl ⟨.inl hc, conclude_ok.2 ⟨rfl, .inl ⟨hc, ?_⟩⟩⟩
    simp [hc]
  · by_cases hs : ∃ e ∈ o.events, e.success = false
    · refine .inl ⟨.inr hs, conclude_ok.2 ⟨rfl, .inr ⟨hc, ?_, hs⟩⟩⟩
      simp [hc]
    · have hall : ∀ e ∈ o.events, e.success = true := by
        intro e he
        by_contra hn
        exact hs ⟨e, he, by simpa using hn⟩
      refine .inr ⟨⟨hc, hall⟩, ?_⟩
      have hany : (p.reports o.stdout).any (!·.success) = false := by
        rw [List.any_eq_false]
        intro r hr
        obtain ⟨e, he, rfl⟩ := List.mem_map.1 hr
        simpa [report] using hall e he
      unfold conclude
      simp only [if_neg hc, hany]
      rfl

/-- If nothing is dropped, what a page comes to has all events, or there are none. -/
theorem conclude_of_not_drops (h : ¬ o.Drops) :
    p.conclude o = .ok ⟨decide (o.code = 0), o.events.map p.report⟩ ∨
    o.code ≠ 0 ∧ o.events = [] ∧ p.conclude o = .error (.browserFailed o.wording) := by
  rcases p.conclude_eq o with ⟨-, he⟩ | ⟨⟨hc, hall⟩, he⟩
  · exact .inl he
  · have hnil : o.events = [] := by
      by_contra hn
      exact h ⟨hc, hn, hall⟩
    exact .inr ⟨hc, hnil, he⟩

theorem conclude_of_drops (h : o.Drops) :
    p.conclude o = .error (.browserFailed o.wording) := by
  rcases p.conclude_eq o with ⟨hc | ⟨e, he, hf⟩, -⟩ | ⟨-, he⟩
  · exact absurd hc h.code
  · rw [h.succeeded e he] at hf
    cases hf
  · exact he

/-- A page that starts comes to what the next outcome of the tool says. -/
theorem run_of_starts (h : p.Starts stage) : (p.run stage).1 = p.conclude stage.tools.next := by
  obtain ⟨files, hf, hr⟩ := h
  unfold run
  simp only [hf, hr]

end Page

/-! ## The reports of a scenario -/

namespace Scenario

variable {sc : Scenario} {setup : Setup} {settings : BrowserSettings} {stage after : Stage}
  {r : ScenarioReport}

/-- The report of a scenario whose page is run: what the outcome of the tool says about the page is
put behind the reports of the session. -/
theorem perform_page (h : sc.perform setup settings stage = some (r, after))
    (hf : (sc.sessionOutcome setup stage).failure = none) {plan : Plan} {words : Words}
    (hp : sc.planned setup settings stage = some (.ok plan, words)) (hne : plan.page.steps ≠ [])
    (hs : plan.page.Starts stage) :
    r = sc.concludePage (sc.sessionOutcome setup stage).steps (plan.courses.map Course.key)
      (plan.page.conclude stage.tools.next) := by
  cases perform_cases h with
  | session hf' =>
    rw [hf] at hf'
    cases hf'
  | unplanned _ hp' =>
    rw [hp] at hp'
    cases hp'
  | idle _ hp' he =>
    rw [hp] at hp'
    cases hp'
    exact absurd he hne
  | browser _ hp' _ hr =>
    rw [hp] at hp'
    cases hp'
    -- The session and the plan leave the files and the tools as they were.
    have hrun : (plan.page.run { stage with
        network := (sc.sessionOutcome setup stage).session.network, words := words }).1 =
      plan.page.conclude stage.tools.next := Page.run_of_starts hs
    rw [hr] at hrun
    rw [← hrun]

end Scenario

/-- **Which reports are kept.** Take any page that can be started. The events that the browser tool
tells are lost in exactly one case: the tool fails and tells of steps that all succeeded. In all
others, if there are events, the page comes to a report with all of them in order, and the run
fails only if the tool fails and tells of no step at all. If they are lost, what the tool wrote is
in the failure. The same goes for every scenario whose page it is: its report has the events behind
those of the session, unless they are lost. -/
theorem Page.reports_kept {p : Page} {stage : Stage} (h : p.Starts stage) :
    ((stage.tools.next.events ≠ [] →
        ∃ r, (p.run stage).1 = .ok r ∧ r.steps = stage.tools.next.events.map p.report) ∧
      (∀ f, (p.run stage).1 = .error f →
        stage.tools.next.code ≠ 0 ∧ stage.tools.next.events = []) ↔ ¬ stage.tools.next.Drops) ∧
    (stage.tools.next.Drops →
      (p.run stage).1 = .error (.browserFailed stage.tools.next.wording)) ∧
    ∀ (sc : Scenario) (setup : Setup) (settings : BrowserSettings) (r : ScenarioReport)
      (after : Stage) (courses : List Course) (words : Words),
      sc.perform setup settings stage = some (r, after) →
      (sc.sessionOutcome setup stage).failure = none →
      sc.planned setup settings stage = some (.ok ⟨p, courses⟩, words) → p.steps ≠ [] →
      (r.steps = (sc.sessionOutcome setup stage).steps ++
          stage.tools.next.events.map p.report ↔ ¬ stage.tools.next.Drops) ∧
      (stage.tools.next.Drops → r.steps = (sc.sessionOutcome setup stage).steps ∧
        r.error = some (Failure.browserFailed stage.tools.next.wording).message) := by
  have hrun := run_of_starts h
  refine ⟨⟨?_, fun hn => ?_⟩, fun hd => ?_,
    fun sc setup settings r after courses words hp hf hpl hne => ?_⟩
  · rintro ⟨hkept, -⟩ hd
    obtain ⟨r, hr, -⟩ := hkept hd.told
    rw [hrun, conclude_of_drops hd] at hr
    cases hr
  · rw [hrun]
    rcases conclude_of_not_drops (p := p) hn with he | ⟨hc, hnil, he⟩
    · rw [he]
      refine ⟨fun _ => ⟨_, rfl, rfl⟩, fun f hf => ?_⟩
      cases hf
    · rw [he]
      exact ⟨fun ht => absurd hnil ht, fun f _ => ⟨hc, hnil⟩⟩
  · rw [hrun, conclude_of_drops hd]
  · have hr := Scenario.perform_page hp hf hpl hne h
    constructor
    · constructor
      · intro hsteps hd
        rw [hr, conclude_of_drops hd] at hsteps
        have hnil : stage.tools.next.events.map p.report = [] :=
          List.self_eq_append_right.1 hsteps
        exact hd.told (List.map_eq_nil_iff.1 hnil)
      · intro hn
        rcases conclude_of_not_drops (p := p) hn with he | ⟨-, hnil, he⟩
        · rw [hr, he]
          rfl
        · rw [hr, he, hnil]
          exact (List.append_nil _).symm
    · intro hd
      rw [hr, conclude_of_drops hd]
      exact ⟨rfl, rfl⟩

/-- A stage on which the browser tool tells that a step succeeded, and then ends with a code. -/
def Stage.halting (code : Nat) (success : Bool) : Stage where
  files := ⟨.folder [("work", .folder [])], ["work"]⟩
  network := .down
  tools := { outcomes := [⟨Text.utf8 ("__E2E__\x7b\"index\":0,\"name\":\"sleep:1ms\"," ++
    "\"success\":" ++ (if success then "true" else "false") ++ ",\"duration_ms\":1\x7d").toList,
    [], code⟩] }
  words := List.replicate 20 5
  now := ⟨0, 0⟩
  year := 2026

namespace Page

/-- A page that waits twice. -/
def waiting : Page := ⟨{}, [], [.sleep 1, .sleep 2]⟩

theorem starts_waiting (code : Nat) (success : Bool) :
    waiting.Starts (.halting code success) := by
  have hd : (waiting.readyFiles (Stage.halting 0 true).files).toOption.any
      (fun files => ((Stage.halting 0 true).tools.refusal? files "." "node").isNone) = true := by
    decide +kernel
  rcases hf : waiting.readyFiles (Stage.halting 0 true).files with f | files <;> rw [hf] at hd
  · cases hd
  · have hr := Option.isNone_iff_eq_none.1 hd
    refine ⟨files, hf, ?_⟩
    unfold Toolbox.refusal? at hr ⊢
    exact hr

theorem reports_kept_waiting : waiting.Starts (.halting 1 false) ∧
    ∃ r, (waiting.run (.halting 1 false)).1 = .ok r ∧
      r.steps = [⟨false, "sleep:1ms", 1, none, none⟩] := by
  have he : (Stage.halting 1 false).tools.next.events = [⟨0, "sleep:1ms", false, 1, none⟩] := by
    decide +kernel
  have hs := starts_waiting 1 false
  obtain ⟨⟨-, hkept⟩, -⟩ := reports_kept hs
  have hn : ¬ (Stage.halting 1 false).tools.next.Drops := fun hd => by
    have := hd.succeeded _ (by rw [he]; exact List.mem_singleton_self _)
    cases this
  obtain ⟨r, hr, hsteps⟩ := (hkept hn).1 (by rw [he]; exact List.cons_ne_nil _ _)
  refine ⟨hs, r, hr, ?_⟩
  rw [hsteps, he]
  rfl

/-- A step that succeeded before the browser tool broke down is lost, on a page by itself and in a
scenario. -/
theorem events_dropped :
    (Stage.halting 1 true).tools.next.events = [⟨0, "sleep:1ms", true, 1, none⟩] ∧
    (waiting.run (.halting 1 true)).1 =
      .error (.browserFailed (Stage.halting 1 true).tools.next.wording) ∧
    (Scenario.pause.perform Planner.loopback.setup {} (.halting 1 true)).map (·.1.steps) =
      some [] := by
  have he : (Stage.halting 1 true).tools.next.events = [⟨0, "sleep:1ms", true, 1, none⟩] := by
    decide +kernel
  refine ⟨he, ?_, by decide +kernel⟩
  rw [run_of_starts (starts_waiting 1 true)]
  refine conclude_of_drops ⟨Nat.one_ne_zero, ?_, ?_⟩
  · rw [he]
    exact List.cons_ne_nil _ _
  · simp [he]

end Page
end Rehearsal
