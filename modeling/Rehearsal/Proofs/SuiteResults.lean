import Rehearsal.Proofs.Gating

/-!
# Suites account for what was selected

A suite that is reported has one result for each selected scenario, in the order in which the
scenarios of the folder were loaded, which is that of their names (`Runner.accounts`). What comes of
a scenario does not matter for that: by `performAll_reports` each report is that of one scenario,
whichever way it ended. A run that fails has failed before its first scenario: either no scenario
has the name that was asked for, or a probe failed, and no probe fails with the former cause
(`ensure_fault`).
-/

namespace Rehearsal

/-! ## Selections -/

theorem Scenario.byName_trans (a b c : Scenario) (hab : decide (a.name ≤ b.name) = true)
    (hbc : decide (b.name ≤ c.name) = true) : decide (a.name ≤ c.name) = true := by
  rw [decide_eq_true_eq] at hab hbc ⊢
  exact String.le_trans hab hbc

theorem Scenario.byName_total (a b : Scenario) :
    (decide (a.name ≤ b.name) || decide (b.name ≤ a.name)) = true := by
  rw [Bool.or_eq_true, decide_eq_true_eq, decide_eq_true_eq]
  exact String.le_total _ _

theorem Scenario.load_sorted {files : FileTree} {dir : Path} {specs : List Scenario}
    (h : load files dir = .ok specs) : specs.Pairwise fun a b => a.name ≤ b.name := by
  obtain ⟨scenarios, -, h⟩ := bind_ok.1 h
  cases h
  exact (List.pairwise_mergeSort byName_trans byName_total scenarios).imp of_decide_eq_true

theorem Scenario.load_of_sorted {files : FileTree} {dir : Path} {scenarios : List Scenario}
    (h : (((files.walk dir).map (·.path)).filter isScenarioPath).mapM (ofFile files) = .ok scenarios)
    (hs : scenarios.Pairwise fun a b => a.name ≤ b.name) : load files dir = .ok scenarios := by
  have hsorted : scenarios.mergeSort (fun a b => decide (a.name ≤ b.name)) = scenarios :=
    List.mergeSort_of_pairwise (hs.imp decide_eq_true)
  exact bind_ok.2 ⟨scenarios, h, congrArg Except.ok hsorted⟩

namespace Selection

/-- What a selection takes of some scenarios: all of them, those with a tag, those whose names match,
or the first one of a name. -/
inductive Takes (specs : List Scenario) : Selection → List Scenario → Prop
  | all : Takes specs .all specs
  | tagged (tag : String) : Takes specs (.tagged tag) (specs.filter fun s => tag ∈ s.tags)
  | matching (p : Pattern) :
    Takes specs (.matching p) (specs.filter fun s => p.occursIn s.name.toList)
  | named {before after : List Scenario} {s : Scenario} : specs = before ++ s :: after →
    (∀ b ∈ before, b.name ≠ s.name) → Takes specs (.named s.name) [s]

variable {specs chosen : List Scenario} {selection : Selection}

theorem Takes.sublist (h : selection.Takes specs chosen) : chosen.Sublist specs := by
  cases h with
  | all => exact .refl specs
  | tagged | matching => exact List.filter_sublist
  | named he _ =>
    rw [he]
    exact List.singleton_sublist.2 (by simp)

theorem choose_cases (specs : List Scenario) (selection : Selection) :
    (∃ chosen, choose specs selection = .ok chosen ∧ selection.Takes specs chosen) ∨
    ∃ n, selection = .named n ∧ (∀ s ∈ specs, s.name ≠ n) ∧
      choose specs selection = .error (.scenarioNotFound n) := by
  cases selection with
  | all => exact .inl ⟨specs, rfl, .all⟩
  | tagged tag =>
    refine .inl ⟨_, rfl, ?_⟩
    have hfilter : Scenario.withTag specs tag = specs.filter fun s => tag ∈ s.tags := by
      simp [Scenario.withTag]
    rw [hfilter]
    exact .tagged tag
  | matching p => exact .inl ⟨_, rfl, .matching p⟩
  | named n =>
    rcases hf : specs.find? (·.name = n) with _ | s
    · refine .inr ⟨n, rfl, by simpa using List.find?_eq_none.1 hf, ?_⟩
      simp only [choose, hf]
    · obtain ⟨hn, before, after, he, hbefore⟩ := List.find?_eq_some_iff_append.1 hf
      obtain rfl : s.name = n := of_decide_eq_true hn
      refine .inl ⟨[s], ?_, .named he (by simpa using hbefore)⟩
      simp only [choose, hf]

end Selection

/-! ## Probes -/

theorem Readiness.poll_fault {url : String} {timeout made : Nat} {readings : List Nat}
    {c : Http.Client} {f : Failure} (h : (poll url timeout made readings c).1 = .error f) :
    ∃ attempts, f = .targetNotReady attempts := by
  rcases poll_cases url timeout made readings c with ⟨k, -, -, -, he⟩ | ⟨-, he⟩ <;> rw [he] at h
  · cases h
  · cases h
    exact ⟨_, rfl⟩

theorem Toolbox.check_fault {t tools : Toolbox} {files : FileTree} {dir : Path} {f : Failure}
    (h : t.check files dir = (.error f, tools)) : f = .browserToolMissing := by
  unfold check at h
  split at h
  · split at h
    · cases h
    · cases h
      rfl
  · cases h
    rfl

theorem Scenario.name_of_perform {sc : Scenario} {setup : Setup} {settings : BrowserSettings}
    {stage after : Stage} {report : ScenarioReport}
    (h : sc.perform setup settings stage = some (report, after)) : report.name = sc.name := by
  cases perform_cases h with
  | session | unplanned | idle => rfl
  | @browser plan words r _ _ _ _ _ =>
    rcases r with f | r
    · rfl
    · rfl

namespace Runner

variable {r s : Runner} {stage ready after : Stage} {scenarios specs : List Scenario}
  {result : Except Failure Unit} {f : Failure}

theorem ensureReady_fault (h : r.ensureReady stage = (.error f, s, ready)) :
    ∃ attempts, f = .targetNotReady attempts := by
  unfold ensureReady at h
  split at h
  · cases h
  · split at h
    · cases h
    · simp only at h
      split at h
      · cases h
      · rename_i ha
        cases h
        exact Readiness.poll_fault (congrArg Prod.fst ha)

theorem ensureTool_fault (h : r.ensureTool stage = (.error f, s, ready)) :
    f = .browserToolMissing := by
  rcases r.ensureTool_cases stage with
    ⟨-, -, he⟩ | ⟨-, tools, -, -, he⟩ | ⟨-, tools, g, -, hc, he⟩ <;> rw [h] at he <;> cases he
  exact Toolbox.check_fault hc

theorem ensure_fault (h : r.ensure scenarios stage = (.error f, s, ready)) :
    (∃ attempts, f = .targetNotReady attempts) ∨ f = .browserToolMissing := by
  rcases r.ensure_cases scenarios stage with
    ⟨g, t, mid, hr, he, -⟩ | ⟨t, mid, -, ⟨-, he, -⟩ | ⟨-, he, -⟩⟩ <;> rw [h] at he
  · cases he
    exact .inl (ensureReady_fault hr)
  · cases he
  · exact .inr (ensureTool_fault he.symm)

/-- Probes leave the settings as they are. -/
theorem ensure_settings (h : r.ensure scenarios stage = (result, s, ready)) :
    s.settings = r.settings := by
  have hready {t : Runner} {mid : Stage} {result : Except Failure Unit}
      (h : r.ensureReady stage = (result, t, mid)) : t.settings = r.settings := by
    rcases r.ensureReady_cases stage with
      ⟨-, -, he⟩ | ⟨network, trace, -, -, -, ⟨-, he⟩ | ⟨f, -, he⟩⟩ <;> rw [h] at he <;>
      cases he <;> rfl
  rcases r.ensure_cases scenarios stage with
    ⟨f, t, mid, hr, he, -⟩ | ⟨t, mid, hr, ⟨-, he, -⟩ | ⟨-, he, -⟩⟩ <;> rw [h] at he
  · cases he
    exact hready hr
  · cases he
    exact hready hr
  · rw [← hready hr]
    rcases t.ensureTool_cases mid with
      ⟨-, -, ht⟩ | ⟨-, tools, -, -, ht⟩ | ⟨-, tools, g, -, -, ht⟩ <;> rw [ht] at he <;>
      cases he <;> rfl

/-! ## Results -/

theorem run_eq (hload : Scenario.load stage.files r.settings.scenariosDir = .ok specs)
    (selection : Selection) : r.run selection stage =
      match selection.choose specs with
      | .error f => some (.error f, r, stage)
      | .ok chosen => r.runScenarios chosen stage := by
  unfold run
  rw [hload]
  rfl

/-- What a suite reports of scenarios. -/
structure Reports (settings : RunnerSettings) (scenarios : List Scenario) (suite : SuiteReport) :
    Prop where
  results : List.Forall₂ (fun sc report => report.name = sc.name ∧ ∃ before later,
    sc.perform settings.setup settings.browser before = some (report, later)) scenarios suite.results
  total : suite.total = scenarios.length
  passed : suite.passed = suite.results.countP fun report => report.success
  failed : suite.failed = suite.results.countP fun report => !report.success
  sum : suite.total = suite.passed + suite.failed
  skipped : suite.skipped = 0

theorem Reports.names {settings : RunnerSettings} {suite : SuiteReport}
    (h : Reports settings scenarios suite) :
    suite.results.map (·.name) = scenarios.map (·.name) := by
  rw [← List.forall₂_eq_eq_eq, List.forall₂_map_left_iff, List.forall₂_map_right_iff]
  exact h.results.flip.imp fun report sc hp => hp.1

theorem runScenarios_reports {suite : SuiteReport}
    (h : r.runScenarios scenarios stage = some (.ok suite, s, after)) :
    Reports r.settings scenarios suite := by
  obtain ⟨ready, reports, he, hr, rfl⟩ := runScenarios_ok h
  have hall := performAll_reports hr
  rw [ensure_settings he] at hall
  have hsum : reports.length =
      reports.countP (·.success) + reports.countP fun report => !report.success := by
    simpa using reports.length_eq_countP_add_countP fun report => report.success
  exact
    { results := hall.imp fun sc report ⟨before, later, hp⟩ =>
        ⟨Scenario.name_of_perform hp, before, later, hp⟩
      total := hall.length_eq.symm
      passed := rfl
      failed := by
        show reports.length - reports.countP (·.success) =
          reports.countP fun report => !report.success
        omega
      sum := by
        show reports.length =
          reports.countP (·.success) + (reports.length - reports.countP (·.success))
        omega
      skipped := rfl }

theorem runScenarios_error (h : r.runScenarios scenarios stage = some (.error f, s, after)) :
    r.ensure scenarios stage = (.error f, s, after) := by
  unfold runScenarios at h
  split at h
  · rename_i he
    cases h
    exact he
  · obtain ⟨⟨reports, last⟩, -, h⟩ := Option.bind_eq_some_iff.1 h
    cases h

theorem performAll_none {settings : RunnerSettings}
    (h : performAll settings scenarios stage = none) :
    ∃ sc ∈ scenarios, ∃ before, sc.perform settings.setup settings.browser before = none := by
  induction scenarios generalizing stage with
  | nil => cases h
  | cons sc rest ih =>
    rcases hp : sc.perform settings.setup settings.browser stage with _ | ⟨report, mid⟩
    · exact ⟨sc, List.mem_cons_self, stage, hp⟩
    · rcases hr : performAll settings rest mid with _ | ⟨reports, last⟩
      · obtain ⟨sc', hm, before, hnone⟩ := ih hr
        exact ⟨sc', List.mem_cons_of_mem _ hm, before, hnone⟩
      · simp [performAll, hp, hr, bind] at h

theorem runScenarios_none (h : r.runScenarios scenarios stage = none) :
    ∃ sc ∈ scenarios, ∃ before, sc.perform r.settings.setup r.settings.browser before = none := by
  unfold runScenarios at h
  split at h
  · cases h
  · rename_i t mid he
    rw [← ensure_settings he]
    rcases hr : performAll t.settings scenarios mid with _ | ⟨reports, last⟩
    · exact performAll_none hr
    · rw [hr] at h
      cases h

/-- **Suites account for what was selected.** Let the folder of a runner be loaded, which gives its
scenarios sorted by name. A suite that is reported for a selection has one result for each scenario
that the selection takes, in that order: all, those with the tag, those whose names match, or the
first one of the name. Each result has the name of its scenario and is what came of performing it,
whatever that is; as many have passed as there are successful results, as many have failed as there
are others, and both together are all. It is reported that there is no such scenario exactly if
one was asked for by a name that none of them has; any other failure is that of a probe that was
made for the scenarios taken, before the first of them. So nothing that comes of a scenario keeps the
suite from being reported, unless the random words run out in it. -/
theorem accounts (r : Runner) (stage : Stage) (specs : List Scenario)
    (hload : Scenario.load stage.files r.settings.scenariosDir = .ok specs)
    (selection : Selection) :
    specs.Pairwise (fun a b => a.name ≤ b.name) ∧
    (∀ suite s after, r.run selection stage = some (.ok suite, s, after) →
      ∃ chosen, selection.Takes specs chosen ∧ chosen.Sublist specs ∧
        suite.results.map (·.name) = chosen.map (·.name) ∧
        Reports r.settings chosen suite) ∧
    (∀ n, (∃ s after, r.run selection stage = some (.error (.scenarioNotFound n), s, after)) ↔
      selection = .named n ∧ ∀ sc ∈ specs, sc.name ≠ n) ∧
    (∀ f s after, r.run selection stage = some (.error f, s, after) →
      (∃ n, f = .scenarioNotFound n) ∨
      ∃ chosen, selection.Takes specs chosen ∧ r.ensure chosen stage = (.error f, s, after)) ∧
    (r.run selection stage = none →
      ∃ sc ∈ specs, ∃ before, sc.perform r.settings.setup r.settings.browser before = none) := by
  refine ⟨Scenario.load_sorted hload, ?_⟩
  rw [run_eq hload]
  rcases selection.choose_cases specs with ⟨chosen, hc, ht⟩ | ⟨n, rfl, hnone, hc⟩ <;> rw [hc]
  · refine ⟨fun suite s after h => ?_, fun n => ?_, fun f s after h => ?_, fun h => ?_⟩
    · have hreports := runScenarios_reports h
      exact ⟨chosen, ht, ht.sublist, hreports.names, hreports⟩
    · constructor
      · rintro ⟨s, after, h⟩
        rcases ensure_fault (runScenarios_error h) with ⟨attempts, he⟩ | he <;> cases he
      · rintro ⟨rfl, hnone⟩
        cases ht with
        | @named before more sc he _ =>
          exact absurd rfl (hnone sc (by rw [he]; simp))
    · exact .inr ⟨chosen, ht, runScenarios_error h⟩
    · obtain ⟨sc, hm, hp⟩ := runScenarios_none h
      exact ⟨sc, ht.sublist.subset hm, hp⟩
  · refine ⟨fun suite s after h => ?_, fun m => ?_, fun f s after h => ?_, fun h => ?_⟩
    · cases h
    · constructor
      · rintro ⟨s, after, h⟩
        cases h
        exact ⟨rfl, hnone⟩
      · rintro ⟨h, -⟩
        cases h
        exact ⟨r, stage, rfl⟩
    · cases h
      exact .inl ⟨n, rfl⟩
    · cases h

end Runner

/-- A scenario that logs out. -/
def Scenario.leave : Scenario where
  name := "leave"
  description := ""
  tags := ["smoke"]
  viewport := ⟨1280, 720⟩
  steps := [.command .logout]

/-- A stage without an application and with the files of two scenarios, one in a folder of its
own. -/
def Stage.mixed : Stage :=
  { Stage.lenient with
    files :=
      ⟨.folder [("work", .folder [("scenarios", .folder [
        ("leave.yaml", .file (Text.utf8
          "name: leave\ntags: [smoke]\nsteps:\n  - action: logout".toList)),
        ("more", .folder [("pause.yml", .file (Text.utf8
          "name: pause\nsteps:\n  - action: sleep\n    ms: 1\n  - action: sleep\n    ms: 2".toList))]),
        ("notes.txt", .file [])])])], ["work"]⟩ }

theorem Scenario.load_mixed :
    load Stage.mixed.files Runner.prompt.settings.scenariosDir = .ok [.leave, .pause] := by
  refine load_of_sorted (ok_of_toOption ?_) (by decide)
  decide +kernel

/-- The first scenario fails and the second one passes; there is none of another name. -/
theorem Runner.accounts_mixed :
    (∃ suite s after, prompt.run .all .mixed = some (.ok suite, s, after) ∧
      suite.results.map (·.success) = [false, true] ∧
      ∃ chosen, Selection.all.Takes [.leave, .pause] chosen ∧
        Reports prompt.settings chosen suite) ∧
    ∃ s after, prompt.run (.named "enter") .mixed =
      some (.error (.scenarioNotFound "enter"), s, after) := by
  constructor
  · have hd : (prompt.runScenarios [.leave, .pause] .mixed).any
        (fun x => x.1.toOption.any (·.results.map (·.success) = [false, true])) = true := by
      decide +kernel
    rcases hr : prompt.runScenarios [.leave, .pause] .mixed with
      _ | ⟨f | suite, s, after⟩ <;> rw [hr] at hd
    · cases hd
    · cases hd
    · have hrun : prompt.run .all .mixed = some (.ok suite, s, after) := by
        rw [run_eq Scenario.load_mixed, Selection.choose]
        exact hr
      obtain ⟨-, hok, -⟩ := accounts prompt .mixed _ Scenario.load_mixed .all
      obtain ⟨chosen, ht, -, -, hreports⟩ := hok _ _ _ hrun
      exact ⟨suite, s, after, hrun, of_decide_eq_true hd, chosen, ht, hreports⟩
  · obtain ⟨-, -, hnone, -⟩ := accounts prompt .mixed _ Scenario.load_mixed (.named "enter")
    exact (hnone "enter").2 ⟨rfl, by decide⟩

end Rehearsal
