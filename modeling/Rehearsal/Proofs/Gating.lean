import Rehearsal.Proofs.ReadinessPolls
import Rehearsal.Proofs.SessionIsolation

/-!
# Nothing is run before its probes

A runner keeps two flags: whether the application answered, and whether the browser tool was found.
What a call of a runner does is a list of deeds (`Runner.deeds`): it waits for the application, it
looks for the browser tool, and its scenarios send requests and start the tool. The deeds account
for every request and every start on the stage (`Runner.call_accounts`). A deed is `Due` after
others if the probes that it needs have succeeded, and it is not itself a probe that has; each part
of a call does only what is due, as long as the flags say what the deeds so far say, and then they
say so after it too (`ensure_moves`, `performDeeds_moves`). `Runner.gating` says so for all
histories of a runner, whatever stages its calls meet, and what comes of a probe that fails.
-/

namespace Rehearsal

open Http

/-! ## Waiting -/

namespace Readiness

theorem fetched_advances (url : String) (c : Client) (n : Nat) :
    ∃ trace, c.Advances trace (c.fetched url n) := by
  induction n generalizing c with
  | zero => exact ⟨[], .refl c⟩
  | succ n ih =>
    obtain ⟨first, hfirst⟩ := c.get_advances url
    obtain ⟨rest, hrest⟩ := ih (c.get url).2
    exact ⟨first ++ rest, hfirst.trans hrest⟩

/-- A poll sends requests and nothing else. -/
theorem poll_advances (url : String) (timeout made : Nat) (readings : List Nat) (c : Client) :
    ∃ trace, c.Advances trace (poll url timeout made readings c).2 := by
  rcases poll_cases url timeout made readings c with ⟨k, -, -, -, he⟩ | ⟨-, he⟩ <;> rw [he]
  · exact fetched_advances url c (k + 1)
  · exact fetched_advances url c (allowed timeout readings)

theorem await_history {url : String} {timeout : Nat} {readings : List Nat} {network after : Network}
    {now : Instant} {result : Except Failure Unit}
    (h : await url timeout readings network now = (result, after)) :
    ∃ trace, after.history = network.history ++ trace := by
  obtain ⟨trace, ht⟩ := poll_advances url timeout 0 readings ⟨none, network, now⟩
  obtain rfl : _ = after := congrArg Prod.snd h
  exact ⟨trace, ht.history⟩

end Readiness

/-! ## Deeds -/

/-- What a runner does. -/
inductive Deed where
  /-- It waits for the application with these requests; the flag says whether an answer came. -/
  | awaited (trace : Trace) (ok : Bool)
  /-- It looks for the browser tool; the flag says whether it is there. -/
  | checked (ok : Bool)
  /-- A scenario sends a request, and this comes of it. -/
  | sent (e : Request × Reply)
  /-- The browser tool is started for a scenario. -/
  | started
  deriving DecidableEq

namespace Deed

/-- The requests of a deed. -/
def trace : Deed → Trace
  | .awaited trace _ => trace
  | .checked _ => []
  | .sent e => [e]
  | .started => []

/-- Whether a deed is a look for the browser tool. -/
def isCheck : Deed → Bool
  | .checked _ => true
  | _ => false

/-- Whether a deed is one of a scenario. -/
def ofScenario : Deed → Bool
  | .sent _ => true
  | .started => true
  | _ => false

end Deed

/-- The application answered in one of some deeds. -/
def Answered (deeds : List Deed) : Prop := ∃ trace, Deed.awaited trace true ∈ deeds

/-- What a deed needs to have been done before it: a probe must not have succeeded, the deeds of a
scenario need an answer of the application, if one is waited for, and a start needs the browser
tool. -/
def Deed.Due (s : RunnerSettings) (before : List Deed) : Deed → Prop
  | .awaited _ _ => ¬ Answered before
  | .checked _ => .checked true ∉ before
  | .sent _ => s.readinessPath ≠ none → Answered before
  | .started => (s.readinessPath ≠ none → Answered before) ∧ .checked true ∈ before

/-! ## What a call does -/

/-- The exchanges by which a network grew. -/
def Http.Network.since (old new : Network) : Trace := new.history.drop old.history.length

theorem Http.Network.since_eq {old new : Network} {trace : Trace}
    (h : new.history = old.history ++ trace) : old.since new = trace := by
  rw [since, h, List.drop_left]

/-- What a scenario does: its session sends requests, and its page may start the browser tool. -/
def Scenario.deeds (sc : Scenario) (setup : Setup) (settings : BrowserSettings) (stage : Stage) :
    List Deed :=
  (stage.network.since (sc.sessionOutcome setup stage).session.network).map .sent ++
    match sc.perform setup settings stage with
    | some (_, after) => List.replicate (after.tools.starts - stage.tools.starts) .started
    | none => []

namespace Runner

/-- What is done to make sure that the application answers. -/
def readyDeeds (r : Runner) (stage : Stage) : List Deed :=
  if r.targetReady ∨ r.settings.readinessPath = none then []
  else [.awaited (stage.network.since (r.ensureReady stage).2.2.network)
    (r.ensureReady stage).1.isOk]

/-- What is done to make sure that the browser tool is there. -/
def toolDeeds (r : Runner) (stage : Stage) : List Deed :=
  if r.toolChecked then [] else [.checked (r.ensureTool stage).1.isOk]

/-- What is done to make sure of all that some scenarios need. -/
def ensureDeeds (r : Runner) (scenarios : List Scenario) (stage : Stage) : List Deed :=
  r.readyDeeds stage ++
    match r.ensureReady stage with
    | (.ok (), r, stage) => if scenarios.any (·.needsBrowser) then r.toolDeeds stage else []
    | (.error _, _, _) => []

/-- What scenarios do one after the other. -/
def performDeeds (s : RunnerSettings) : List Scenario → Stage → List Deed
  | [], _ => []
  | sc :: r, stage =>
    sc.deeds s.setup s.browser stage ++
      match sc.perform s.setup s.browser stage with
      | some (_, stage) => performDeeds s r stage
      | none => []

/-- What is done to run some scenarios. -/
def runDeeds (r : Runner) (scenarios : List Scenario) (stage : Stage) : List Deed :=
  r.ensureDeeds scenarios stage ++
    match r.ensure scenarios stage with
    | (.ok (), r, stage) => performDeeds r.settings scenarios stage
    | (.error _, _, _) => []

/-- A call of a runner: it is given a selection of the scenarios in its folder, or scenarios. -/
inductive Call where
  | select (selection : Selection)
  | these (scenarios : List Scenario)

/-- The scenarios of a call. -/
def Call.scenarios (r : Runner) (stage : Stage) : Call → Except Failure (List Scenario)
  | .select selection =>
    Scenario.load stage.files r.settings.scenariosDir >>= (Selection.choose · selection)
  | .these scenarios => .ok scenarios

/-- What comes of a call. -/
def call (r : Runner) (stage : Stage) :
    Call → Option (Except Failure SuiteReport × Runner × Stage)
  | .select selection => r.run selection stage
  | .these scenarios => r.runScenarios scenarios stage

/-- What is done in a call. -/
def deeds (r : Runner) (stage : Stage) (c : Call) : List Deed :=
  match c.scenarios r stage with
  | .ok scenarios => r.runDeeds scenarios stage
  | .error _ => []

/-- The histories of a runner, with all that was done: it knows of nothing at first, and each call
is made on some stage. -/
inductive Reach : Runner → List Deed → Prop
  | start (settings : RunnerSettings) : Reach { settings := settings } []
  | call {r s : Runner} {log : List Deed} {stage after : Stage} {c : Call}
    {result : Except Failure SuiteReport} : Reach r log →
    r.call stage c = some (result, s, after) → Reach s (log ++ r.deeds stage c)

theorem call_eq (r : Runner) (stage : Stage) (c : Call) : r.call stage c =
    match c.scenarios r stage with
    | .ok scenarios => r.runScenarios scenarios stage
    | .error f => some (.error f, r, stage) := by
  cases c with
  | these scenarios => rfl
  | select selection =>
    simp only [call, run, Call.scenarios]
    rcases Scenario.load stage.files r.settings.scenariosDir >>= (Selection.choose · selection)
      with f | scenarios
    · rfl
    · rfl

/-! ## Probes -/

variable {r s : Runner} {stage after : Stage} {scenarios : List Scenario}

/-- What waiting for the application can come to: an answer comes or none does. -/
theorem ensureReady_waits (hready : r.targetReady = false) {path : String}
    (hpath : r.settings.readinessPath = some path) (stage : Stage) :
    ∃ network trace, network.history = stage.network.history ++ trace ∧
      (r.readyDeeds stage = [.awaited trace true] ∧ r.ensureReady stage =
          (.ok (), { r with targetReady := true }, stage.waited network) ∨
        ∃ f, r.readyDeeds stage = [.awaited trace false] ∧
          r.ensureReady stage = (.error f, r, stage.waited network)) := by
  have hdeeds : r.readyDeeds stage = [.awaited (stage.network.since
      (r.ensureReady stage).2.2.network) (r.ensureReady stage).1.isOk] := by
    simp [readyDeeds, hready, hpath]
  rcases ha : Readiness.await (r.settings.setup.lmsAddress path) r.settings.readinessTimeout
    (stage.readings r.settings.readinessTimeout) stage.network stage.now with ⟨result, network⟩
  obtain ⟨trace, ht⟩ := Readiness.await_history ha
  refine ⟨network, trace, ht, ?_⟩
  rcases result with f | ⟨⟩
  · have he : r.ensureReady stage = (.error f, r, stage.waited network) := by
      simp [ensureReady, hready, hpath, ha]
    refine .inr ⟨f, ?_, he⟩
    simp only [hdeeds, he, Stage.waited_network, Network.since_eq ht]
    rfl
  · have he : r.ensureReady stage =
        (.ok (), { r with targetReady := true }, stage.waited network) := by
      simp [ensureReady, hready, hpath, ha]
    refine .inl ⟨?_, he⟩
    simp only [hdeeds, he, Stage.waited_network, Network.since_eq ht]
    rfl

/-- What making sure of the application can come to: it is not waited for, or it is, and then an
answer comes or none does. -/
theorem ensureReady_cases (r : Runner) (stage : Stage) :
    ((r.targetReady = true ∨ r.settings.readinessPath = none) ∧ r.readyDeeds stage = [] ∧
      r.ensureReady stage = (.ok (), { r with targetReady := true }, stage)) ∨
    ∃ network trace, r.targetReady = false ∧ r.settings.readinessPath ≠ none ∧
      network.history = stage.network.history ++ trace ∧
      (r.readyDeeds stage = [.awaited trace true] ∧ r.ensureReady stage =
          (.ok (), { r with targetReady := true }, stage.waited network) ∨
        ∃ f, r.readyDeeds stage = [.awaited trace false] ∧
          r.ensureReady stage = (.error f, r, stage.waited network)) := by
  rcases hready : r.targetReady with _ | _
  · rcases hpath : r.settings.readinessPath with _ | path
    · refine .inl ⟨.inr rfl, ?_, ?_⟩
      · simp [readyDeeds, hpath]
      · simp [ensureReady, hready, hpath]
    · obtain ⟨network, trace, ht, hcases⟩ := ensureReady_waits hready hpath stage
      exact .inr ⟨network, trace, rfl, nofun, ht, hcases⟩
  · refine .inl ⟨.inl rfl, ?_, ?_⟩
    · simp [readyDeeds, hready]
    · have hr : { r with targetReady := true } = r := by rw [← hready]
      unfold ensureReady
      rw [if_pos hready, hr]

/-- What a look for the browser tool can come to: there is none, or there is one, and then it is
found or not. -/
theorem ensureTool_cases (r : Runner) (stage : Stage) :
    (r.toolChecked = true ∧ r.toolDeeds stage = [] ∧ r.ensureTool stage = (.ok (), r, stage)) ∨
    (r.toolChecked = false ∧ ∃ tools, r.toolDeeds stage = [.checked true] ∧
      stage.tools.check stage.files r.settings.browser.projectDir = (.ok (), tools) ∧
      r.ensureTool stage =
        (.ok (), { r with toolChecked := true }, { stage with tools := tools })) ∨
    (r.toolChecked = false ∧ ∃ tools f, r.toolDeeds stage = [.checked false] ∧
      stage.tools.check stage.files r.settings.browser.projectDir = (.error f, tools) ∧
      r.ensureTool stage = (.error f, r, { stage with tools := tools })) := by
  rcases hchecked : r.toolChecked with _ | _
  · right
    have hdeeds : r.toolDeeds stage = [.checked (r.ensureTool stage).1.isOk] := by
      simp [toolDeeds, hchecked]
    rcases hc : stage.tools.check stage.files r.settings.browser.projectDir with ⟨f | ⟨⟩, tools⟩
    · have he : r.ensureTool stage = (.error f, r, { stage with tools := tools }) := by
        simp [ensureTool, hchecked, hc]
      refine .inr ⟨rfl, tools, f, ?_, rfl, he⟩
      rw [hdeeds, he]
      rfl
    · have he : r.ensureTool stage =
          (.ok (), { r with toolChecked := true }, { stage with tools := tools }) := by
        simp [ensureTool, hchecked, hc]
      refine .inl ⟨rfl, tools, ?_, rfl, he⟩
      rw [hdeeds, he]
      rfl
  · refine .inl ⟨rfl, ?_, ?_⟩
    · simp [toolDeeds, hchecked]
    · simp [ensureTool, hchecked]

end Runner

/-! ## What is due -/

/-- Each of some deeds is due after those before it. -/
def Gated (s : RunnerSettings) : List Deed → List Deed → Prop
  | _, [] => True
  | before, d :: deeds => d.Due s before ∧ Gated s (before ++ [d]) deeds

section
variable {s : RunnerSettings} {before deeds more : List Deed}

theorem gated_append :
    Gated s before (deeds ++ more) ↔ Gated s before deeds ∧ Gated s (before ++ deeds) more := by
  induction deeds generalizing before with
  | nil => simp [Gated]
  | cons d deeds ih =>
    simp only [List.cons_append, Gated, ih, and_assoc, List.append_assoc, List.nil_append]

theorem Gated.due {d : Deed} (h : Gated s [] (before ++ d :: more)) : d.Due s before :=
  (gated_append.1 h).2.1

theorem answered_append : Answered (deeds ++ more) ↔ Answered deeds ∨ Answered more := by
  simp only [Answered, List.mem_append, exists_or]

theorem answered_of_scenario (h : ∀ d ∈ deeds, d.ofScenario = true) : ¬ Answered deeds := by
  rintro ⟨trace, hm⟩
  have := h _ hm
  cases this

theorem not_checked_of_scenario (h : ∀ d ∈ deeds, d.ofScenario = true) (ok : Bool) :
    .checked ok ∉ deeds := by
  intro hm
  have := h _ hm
  cases this

/-- Deeds of scenarios are due once the application answered, if it is waited for, and the browser
tool was found, if it is started. -/
theorem gated_of_scenario (hs : ∀ d ∈ deeds, d.ofScenario = true)
    (ha : s.readinessPath ≠ none → Answered before)
    (hc : .started ∈ deeds → .checked true ∈ before) : Gated s before deeds := by
  induction deeds generalizing before with
  | nil => trivial
  | cons d deeds ih =>
    obtain ⟨hd, hs⟩ := List.forall_mem_cons.1 hs
    have hlater : Gated s (before ++ [d]) deeds := by
      refine ih hs (fun hp => answered_append.2 (.inl (ha hp))) fun hm => ?_
      exact List.mem_append_left _ (hc (List.mem_cons_of_mem _ hm))
    refine ⟨?_, hlater⟩
    cases d with
    | sent e => exact ha
    | started => exact ⟨ha, hc List.mem_cons_self⟩
    | awaited trace ok => cases hd
    | checked ok => cases hd

end

namespace Runner

variable {r s t : Runner} {stage after : Stage} {scenarios : List Scenario}
  {log deeds more : List Deed}

/-- The flags of a runner say what some deeds say. -/
structure Knows (r : Runner) (log : List Deed) : Prop where
  ready : r.settings.readinessPath ≠ none → (r.targetReady = true ↔ Answered log)
  tool : r.toolChecked = true ↔ .checked true ∈ log

/-- Some deeds after others are due, and they make one runner another one that knows of them. -/
structure Moves (r : Runner) (log deeds : List Deed) (s : Runner) : Prop where
  settings : s.settings = r.settings
  gated : Gated r.settings log deeds
  knows : s.Knows (log ++ deeds)

theorem Moves.refl (h : r.Knows log) : r.Moves log [] r where
  settings := rfl
  gated := trivial
  knows := by rwa [List.append_nil]

theorem Moves.trans (h : r.Moves log deeds s) (hm : s.Moves (log ++ deeds) more t) :
    r.Moves log (deeds ++ more) t where
  settings := hm.settings.trans h.settings
  gated := gated_append.2 ⟨h.gated, h.settings ▸ hm.gated⟩
  knows := by
    rw [← List.append_assoc]
    exact hm.knows

theorem Knows.not_answered (h : r.Knows log) (hp : r.settings.readinessPath ≠ none)
    (hready : r.targetReady = false) : ¬ Answered log := by
  rw [← h.ready hp, hready]
  exact nofun

theorem Knows.not_checked (h : r.Knows log) (hc : r.toolChecked = false) :
    .checked true ∉ log := by
  rw [← h.tool, hc]
  exact nofun

theorem ensureReady_moves (h : r.Knows log) (stage : Stage) :
    r.Moves log (r.readyDeeds stage) (r.ensureReady stage).2.1 := by
  rcases r.ensureReady_cases stage with
    ⟨hready, hd, he⟩ | ⟨network, trace, hready, hp, -, ⟨hd, he⟩ | ⟨f, hd, he⟩⟩ <;> rw [hd, he]
  · refine ⟨rfl, trivial, fun hp => ?_, by simpa using h.tool⟩
    have ha := (h.ready hp).1 (hready.resolve_right hp)
    simpa using ha
  · refine ⟨rfl, ⟨h.not_answered hp hready, trivial⟩, fun _ => ?_, by simpa using h.tool⟩
    simp [Answered]
  · have hno := h.not_answered hp hready
    refine ⟨rfl, ⟨hno, trivial⟩, fun _ => ?_, by simpa using h.tool⟩
    simpa [hready, Answered] using hno

theorem ensureTool_moves (h : r.Knows log) (stage : Stage) :
    r.Moves log (r.toolDeeds stage) (r.ensureTool stage).2.1 := by
  rcases r.ensureTool_cases stage with
    ⟨hc, hd, he⟩ | ⟨hc, tools, hd, -, he⟩ | ⟨hc, tools, f, hd, -, he⟩ <;> rw [hd, he]
  · exact .refl h
  · refine ⟨rfl, ⟨h.not_checked hc, trivial⟩, fun hp => ?_, by simp⟩
    simpa [Answered] using h.ready hp
  · have hno := h.not_checked hc
    refine ⟨rfl, ⟨hno, trivial⟩, fun hp => ?_, by simpa [hc] using hno⟩
    simpa [Answered] using h.ready hp

/-- Making sure of what some scenarios need is making sure of the application and, if that succeeds
and one of them needs the browser, looking for the browser tool. -/
theorem ensure_cases (r : Runner) (scenarios : List Scenario) (stage : Stage) :
    (∃ f s ready, r.ensureReady stage = (.error f, s, ready) ∧
      r.ensure scenarios stage = (.error f, s, ready) ∧
      r.ensureDeeds scenarios stage = r.readyDeeds stage) ∨
    ∃ s ready, r.ensureReady stage = (.ok (), s, ready) ∧
      (scenarios.any (·.needsBrowser) = false ∧
          r.ensure scenarios stage = (.ok (), s, ready) ∧
          r.ensureDeeds scenarios stage = r.readyDeeds stage ∨
        scenarios.any (·.needsBrowser) = true ∧
          r.ensure scenarios stage = s.ensureTool ready ∧
          r.ensureDeeds scenarios stage = r.readyDeeds stage ++ s.toolDeeds ready) := by
  unfold ensure ensureDeeds
  rcases he : r.ensureReady stage with ⟨f | ⟨⟩, s, ready⟩
  · exact .inl ⟨f, s, ready, rfl, rfl, List.append_nil _⟩
  · refine .inr ⟨s, ready, rfl, ?_⟩
    rcases hn : scenarios.any (·.needsBrowser) with _ | _
    · exact .inl ⟨rfl, rfl, List.append_nil _⟩
    · exact .inr ⟨rfl, rfl, rfl⟩

theorem ensure_moves (h : r.Knows log) (scenarios : List Scenario) (stage : Stage) :
    r.Moves log (r.ensureDeeds scenarios stage) (r.ensure scenarios stage).2.1 := by
  have hready := ensureReady_moves h stage
  rcases r.ensure_cases scenarios stage with
    ⟨f, s, ready, hr, he, hd⟩ | ⟨s, ready, hr, ⟨-, he, hd⟩ | ⟨-, he, hd⟩⟩ <;>
    rw [hr] at hready <;> rw [he, hd]
  · exact hready
  · exact hready
  · exact hready.trans (ensureTool_moves hready.knows ready)

theorem targetReady_of_ensureReady {ready : Stage}
    (h : r.ensureReady stage = (.ok (), s, ready)) : s.targetReady = true := by
  rcases r.ensureReady_cases stage with
    ⟨-, -, he⟩ | ⟨network, trace, -, -, -, ⟨-, he⟩ | ⟨f, -, he⟩⟩ <;> rw [h] at he <;> cases he
  · rfl
  · rfl

/-- Once all is there, the flags say so. -/
theorem ensure_ok {ready : Stage} (h : r.ensure scenarios stage = (.ok (), s, ready)) :
    s.targetReady = true ∧ (scenarios.any (·.needsBrowser) = true → s.toolChecked = true) := by
  rcases r.ensure_cases scenarios stage with
    ⟨f, s', ready', -, he, -⟩ | ⟨s', ready', hr, ⟨hn, he, -⟩ | ⟨-, he, -⟩⟩ <;> rw [h] at he
  · cases he
  · cases he
    refine ⟨targetReady_of_ensureReady hr, fun hneed => ?_⟩
    rw [hneed] at hn
    cases hn
  · have hready := targetReady_of_ensureReady hr
    rcases s'.ensureTool_cases ready' with
      ⟨hc, -, ht⟩ | ⟨-, tools, -, -, ht⟩ | ⟨-, tools, f, -, -, ht⟩ <;> rw [ht] at he <;> cases he
    · exact ⟨hready, fun _ => hc⟩
    · exact ⟨hready, fun _ => rfl⟩

end Runner

/-! ## Scenarios -/

theorem Page.run_tools (p : Page) (stage : Stage) :
    (p.run stage).2.tools = stage.tools ∨ (p.run stage).2.tools = stage.tools.started := by
  unfold Page.run
  split
  · exact .inl rfl
  · simp only
    split
    · exact .inl rfl
    · exact .inr rfl

namespace Scenario

variable {sc : Scenario} {setup : Setup} {settings : BrowserSettings} {stage after : Stage}
  {report : ScenarioReport}

/-- A scenario whose page has steps has steps besides those of the session. -/
theorem needsBrowser_of_planned {plan : Plan} {words : Words}
    (hp : sc.planned setup settings stage = some (.ok plan, words)) (hne : plan.page.steps ≠ []) :
    sc.needsBrowser = true := by
  by_contra hn
  have hrest : sc.rest = [] := by
    unfold rest
    rw [List.filter_eq_nil_iff]
    intro s hs hsession
    exact hn (List.any_eq_true.2 ⟨s, hs, hsession⟩)
  unfold planned at hp
  rw [plan_rest] at hp
  obtain ⟨_, _, _, images, -, -, -, -, hq, hall⟩ := plan_ok hp
  have hnil : images = [] := by
    have hlen := hall.length
    rw [hrest] at hlen
    exact List.length_eq_zero_iff.1 hlen
  rw [hnil] at hq
  exact hne hq

/-- A scenario starts the browser tool at most once, and only if it needs the browser. -/
theorem perform_tools (h : sc.perform setup settings stage = some (report, after)) :
    after.tools = stage.tools ∨ after.tools = stage.tools.started ∧ sc.needsBrowser = true := by
  cases perform_cases h with
  | session | unplanned | idle => exact .inl rfl
  | browser _ hp hne hr =>
    obtain rfl : _ = after := congrArg Prod.snd hr
    have hneed := needsBrowser_of_planned hp hne
    rcases Page.run_tools _ _ with ht | ht
    · exact .inl ht
    · exact .inr ⟨ht, hneed⟩

theorem ofScenario_of_mem_deeds {d : Deed} (h : d ∈ sc.deeds setup settings stage) :
    d.ofScenario = true := by
  unfold deeds at h
  rcases List.mem_append.1 h with h | h
  · obtain ⟨e, -, rfl⟩ := List.mem_map.1 h
    rfl
  · split at h
    · rw [List.eq_of_mem_replicate h]
      rfl
    · cases h

theorem needsBrowser_of_started (h : .started ∈ sc.deeds setup settings stage) :
    sc.needsBrowser = true := by
  unfold deeds at h
  rcases List.mem_append.1 h with h | h
  · obtain ⟨e, -, he⟩ := List.mem_map.1 h
    cases he
  · split at h
    · rename_i after hp
      rcases perform_tools hp with ht | ⟨-, hneed⟩
      · rw [ht] at h
        simp at h
      · exact hneed
    · cases h

end Scenario

namespace Runner

variable {r s : Runner} {stage after : Stage} {scenarios : List Scenario} {log : List Deed}

theorem mem_performDeeds {settings : RunnerSettings} {d : Deed}
    (h : d ∈ performDeeds settings scenarios stage) :
    ∃ sc ∈ scenarios, ∃ later, d ∈ sc.deeds settings.setup settings.browser later := by
  induction scenarios generalizing stage with
  | nil => cases h
  | cons sc rest ih =>
    unfold performDeeds at h
    rcases List.mem_append.1 h with h | h
    · exact ⟨sc, List.mem_cons_self, stage, h⟩
    · split at h
      · obtain ⟨sc', hm, later, hd⟩ := ih h
        exact ⟨sc', List.mem_cons_of_mem _ hm, later, hd⟩
      · cases h

/-- Scenarios only do what is due once the flags say that all is there. -/
theorem performDeeds_moves (h : s.Knows log) (hready : s.targetReady = true)
    (htool : scenarios.any (·.needsBrowser) = true → s.toolChecked = true) (stage : Stage) :
    s.Moves log (performDeeds s.settings scenarios stage) s := by
  have hs : ∀ d ∈ performDeeds s.settings scenarios stage, d.ofScenario = true := by
    intro d hd
    obtain ⟨sc, -, later, hd⟩ := mem_performDeeds hd
    exact Scenario.ofScenario_of_mem_deeds hd
  have hc : .started ∈ performDeeds s.settings scenarios stage → .checked true ∈ log := by
    intro hd
    obtain ⟨sc, hm, later, hd⟩ := mem_performDeeds hd
    exact h.tool.1 (htool (List.any_eq_true.2 ⟨sc, hm, Scenario.needsBrowser_of_started hd⟩))
  refine ⟨rfl, gated_of_scenario hs (fun hp => (h.ready hp).1 hready) hc, fun hp => ?_, ?_⟩
  · rw [h.ready hp, answered_append]
    exact ⟨.inl, fun ha => ha.resolve_right (answered_of_scenario hs)⟩
  · rw [h.tool, List.mem_append]
    exact ⟨.inl, fun hm => hm.resolve_right (not_checked_of_scenario hs true)⟩

theorem runDeeds_moves (h : r.Knows log) (scenarios : List Scenario) (stage : Stage) :
    r.Moves log (r.runDeeds scenarios stage) (r.ensure scenarios stage).2.1 := by
  have hensure := ensure_moves h scenarios stage
  unfold runDeeds
  rcases he : r.ensure scenarios stage with ⟨f | ⟨⟩, s, ready⟩ <;> rw [he] at hensure
  · simpa using hensure
  · obtain ⟨hready, htool⟩ := ensure_ok he
    exact hensure.trans (performDeeds_moves hensure.knows hready htool ready)

/-- A call only does what is due. -/
theorem deeds_gated (h : r.Knows log) (stage : Stage) (c : Call) :
    Gated r.settings log (r.deeds stage c) := by
  unfold deeds
  rcases c.scenarios r stage with f | scenarios
  · trivial
  · exact (runDeeds_moves h scenarios stage).gated

theorem runScenarios_snd {result : Except Failure SuiteReport}
    (h : r.runScenarios scenarios stage = some (result, s, after)) :
    s = (r.ensure scenarios stage).2.1 := by
  unfold runScenarios at h
  rcases he : r.ensure scenarios stage with ⟨f | ⟨⟩, t, ready⟩ <;> rw [he] at h
  · cases h
    rfl
  · obtain ⟨⟨reports, last⟩, -, h⟩ := Option.bind_eq_some_iff.1 h
    cases h
    rfl

theorem call_moves {c : Call} {result : Except Failure SuiteReport} (h : r.Knows log)
    (hc : r.call stage c = some (result, s, after)) : r.Moves log (r.deeds stage c) s := by
  rw [call_eq] at hc
  unfold deeds
  rcases hs : c.scenarios r stage with f | scenarios <;> rw [hs] at hc
  · cases hc
    exact .refl h
  · rw [runScenarios_snd hc]
    exact runDeeds_moves h scenarios stage

/-- In all histories only what is due is done, and the flags say what was. -/
theorem Reach.gated (h : r.Reach log) : Gated r.settings [] log ∧ r.Knows log := by
  induction h with
  | start settings => exact ⟨trivial, fun _ => by simp [Answered], by simp⟩
  | call _ hc ih =>
    obtain ⟨hgated, hknows⟩ := ih
    have hm := call_moves hknows hc
    refine ⟨?_, hm.knows⟩
    rw [hm.settings]
    exact gated_append.2 ⟨hgated, hm.gated⟩

end Runner

/-! ## What deeds account for -/

/-- Some deeds account for what changed on a stage: for each request that was sent, with what came
of it, for each start of the browser tool, and for each time that it was looked for. A look that
failed may not even have come to that. -/
structure Accounts (stage after : Stage) (deeds : List Deed) : Prop where
  history : after.network.history = stage.network.history ++ deeds.flatMap Deed.trace
  starts : after.tools.starts = stage.tools.starts + deeds.count .started
  looked : after.tools.checks ≤ stage.tools.checks + deeds.countP Deed.isCheck
  found : stage.tools.checks + deeds.count (.checked true) ≤ after.tools.checks

section
variable {stage mid after : Stage} {deeds more : List Deed}

theorem Accounts.refl (stage : Stage) : Accounts stage stage [] where
  history := (List.append_nil _).symm
  starts := rfl
  looked := Nat.le_refl _
  found := Nat.le_refl _

theorem Accounts.trans (h : Accounts stage mid deeds) (hm : Accounts mid after more) :
    Accounts stage after (deeds ++ more) where
  history := by rw [hm.history, h.history, List.flatMap_append, List.append_assoc]
  starts := by rw [hm.starts, h.starts, List.count_append, Nat.add_assoc]
  looked := by
    have := h.looked
    have := hm.looked
    rw [List.countP_append]
    omega
  found := by
    have := h.found
    have := hm.found
    rw [List.count_append]
    omega

theorem accounts_awaited {network : Network} {trace : Trace}
    (h : network.history = stage.network.history ++ trace) (ok : Bool) :
    Accounts stage (stage.waited network) [.awaited trace ok] where
  history := by simpa [Deed.trace] using h
  starts := by simp
  looked := by simp
  found := by simp

end

/-- A look for the browser tool starts nothing, and counts if it found the tool. -/
theorem Toolbox.check_counts {t after : Toolbox} {files : FileTree} {dir : Path}
    {result : Except Failure Unit} (h : t.check files dir = (result, after)) :
    after.starts = t.starts ∧ after.checks ≤ t.checks + 1 ∧
      (result = .ok () → after.checks = t.checks + 1) ∧ t.checks ≤ after.checks := by
  unfold check at h
  split at h
  · cases h
    simp
  · cases h
    simp

theorem Scenario.deeds_account {sc : Scenario} {setup : Setup} {settings : BrowserSettings}
    {stage after : Stage} {report : ScenarioReport}
    (h : sc.perform setup settings stage = some (report, after)) :
    Accounts stage after (sc.deeds setup settings stage) := by
  obtain ⟨trace, ha, -⟩ := sc.log_eq setup settings stage
  have hsince : stage.network.since (sc.sessionOutcome setup stage).session.network = trace :=
    Network.since_eq ha.history
  have hhistory : after.network.history = stage.network.history ++ trace := by
    rw [perform_network h]
    exact ha.history
  obtain ⟨n, hstarts, hchecks⟩ : ∃ n, after.tools.starts = stage.tools.starts + n ∧
      after.tools.checks = stage.tools.checks := by
    rcases perform_tools h with ht | ⟨ht, -⟩ <;> rw [ht]
    · exact ⟨0, rfl, rfl⟩
    · exact ⟨1, rfl, rfl⟩
  have hd : sc.deeds setup settings stage = trace.map .sent ++ List.replicate n .started := by
    unfold deeds
    simp only [h, hsince, hstarts, Nat.add_sub_cancel_left]
  have hstarted : (sc.deeds setup settings stage).count .started = n := by
    have hnone : (trace.map Deed.sent).count .started = 0 := by
      rw [List.count_eq_zero]
      intro hm
      obtain ⟨e, -, he⟩ := List.mem_map.1 hm
      cases he
    rw [hd, List.count_append, hnone, List.count_replicate_self, Nat.zero_add]
  have hfound : (sc.deeds setup settings stage).count (.checked true) = 0 := by
    rw [List.count_eq_zero]
    intro hm
    have := ofScenario_of_mem_deeds hm
    cases this
  refine ⟨?_, by rw [hstarts, hstarted], by omega, by omega⟩
  rw [hhistory, hd]
  simp [List.flatMap_map, Deed.trace]

namespace Runner

variable {r s : Runner} {stage ready after : Stage} {scenarios : List Scenario}
  {result : Except Failure Unit}

theorem ensureReady_accounts (h : r.ensureReady stage = (result, s, ready)) :
    Accounts stage ready (r.readyDeeds stage) := by
  rcases r.ensureReady_cases stage with
    ⟨-, hd, he⟩ | ⟨network, trace, -, -, ht, ⟨hd, he⟩ | ⟨f, hd, he⟩⟩ <;>
    rw [h] at he <;> cases he <;> rw [hd]
  · exact .refl stage
  · exact accounts_awaited ht true
  · exact accounts_awaited ht false

theorem ensureTool_accounts (h : r.ensureTool stage = (result, s, ready)) :
    Accounts stage ready (r.toolDeeds stage) := by
  rcases r.ensureTool_cases stage with
    ⟨-, hd, he⟩ | ⟨-, tools, hd, hc, he⟩ | ⟨-, tools, f, hd, hc, he⟩ <;>
    rw [h] at he <;> cases he <;> rw [hd]
  · exact .refl stage
  · obtain ⟨hstarts, hle, hok, -⟩ := Toolbox.check_counts hc
    exact ⟨by simp [Deed.trace], by simpa using hstarts, by simpa [Deed.isCheck] using hle,
      by simpa using (hok rfl).ge⟩
  · obtain ⟨hstarts, hle, -, hge⟩ := Toolbox.check_counts hc
    exact ⟨by simp [Deed.trace], by simpa using hstarts, by simpa [Deed.isCheck] using hle,
      by simpa using hge⟩

theorem ensure_accounts (h : r.ensure scenarios stage = (result, s, ready)) :
    Accounts stage ready (r.ensureDeeds scenarios stage) := by
  rcases r.ensure_cases scenarios stage with
    ⟨f, t, mid, hr, he, hd⟩ | ⟨t, mid, hr, ⟨-, he, hd⟩ | ⟨-, he, hd⟩⟩ <;> rw [h] at he <;> rw [hd]
  · cases he
    exact ensureReady_accounts hr
  · cases he
    exact ensureReady_accounts hr
  · exact (ensureReady_accounts hr).trans (ensureTool_accounts he.symm)

theorem performDeeds_account {settings : RunnerSettings} {reports : List ScenarioReport}
    (h : performAll settings scenarios stage = some (reports, after)) :
    Accounts stage after (performDeeds settings scenarios stage) := by
  induction scenarios generalizing stage reports with
  | nil =>
    cases h
    exact .refl _
  | cons sc rest ih =>
    obtain ⟨⟨report, mid⟩, hp, h⟩ := Option.bind_eq_some_iff.1 h
    obtain ⟨⟨later, last⟩, hr, h⟩ := Option.bind_eq_some_iff.1 h
    cases h
    unfold performDeeds
    rw [hp]
    exact (Scenario.deeds_account hp).trans (ih hr)

/-- The deeds of a call account for what it changed. -/
theorem call_accounts {c : Call} {result : Except Failure SuiteReport}
    (h : r.call stage c = some (result, s, after)) : Accounts stage after (r.deeds stage c) := by
  rw [call_eq] at h
  unfold deeds
  rcases hs : c.scenarios r stage with f | scenarios <;> rw [hs] at h
  · cases h
    exact .refl stage
  · simp only [runScenarios] at h
    simp only [runDeeds]
    rcases he : r.ensure scenarios stage with ⟨f | ⟨⟩, t, ready⟩ <;> rw [he] at h
    · cases h
      simpa using ensure_accounts he
    · obtain ⟨⟨reports, last⟩, hr, h⟩ := Option.bind_eq_some_iff.1 h
      cases h
      exact (ensure_accounts he).trans (performDeeds_account hr)

/-! ## Probes that fail -/

theorem deeds_of_scenarios {c : Call} (hs : c.scenarios r stage = .ok scenarios) :
    r.deeds stage c = r.runDeeds scenarios stage := by
  unfold deeds
  rw [hs]

/-- A call that cannot make sure of all that its scenarios need ends with that, and does nothing
else. -/
theorem call_of_ensure_error {c : Call} {f : Failure} (hs : c.scenarios r stage = .ok scenarios)
    (he : r.ensure scenarios stage = (.error f, s, after)) :
    r.call stage c = some (.error f, s, after) ∧
      r.deeds stage c = r.ensureDeeds scenarios stage := by
  constructor
  · rw [call_eq, hs]
    simp only [runScenarios, he]
  · rw [deeds_of_scenarios hs]
    simp only [runDeeds, he, List.append_nil]

/-- A runner that knows of no answer begins a call with waiting for one. -/
theorem deeds_of_unready {c : Call} (hready : r.targetReady = false)
    (hpath : r.settings.readinessPath ≠ none) (hs : c.scenarios r stage = .ok scenarios) :
    ∃ trace ok more, r.deeds stage c = .awaited trace ok :: more := by
  have hd : ∃ trace ok, r.readyDeeds stage = [.awaited trace ok] := by
    refine ⟨_, _, if_neg ?_⟩
    simp [hready, hpath]
  obtain ⟨trace, ok, hd⟩ := hd
  rw [deeds_of_scenarios hs, runDeeds, ensureDeeds, hd]
  exact ⟨trace, ok, _, rfl⟩

/-- A runner that knows of an answer, but not of the browser tool, begins a call that needs the tool
with looking for it. -/
theorem deeds_of_unchecked {c : Call} (hready : s.targetReady = true)
    (hchecked : s.toolChecked = false) (hs : c.scenarios s stage = .ok scenarios)
    (hneed : scenarios.any (·.needsBrowser) = true) :
    ∃ ok more, s.deeds stage c = .checked ok :: more := by
  have hd : ∃ ok, s.ensureDeeds scenarios stage = [.checked ok] := by
    simp [ensureDeeds, readyDeeds, ensureReady, toolDeeds, hready, hchecked, hneed]
  obtain ⟨ok, hd⟩ := hd
  rw [deeds_of_scenarios hs, runDeeds, hd]
  exact ⟨ok, _, rfl⟩

theorem call_of_unready {c : Call} {f : Failure} (hs : c.scenarios r stage = .ok scenarios)
    (hf : (r.ensureReady stage).1 = .error f) :
    (∃ trace network, r.deeds stage c = [.awaited trace false] ∧
      r.call stage c = some (.error f, r, stage.waited network)) ∧
    r.targetReady = false ∧ r.settings.readinessPath ≠ none := by
  rcases r.ensureReady_cases stage with
    ⟨-, -, he⟩ | ⟨network, trace, hready, hpath, -, ⟨-, he⟩ | ⟨g, hd, he⟩⟩ <;> rw [he] at hf
  · cases hf
  · cases hf
  · cases hf
    have hensure : r.ensure scenarios stage = (.error f, r, stage.waited network) := by
      simp only [ensure, he]
    obtain ⟨hcall, hdeeds⟩ := call_of_ensure_error hs hensure
    refine ⟨⟨trace, network, ?_, hcall⟩, hready, hpath⟩
    rw [hdeeds, ensureDeeds, hd, he]
    rfl

theorem call_of_unchecked {c : Call} {f : Failure} (hs : c.scenarios r stage = .ok scenarios)
    (hr : r.ensureReady stage = (.ok (), s, ready)) (hneed : scenarios.any (·.needsBrowser) = true)
    (hf : (s.ensureTool ready).1 = .error f) :
    (∃ tools, r.deeds stage c = r.readyDeeds stage ++ [.checked false] ∧
      r.call stage c = some (.error f, s, { ready with tools := tools })) ∧
    s.toolChecked = false := by
  rcases s.ensureTool_cases ready with
    ⟨-, -, he⟩ | ⟨-, tools, -, -, he⟩ | ⟨hchecked, tools, g, hd, -, he⟩ <;> rw [he] at hf
  · cases hf
  · cases hf
  · cases hf
    have hensure : r.ensure scenarios stage = (.error f, s, { ready with tools := tools }) := by
      simp only [ensure, hr, hneed, if_true, he]
    obtain ⟨hcall, hdeeds⟩ := call_of_ensure_error hs hensure
    refine ⟨⟨tools, ?_, hcall⟩, hchecked⟩
    rw [hdeeds, ensureDeeds, hr]
    simp only [hneed, if_true, hd]

/-- **Nothing is run before its probes.** In a call of a runner, whatever was done in its calls
before, on whatever stages:

* each deed is due after all deeds before it: a scenario sends a request only after the application
  answered, if it is to be waited for, the browser tool is started only after that and after it was
  found, and a probe that has succeeded is not made again;
* the deeds account for all requests, starts of the tool and looks for it;
* if no answer comes, then the call ends with that failure, nothing but the wait was done, nothing
  but the network and the clock has changed, and the next call begins with waiting again;
* if the browser tool is needed but not found, then the call ends with that failure, the look was
  the last thing done, and the next call that needs the tool begins with looking again. -/
theorem gating {log : List Deed} (h : r.Reach log) (stage : Stage) (c : Call) :
    (∀ before d more, log ++ r.deeds stage c = before ++ d :: more → d.Due r.settings before) ∧
    (∀ result s after, r.call stage c = some (result, s, after) →
      Accounts stage after (r.deeds stage c)) ∧
    (∀ scenarios f, c.scenarios r stage = .ok scenarios → (r.ensureReady stage).1 = .error f →
      (∃ trace network, r.deeds stage c = [.awaited trace false] ∧
        r.call stage c = some (.error f, r, stage.waited network)) ∧
      ∀ later next scenarios, next.scenarios r later = .ok scenarios →
        ∃ trace ok more, r.deeds later next = .awaited trace ok :: more) ∧
    (∀ scenarios f s ready, c.scenarios r stage = .ok scenarios →
      r.ensureReady stage = (.ok (), s, ready) → scenarios.any (·.needsBrowser) = true →
      (s.ensureTool ready).1 = .error f →
      (∃ tools, r.deeds stage c = r.readyDeeds stage ++ [.checked false] ∧
        r.call stage c = some (.error f, s, { ready with tools := tools })) ∧
      ∀ later next scenarios, next.scenarios s later = .ok scenarios →
        scenarios.any (·.needsBrowser) = true →
        ∃ ok more, s.deeds later next = .checked ok :: more) := by
  obtain ⟨hgated, hknows⟩ := h.gated
  refine ⟨fun before d more heq => ?_, fun result s after => call_accounts, ?_, ?_⟩
  · have hall := gated_append.2 ⟨hgated, deeds_gated hknows stage c⟩
    rw [heq] at hall
    exact hall.due
  · intro scenarios f hs hf
    obtain ⟨hcall, hready, hpath⟩ := call_of_unready hs hf
    exact ⟨hcall, fun later next scenarios hn => deeds_of_unready hready hpath hn⟩
  · intro scenarios f s ready hs hr hneed hf
    obtain ⟨hcall, hchecked⟩ := call_of_unchecked hs hr hneed hf
    refine ⟨hcall, fun later next scenarios hn hneed => ?_⟩
    exact deeds_of_unchecked (targetReady_of_ensureReady hr) hchecked hn hneed

end Runner

/-- A runner that waits for the application for a short time. -/
def Runner.hasty : Runner := { settings := { setup := .loopback, readinessTimeout := 200 } }

namespace Runner

/-- On a stage without an application a new runner ends its first call with the wait. -/
theorem gating_hasty : hasty.Reach [] ∧ ∃ f trace network,
    hasty.deeds .lenient (.these [.pause]) = [.awaited trace false] ∧
    hasty.call .lenient (.these [.pause]) =
      some (.error f, hasty, Stage.lenient.waited network) := by
  have hr : hasty.Reach [] := .start hasty.settings
  have hok : (hasty.ensureReady .lenient).1.isOk = false := by decide +kernel
  obtain ⟨-, -, hunready, -⟩ := gating hr .lenient (.these [.pause])
  rcases hf : (hasty.ensureReady .lenient).1 with f | ⟨⟩
  · exact ⟨hr, f, (hunready [.pause] f rfl hf).1⟩
  · rw [hf] at hok
    cases hok

/-- A scenario that waits in the browser: the tool is looked for, and then it is started. -/
example : prompt.deeds .lenient (.these [.pause]) = [.checked true, .started] := by decide +kernel

end Runner
end Rehearsal
