import Rehearsal.Pattern.Reader
import Rehearsal.Performance
import Rehearsal.Readiness

/-!
# Runner

Runs the scenarios of a folder, or a selection of them, on a stage. Before the first one the
application has to answer and, if one of them needs the browser, the browser tool has to be there;
either is looked at until it was found once.
-/

namespace Rehearsal

/-! ## Settings -/

/-- The settings of a runner. -/
structure RunnerSettings where
  setup : Setup := {}
  browser : BrowserSettings := {}
  scenariosDir : Path := "scenarios"
  outputDir : Path := "test-results"
  /-- The path that has to answer before the first scenario, if any. -/
  readinessPath : Option String := some "/heartbeat"
  /-- How many milliseconds to wait for that. -/
  readinessTimeout : Nat := 120000
  deriving DecidableEq

/-- The settings of a suite whose scenarios, fixtures and browser tool are in one folder. -/
def RunnerSettings.bundled (dir : Path) (setup : Setup) : RunnerSettings where
  setup := { setup with fixturesDir := Path.join dir setup.fixturesDir }
  browser := { projectDir := dir }
  scenariosDir := Path.join dir "scenarios"

/-! ## Selections -/

/-- Which scenarios are to be run. -/
inductive Selection where
  | all
  | tagged (tag : String)
  | matching (p : Pattern)
  /-- The first scenario of a name. -/
  | named (name : String)

/-- The scenarios of a selection; a name must be that of a scenario. -/
def Selection.choose (scenarios : List Scenario) : Selection → Except Failure (List Scenario)
  | .all => .ok scenarios
  | .tagged tag => .ok (Scenario.withTag scenarios tag)
  | .matching p => .ok (scenarios.filter fun s => p.occursIn s.name.toList)
  | .named name =>
    match scenarios.find? (·.name = name) with
    | some s => .ok [s]
    | none => .error (.scenarioNotFound name)

/-! ## Running -/

/-- What the clock shows in the next wait, for so many milliseconds. -/
def Stage.readings (stage : Stage) (timeout : Nat) : List Nat :=
  stage.waits.headD (Readiness.readings timeout)

/-- The stage after a wait. -/
def Stage.waited (stage : Stage) (network : Http.Network) : Stage :=
  { stage with network := network, waits := stage.waits.tail }

@[simp] theorem Stage.waited_network (stage : Stage) (network : Http.Network) :
    (stage.waited network).network = network := rfl

@[simp] theorem Stage.waited_tools (stage : Stage) (network : Http.Network) :
    (stage.waited network).tools = stage.tools := rfl

/-- A runner, and what it has found so far. -/
structure Runner where
  settings : RunnerSettings
  targetReady : Bool := false
  toolChecked : Bool := false

/-- Whether a scenario has steps besides those of the session. -/
def Scenario.needsBrowser (sc : Scenario) : Bool := sc.steps.any fun s => !s.isSession

namespace Runner

/-- Waits until the application answers, unless it did before. -/
def ensureReady (r : Runner) (stage : Stage) : Except Failure Unit × Runner × Stage :=
  if r.targetReady then (.ok (), r, stage)
  else
    match r.settings.readinessPath with
    | none => (.ok (), { r with targetReady := true }, stage)
    | some path =>
      let timeout := r.settings.readinessTimeout
      let url := r.settings.setup.lmsAddress path
      match Readiness.await url timeout (stage.readings timeout) stage.network stage.now with
      | (.ok (), network) => (.ok (), { r with targetReady := true }, stage.waited network)
      | (.error f, network) => (.error f, r, stage.waited network)

/-- Looks for the browser tool, unless it was found before. -/
def ensureTool (r : Runner) (stage : Stage) : Except Failure Unit × Runner × Stage :=
  if r.toolChecked then (.ok (), r, stage)
  else
    match stage.tools.check stage.files r.settings.browser.projectDir with
    | (.ok (), tools) => (.ok (), { r with toolChecked := true }, { stage with tools := tools })
    | (.error f, tools) => (.error f, r, { stage with tools := tools })

/-- Makes sure of all that some scenarios need. -/
def ensure (r : Runner) (scenarios : List Scenario) (stage : Stage) :
    Except Failure Unit × Runner × Stage :=
  match r.ensureReady stage with
  | (.error f, r, stage) => (.error f, r, stage)
  | (.ok (), r, stage) =>
    if scenarios.any (·.needsBrowser) then r.ensureTool stage else (.ok (), r, stage)

/-- Performs scenarios one after the other. -/
def performAll (s : RunnerSettings) : List Scenario → Stage → Option (List ScenarioReport × Stage)
  | [], stage => some ([], stage)
  | sc :: r, stage => do
    let (report, stage) ← sc.perform s.setup s.browser stage
    let (reports, stage) ← performAll s r stage
    return (report :: reports, stage)

/-- Runs scenarios once all that they need is there; `none` if the random words run out. -/
def runScenarios (r : Runner) (scenarios : List Scenario) (stage : Stage) :
    Option (Except Failure SuiteReport × Runner × Stage) :=
  match r.ensure scenarios stage with
  | (.error f, r, stage) => some (.error f, r, stage)
  | (.ok (), r, stage) => do
    let (reports, stage) ← performAll r.settings scenarios stage
    return (.ok (.ofResults stage.now reports), r, stage)

/-- Runs a selection of the scenarios of the runner's folder. -/
def run (r : Runner) (selection : Selection) (stage : Stage) :
    Option (Except Failure SuiteReport × Runner × Stage) :=
  match Scenario.load stage.files r.settings.scenariosDir >>= (Selection.choose · selection) with
  | .error f => some (.error f, r, stage)
  | .ok scenarios => r.runScenarios scenarios stage

end Runner
end Rehearsal
