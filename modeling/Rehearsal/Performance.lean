import Rehearsal.Login
import Rehearsal.Plan
import Rehearsal.Suite

/-!
# Performances

One scenario from beginning to end: its session, its plan, and its page in the browser. All that
it meets is a `Stage`: files, a network, the tools that drive the browser, what the clock shows in
waits, and random words. Other than in waits time does not pass on a stage, so everything takes zero
milliseconds that is not reported by the browser.
-/

namespace Rehearsal

/-! ## The stage -/

/-- The tools that drive the browser. -/
structure Toolbox where
  /-- The name under which the browser tool is found. -/
  program : String := "node"
  /-- The outcomes of the starts to come; the ones after them are silent. -/
  outcomes : List ToolOutcome
  /-- How often the browser tool was started. -/
  starts : Nat := 0
  /-- The code with which the check for the browser tool ends. -/
  checkCode : Nat := 0
  /-- How often the check was made. -/
  checks : Nat := 0

/-- All that a scenario meets. -/
structure Stage where
  files : FileTree
  network : Http.Network
  tools : Toolbox
  words : Words
  now : Instant
  year : Int
  /-- What the clock shows in the waits to come; in the ones after them only the pauses take time. -/
  waits : List (List Nat) := []

namespace Toolbox

/-- The outcome of the next start. -/
def next (t : Toolbox) : ToolOutcome := t.outcomes.headD .silent

/-- The tools after the next start. -/
def started (t : Toolbox) : Toolbox := { t with outcomes := t.outcomes.tail, starts := t.starts + 1 }

/-- Checks that the browser tool is installed in a folder; gives the tools after that. -/
def check (t : Toolbox) (files : FileTree) (dir : Path) : Except Failure Unit × Toolbox :=
  if files.isFolder dir then
    (if t.checkCode = 0 then .ok () else .error .browserToolMissing, { t with checks := t.checks + 1 })
  else (.error .browserToolMissing, t)

/-- Why a program cannot be started from a folder; `none` for the browser tool. A program with a
slash in its name is looked for in the folder, another one among the installed programs, where there
is only the browser tool; no file there may be executed. -/
def refusal? (t : Toolbox) (files : FileTree) (dir program : Path) : Option FileError :=
  if program.toList.contains (Char.ofNat 0) then some .nulInCommand
  else
    match files.find dir with
    | .error e => some e
    | .ok _ =>
      if program = t.program then none
      else if program.toList.contains '/' then
        match files.find (Path.join dir program) with
        | .error e => some e
        | .ok _ => some .forbidden
      else if program = "." ∨ program = ".." then some .forbidden
      else if FileTree.longestName < program.utf8ByteSize then some .nameTooLong
      else some .notFound

end Toolbox

/-- Runs a page in the browser. -/
def Page.run (p : Page) (stage : Stage) : Except Failure PageReport × Stage :=
  match p.readyFiles stage.files with
  | .error f => (.error f, stage)
  | .ok files =>
    let stage := { stage with files := files }
    match stage.tools.refusal? files p.settings.projectDir p.settings.nodeBinary with
    | some e => (.error (.file e), stage)
    | none => (p.conclude stage.tools.next, { stage with tools := stage.tools.started })

/-! ## The session -/

/-- The name of a session step in reports, and its outcome; `none` if the step is not one of the
session. -/
def Command.perform? (setup : Setup) (s : Session) :
    Command → Option (String × Except Failure Nat × Session)
  | .login role => some (s!"login:{role}", s.logIn setup role)
  | .loginWith email password => some (s!"login:{email}", s.authenticate setup ⟨email, password⟩)
  | .logout => some ("logout", s.logOut setup)
  | _ => none

/-- What comes of the session steps of a scenario: the reports of those that were taken, the failure
that ended them, if any, and the session. -/
structure SessionOutcome where
  steps : List StepReport
  failure : Option Failure
  session : Session

/-- Takes the session steps in front, one after the other, until one fails. -/
def takeSessionSteps (setup : Setup) (s : Session) : List ScenarioStep → SessionOutcome
  | .command c :: r =>
    match c.perform? setup s with
    | none => ⟨[], none, s⟩
    | some (name, .ok _, s) =>
      let rest := takeSessionSteps setup s r
      { rest with steps := ⟨true, name, 0, none, none⟩ :: rest.steps }
    | some (name, .error f, s) => ⟨[⟨false, name, 0, some f.message, none⟩], some f, s⟩
  | _ => ⟨[], none, s⟩

/-! ## The scenario -/

namespace Scenario

/-- What the report of a page says about the steps after those of the session. -/
def concludePage (sc : Scenario) (steps : List StepReport) (courses : List String) :
    Except Failure PageReport → ScenarioReport
  | .error f => .failed sc.name steps courses f
  | .ok r =>
    let error := r.firstError.or (if r.success then none else some "browser script failed")
    ⟨sc.name, r.success, 0, steps ++ r.steps, courses, error⟩

/-- Performs a scenario in a fresh session; `none` if the random words run out. -/
def perform (sc : Scenario) (setup : Setup) (settings : BrowserSettings) (stage : Stage) :
    Option (ScenarioReport × Stage) :=
  let o := takeSessionSteps setup (Session.start stage.network stage.now) sc.steps
  let stage := { stage with network := o.session.network }
  match o.failure with
  | some f => some (.failed sc.name o.steps [] f, stage)
  | none => do
    let planner : Planner := ⟨setup, stage.files, stage.year⟩
    let (planned, words) ← (sc.plan planner settings o.session).run stage.words
    let stage := { stage with words := words }
    match planned with
    | .error f => return (.failed sc.name o.steps [] f, stage)
    | .ok plan =>
      let courses := plan.courses.map Course.key
      if plan.page.steps.isEmpty then return (⟨sc.name, true, 0, o.steps, courses, none⟩, stage)
      let (r, stage) := plan.page.run stage
      return (sc.concludePage o.steps courses r, stage)

end Scenario
end Rehearsal
