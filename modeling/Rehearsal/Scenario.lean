import Rehearsal.Browser.Step
import Rehearsal.Setup

/-!
# Scenarios

A scenario is a list of steps with a name and tags, read from a YAML document. Steps of a session
run before the browser starts, so a valid scenario has them all in front; `Scenario.load` reads all
scenarios below a folder, sorted by name.
-/

namespace Rehearsal

open Data

/-- A step that the suite carries out itself. -/
inductive Command where
  /-- Log in with the credentials of a role. -/
  | login (role : Role)
  | loginWith (email password : String)
  | logout
  /-- Create a course, and possibly go on to an address. -/
  | createCourse (nextUrl : Option String)
  /-- Put a fixture into a file input. -/
  | uploadFile (fixture : String) (selector : Option String) (encoding : Option FixtureEncoding)
  deriving DecidableEq

namespace Command

/-- Whether a command runs over HTTP before the browser starts. -/
def isSession : Command → Bool
  | .login _ => true
  | .loginWith _ _ => true
  | .logout => true
  | .createCourse _ => false
  | .uploadFile _ _ _ => false

/-- The actions that are commands. -/
def actions : List String := ["login", "login_with", "logout", "create_course", "upload_file"]

/-- An alternative with fields. -/
def alternative {σ : Type} (variant name : String) (init : σ) (fields : List (Field σ))
    (make : σ → Command) : Alternative Command :=
  .record s!"struct variant HarnessCommand::{variant}" name init fields make

/-- The commands that a document can hold. -/
def alternatives : List (Alternative Command) :=
  [alternative "Login" "login" Role.staff [field "role" .required Role.decoder fun r _ => r] .login,
   alternative "LoginWith" "login_with" (⟨"", ""⟩ : Credentials)
    [field "email" .required .text fun v c => { c with email := v },
     field "password" .required .text fun v c => { c with password := v }]
    fun c => .loginWith c.email c.password,
   .bare "logout" .logout,
   alternative "CreateCourse" "create_course" none
    [field "next_url" .free (.option .text) fun v _ => v] .createCourse,
   alternative "UploadFile" "upload_file" (("", none, none) : String × Option String × Option FixtureEncoding)
    [field "fixture" .required .text fun v s => (v, s.2),
     field "selector" .free (.option .text) fun v s => (s.1, v, s.2.2),
     field "encoding" .free (.option FixtureEncoding.decoder) fun v s => (s.1, s.2.1, v)]
    fun s => .uploadFile s.1 s.2.1 s.2.2]

/-- The decoder of commands. -/
def decoder : Decoder Command := .tagged "HarnessCommand" "action" alternatives

/-- The action of a command as documents name it. -/
def action : Command → String
  | .login _ => "login"
  | .loginWith _ _ => "login_with"
  | .logout => "logout"
  | .createCourse _ => "create_course"
  | .uploadFile _ _ _ => "upload_file"

/-- The fields of a command besides its action. -/
def fields : Command → List (String × Value)
  | .login role => [("role", .text role.name)]
  | .loginWith email password => [("email", .text email), ("password", .text password)]
  | .logout => []
  | .createCourse nextUrl => [("next_url", optionalText nextUrl)]
  | .uploadFile fixture selector encoding =>
    [("fixture", .text fixture), ("selector", optionalText selector),
      ("encoding", optionalText (encoding.map FixtureEncoding.name))]

/-- A command as a dynamic value. -/
def toValue (c : Command) : Value := .record (("action", .text c.action) :: c.fields)

end Command

/-- A step of a scenario. -/
inductive ScenarioStep where
  | command (c : Command)
  | browser (s : BrowserStep)
  deriving DecidableEq

namespace ScenarioStep

/-- Whether a step runs over HTTP before the browser starts. -/
def isSession : ScenarioStep → Bool
  | .command c => c.isSession
  | .browser _ => false

/-- The step that a dynamic value denotes. Its action is looked at first, so that mistakes name the
action. -/
def ofValue (v : Value) : Except Mistake ScenarioStep :=
  match v.untagged.get? "action" with
  | none => .error (.missingField "action")
  | some a =>
    match a.untagged.text? with
    | none => .error (.other "`action` must be a string")
    | some action =>
      let named (m : Mistake) : Mistake := .other (action ++ ": " ++ m.message .yaml)
      if Command.actions.contains action then
        (Command.decoder.ofValue false v).map .command |>.mapError named
      else (BrowserStep.decoder.ofValue false v).map .browser |>.mapError named

/-- The decoder of scenario steps: a node is read as it is, and then as a step. -/
def decoder : Decoder ScenarioStep where
  ofValue _ := ofValue
  ofJson := Decoder.jsonByValue ofValue
  ofYaml source depth way n := do
    match ofValue (← Yaml.dynamic .kept source depth way n) with
    | .ok s => return s
    | .error m => Yaml.mistaken m

/-- A step as a dynamic value. -/
def toValue : ScenarioStep → Value
  | .command c => c.toValue
  | .browser s => s.toValue

end ScenarioStep

/-- The size of the browser window. -/
structure Viewport where
  width : Nat
  height : Nat
  deriving DecidableEq

/-- The decoder of viewports. -/
def Viewport.decoder : Decoder Viewport :=
  .record "struct Viewport" ⟨0, 0⟩
    [field "width" .required .nat32 fun v s => { s with width := v },
     field "height" .required .nat32 fun v s => { s with height := v }]

/-- A scenario. -/
structure Scenario where
  name : String
  description : String
  tags : List String
  viewport : Viewport
  steps : List ScenarioStep
  deriving DecidableEq

namespace Scenario

/-- The decoder of scenarios. -/
def decoder : Decoder Scenario :=
  .record "struct TestSpec" ⟨"", "", [], ⟨1280, 720⟩, []⟩
    [field "name" .required .text fun v s => { s with name := v },
     field "description" .free .text fun v s => { s with description := v },
     field "tags" .free (.list .text) fun v s => { s with tags := v },
     field "viewport" .free Viewport.decoder fun v s => { s with viewport := v },
     field "steps" .required (.list ScenarioStep.decoder) fun v s => { s with steps := v }]

/-- A scenario as a dynamic value. -/
def toValue (s : Scenario) : Value :=
  .record [("name", .text s.name), ("description", .text s.description),
    ("tags", .list (s.tags.map .text)),
    ("viewport", .record [("width", .nat s.viewport.width), ("height", .nat s.viewport.height)]),
    ("steps", .list (s.steps.map ScenarioStep.toValue))]

/-! ## Validity -/

/-- The number of steps before the first one that is not a session step, and of those between it
and the next session step, if there is one. -/
def lateSessionStep? (steps : List ScenarioStep) : Option (Nat × Nat) :=
  let front := steps.takeWhile ScenarioStep.isSession
  let rest := steps.dropWhile ScenarioStep.isSession
  let middle := rest.takeWhile fun s => !s.isSession
  if middle.length < rest.length then some (front.length, middle.length) else none

/-- A scenario has steps, and its session steps stand in front. -/
def validate (s : Scenario) : Except Failure Unit :=
  let invalid (reason : String) : Except Failure Unit := .error (.scenarioInvalid s.name reason)
  if s.steps.isEmpty then invalid "no steps"
  else
    match lateSessionStep? s.steps with
    | none => .ok ()
    | some (front, middle) =>
      invalid s!"step {front + middle + 1} logs in or out after browser step {front + 1}; session steps must come first"

/-- The valid scenario that a YAML text denotes. -/
def ofYaml (text : String) : Except Failure Scenario :=
  match decoder.readYaml text with
  | .error t => .error (.scenarioUnreadable t.message)
  | .ok s => do
    s.validate
    return s

/-! ## Loading -/

/-- The scenario of a file; if it cannot be read, the failure names the file. -/
def ofFile (files : FileTree) (p : Path) : Except Failure Scenario :=
  match files.readText p with
  | .error e => .error (.file e)
  | .ok text =>
    match ofYaml text with
    | .error (.scenarioUnreadable reason) => .error (.scenarioUnreadable s!"{p}: {reason}")
    | r => r

/-- Whether an entry of a folder is taken for a scenario, by its extension. -/
def isScenarioPath (p : Path) : Bool :=
  match Path.extension? p with
  | some e => e = "yaml".toList || e = "yml".toList
  | none => false

/-- All scenarios at and below a folder, sorted by name; those with one name stay as they are
found. -/
def load (files : FileTree) (dir : Path) : Except Failure (List Scenario) := do
  let paths := ((files.walk dir).map (·.path)).filter isScenarioPath
  let scenarios ← paths.mapM (ofFile files)
  return scenarios.mergeSort fun a b => decide (a.name ≤ b.name)

/-- The scenarios with a tag. -/
def withTag (scenarios : List Scenario) (tag : String) : List Scenario :=
  scenarios.filter (·.tags.contains tag)

end Scenario
end Rehearsal
