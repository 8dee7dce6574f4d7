import Rehearsal.Browser.Script
import Rehearsal.Text.Blank
import Rehearsal.Text.Substitution
import Rehearsal.Upload

/-!
# Pages

A page is a queue of steps for one browser. Running it hands its script to the browser tool, whose
output tells, line by line, which steps succeeded.
-/

namespace Rehearsal

open Data

/-- A queue of steps for one browser. -/
structure Page where
  settings : BrowserSettings
  cookies : List BrowserCookie
  steps : List BrowserStep

namespace Page

/-- A page without steps; its screenshots are kept below the working folder. -/
def empty (settings : BrowserSettings) (working : Path) : Page := ⟨settings.pinned working, [], []⟩

/-- A page with more steps. -/
def extend (p : Page) (steps : List BrowserStep) : Page := { p with steps := p.steps ++ steps }

/-- A page with one more step. -/
def push (p : Page) (s : BrowserStep) : Page := p.extend [s]

/-- A page with more cookies. -/
def addCookies (p : Page) (cs : List BrowserCookie) : Page := { p with cookies := p.cookies ++ cs }

/-- A page with a file put into a file input. -/
def inject (p : Page) (selector : String) (b : Blob) : Page := p.push (b.injection selector)

/-- Uploads a fixture to a page; gives the page after that. -/
def upload (p : Page) (store : FixtureStore) (settings : UploadSettings) (files : FileTree)
    (selector fixture : String) (encoding : FixtureEncoding) : Except Failure Unit × Page :=
  uploadTo inject store settings files p selector fixture encoding

/-- The script of a page. -/
def script (p : Page) : Script := .of p.settings p.cookies p.steps

end Page

/-! ## Reports -/

/-- The report of a step. -/
structure StepReport where
  success : Bool
  name : String
  /-- How many milliseconds it took. -/
  duration : Nat
  error : Option String
  /-- Where the screenshot is that it took. -/
  screenshot : Option SystemPath
  deriving DecidableEq

/-- A step's report as a dynamic value; the path of a screenshot is written as it is shown. -/
def StepReport.toValue (r : StepReport) : Value :=
  .record [("success", .flag r.success), ("step_name", .text r.name), ("duration_ms", .nat r.duration),
    ("error", BrowserStep.optionalText r.error),
    ("screenshot_path", BrowserStep.optionalText (r.screenshot.map SystemPath.shown))]

/-- The decoder of reports of steps. -/
def StepReport.decoder : Decoder StepReport :=
  .record "struct StepResult" ⟨false, "", 0, none, none⟩
    [field "success" .required .flag fun v r => { r with success := v },
     field "step_name" .required .text fun v r => { r with name := v },
     field "duration_ms" .required .nat64 fun v r => { r with duration := v },
     field "error" .inLists (.option .text) fun v r => { r with error := v },
     field "screenshot_path" .inLists (.option .path) fun v r =>
      { r with screenshot := v.map SystemPath.ofPath }]

/-- The report of a page. -/
structure PageReport where
  success : Bool
  steps : List StepReport
  deriving DecidableEq

/-- The first error that a step reports. -/
def PageReport.firstError (r : PageReport) : Option String := r.steps.findSome? (·.error)

/-! ## Events -/

/-- An event in the output of the browser tool: a step ended. -/
structure StepEvent where
  index : Nat
  name : String
  success : Bool
  duration : Nat
  error : Option String
  deriving DecidableEq

namespace StepEvent

/-- The decoder of events. -/
def decoder : Decoder StepEvent :=
  .record "struct StepEvent" ⟨0, "", false, 0, none⟩
    [field "index" .required .count fun v e => { e with index := v },
     field "name" .required .text fun v e => { e with name := v },
     field "success" .required .flag fun v e => { e with success := v },
     field "duration_ms" .required .nat64 fun v e => { e with duration := v },
     field "error" .free (.option .text) fun v e => { e with error := v }]

/-- The event that a line tells, if it is one of an event. -/
def ofLine? (line : List Char) : Option StepEvent := do
  let json ← Text.dropBeginning? Script.eventPrefix.toList (Text.trim line)
  match decoder.readJson json with
  | .ok e => some e
  | .error _ => none

/-- The events of an output. -/
def ofOutput (output : List Char) : List StepEvent := (Text.lines output).filterMap ofLine?

end StepEvent

/-- The report of an event on a page; a screenshot that was taken is named. -/
def Page.report (p : Page) (e : StepEvent) : StepReport :=
  let shot : Option SystemPath :=
    match p.steps[e.index]? with
    | some (.screenshot name _ _) => if e.success then some (p.settings.screenshotPath name) else none
    | _ => none
  ⟨e.success, e.name, e.duration, e.error, shot⟩

/-- What the browser tool did: what it wrote, and the code with which it ended. -/
structure ToolOutcome where
  stdout : List UInt8
  stderr : List UInt8
  code : Nat

/-- An outcome without any output. -/
def ToolOutcome.silent : ToolOutcome := ⟨[], [], 0⟩

namespace Page

/-- The reports of the steps in the output of the browser tool. -/
def reports (p : Page) (stdout : List UInt8) : List StepReport :=
  (StepEvent.ofOutput (Text.decodeLossy stdout)).map p.report

/-- What an outcome of the browser tool says about a page. If the tool failed and no step did, it
broke down. -/
def conclude (p : Page) (o : ToolOutcome) : Except Failure PageReport :=
  let steps := p.reports o.stdout
  if o.code = 0 then .ok ⟨true, steps⟩
  else if steps.any (!·.success) then .ok ⟨false, steps⟩
  else
    let out := String.ofList (Text.decodeLossy o.stdout)
    let err := String.ofList (Text.decodeLossy o.stderr)
    .error (.browserFailed s!"Script failed:\nstdout: {out}\nstderr: {err}")

/-- The name of the folder in which a script is put, but for its random end. -/
def scriptFolder : String := ".e2e-script<random>"

/-- The path of the folder in which a script is put. -/
def scriptPath (p : Page) (working : Path) : Path :=
  Path.join (Path.join working p.settings.projectDir) scriptFolder

/-- What has to be there before the browser tool starts: the folder of screenshots is made, and the
script is put into the project folder. Gives the files after that; as their names are texts, the
folder gets its name as it is shown. -/
def readyFiles (p : Page) (files : FileTree) : Except Failure FileTree := do
  match files.makeFolders p.settings.screenshotDir.shown with
  | .error e => throw (.file e)
  | .ok files =>
    let path := p.scriptPath files.workingPath
    match files.makeFolder path with
    | .error e => throw (.file (.atPath e (Text.quote path)))
    | .ok _ => return files

end Page
end Rehearsal
