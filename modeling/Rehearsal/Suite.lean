import Rehearsal.Browser.Page
import Rehearsal.Instant

/-!
# Suites

The reports of scenarios that were run together, and the file in which they are kept: a JSON text
that reads back as the same report.
-/

namespace Rehearsal

open Data

/-- The report of a scenario. -/
structure ScenarioReport where
  name : String
  success : Bool
  /-- How many milliseconds it took. -/
  duration : Nat
  steps : List StepReport
  /-- The keys of the courses that it created. -/
  courses : List String
  error : Option String
  deriving DecidableEq

namespace ScenarioReport

/-- The report of a scenario that failed after some steps. -/
def failed (name : String) (steps : List StepReport) (courses : List String) (f : Failure) :
    ScenarioReport :=
  ⟨name, false, 0, steps, courses, some f.message⟩

/-- The decoder of reports of scenarios. -/
def decoder : Decoder ScenarioReport :=
  .record "struct TestResult" ⟨"", false, 0, [], [], none⟩
    [field "name" .required .text fun v r => { r with name := v },
     field "success" .required .flag fun v r => { r with success := v },
     field "duration_ms" .required .nat64 fun v r => { r with duration := v },
     field "steps" .required (.list StepReport.decoder) fun v r => { r with steps := v },
     field "courses" .required (.list .text) fun v r => { r with courses := v },
     field "error" .inLists (.option .text) fun v r => { r with error := v }]

/-- A report as a dynamic value. -/
def toValue (r : ScenarioReport) : Value :=
  .record [("name", .text r.name), ("success", .flag r.success), ("duration_ms", .nat r.duration),
    ("steps", .list (r.steps.map StepReport.toValue)), ("courses", .list (r.courses.map .text)),
    ("error", optionalText r.error)]

end ScenarioReport

/-- The report of scenarios that were run together. -/
structure SuiteReport where
  startedAt : Instant
  total : Nat
  passed : Nat
  failed : Nat
  skipped : Nat
  /-- How many milliseconds it took. -/
  duration : Nat
  results : List ScenarioReport
  deriving DecidableEq

namespace SuiteReport

/-- The report of some results. -/
def ofResults (startedAt : Instant) (results : List ScenarioReport) : SuiteReport :=
  let passed := results.countP (·.success)
  ⟨startedAt, results.length, passed, results.length - passed, 0, 0, results⟩

/-- The decoder of instants. -/
def instantDecoder : Decoder Instant :=
  .parsed "an RFC 3339 formatted date and time string" fun s =>
    match Instant.parse s.toList with
    | .ok t => .ok t
    | .error f => .error f.message

/-- The decoder of reports of suites. -/
def decoder : Decoder SuiteReport :=
  .record "struct TestSuiteResult" ⟨⟨0, 0⟩, 0, 0, 0, 0, 0, []⟩
    [field "started_at" .required instantDecoder fun v r => { r with startedAt := v },
     field "total" .required .count fun v r => { r with total := v },
     field "passed" .required .count fun v r => { r with passed := v },
     field "failed" .required .count fun v r => { r with failed := v },
     field "skipped" .required .count fun v r => { r with skipped := v },
     field "duration_ms" .required .nat64 fun v r => { r with duration := v },
     field "results" .required (.list ScenarioReport.decoder) fun v r => { r with results := v }]

/-- A report as a dynamic value. -/
def toValue (r : SuiteReport) : Value :=
  .record [("started_at", .text (String.ofList r.startedAt.text)), ("total", .nat r.total),
    ("passed", .nat r.passed), ("failed", .nat r.failed), ("skipped", .nat r.skipped),
    ("duration_ms", .nat r.duration), ("results", .list (r.results.map ScenarioReport.toValue))]

/-- The text of a report. -/
def text (r : SuiteReport) : List Char := Json.pretty r.toValue

/-- The name of the file in which a report is kept. -/
def fileName : String := "test-results.json"

/-- Whether the paths in a report are texts. -/
def hasTextPaths (r : SuiteReport) : Bool :=
  r.results.all fun s => s.steps.all fun step => step.screenshot.all SystemPath.isText

/-- Puts a report into a folder, which is made if it is not there; gives the path of its file, and
the files after that. A report with a path that is no text cannot be written. -/
def write (r : SuiteReport) (files : FileTree) (dir : Path) : Except Failure (Path × FileTree) := do
  let path := Path.join dir fileName
  match files.makeFolders dir with
  | .error e => throw (.file e)
  | .ok files =>
    if r.hasTextPaths then
      match files.write path (Text.utf8 r.text) with
      | .error e => throw (.file e)
      | .ok files => return (path, files)
    else throw (.json "path contains invalid UTF-8 characters")

end SuiteReport
end Rehearsal
