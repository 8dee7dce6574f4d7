import Rehearsal.Browser.Page
import Rehearsal.Course.Form
import Rehearsal.Course.Generator
import Rehearsal.Placeholder
import Rehearsal.Scenario
import Rehearsal.Session

/-!
# Plans

What a scenario comes to in the browser: a page with a queue of steps, and the courses that those
steps create. `Planner.lowerAll` turns the steps of a scenario one after the other into browser
steps; steps of the session come to nothing.
-/

namespace Rehearsal

/-- A value that is planned with random draws, or the failure to plan it. -/
abbrev Planned (α : Type) := ExceptT Failure Draw α

/-- What does not change while a scenario is planned. -/
structure Planner where
  setup : Setup
  files : FileTree
  year : Int

/-- What later steps see of those before them. -/
structure Outlook where
  generator : CourseGenerator
  placeholders : Placeholders

/-- What one step of a scenario comes to. -/
structure Lowered where
  steps : List BrowserStep
  course : Option Course

namespace Planner

/-- The fixtures of a setup. -/
def fixtures (p : Planner) : FixtureStore := ⟨p.setup.fixturesDir⟩

/-- The step that uploads a fixture. -/
def uploadStep (p : Planner) (o : Outlook) (fixture : String) (selector : Option String)
    (encoding : Option FixtureEncoding) : Except Failure BrowserStep := do
  let settings := p.setup.upload
  let selector := (selector.map o.placeholders.expand).getD settings.inputSelector
  let blob ← Blob.prepare p.fixtures settings p.files fixture (encoding.getD settings.encoding)
  return blob.injection selector

/-- What a step of a scenario comes to, and what the steps after it see. -/
def lower (p : Planner) (o : Outlook) : ScenarioStep → Planned (Lowered × Outlook)
  | .command (.createCourse nextUrl) => do
    let (course, generator) ← liftM (o.generator.generate p.year)
    let placeholders := { o.placeholders with courseKey := some course.key }
    let steps := course.steps p.setup (nextUrl.map placeholders.expand)
    return (⟨steps, some course⟩, ⟨generator, placeholders⟩)
  | .command (.uploadFile fixture selector encoding) => do
    let step ← liftExcept (p.uploadStep o fixture selector encoding)
    return (⟨[step], none⟩, o)
  | .command _ => return (⟨[], none⟩, o)
  | .browser step => return (⟨[o.placeholders.expandStep step], none⟩, o)
where
  /-- A value that needs no draws. -/
  liftExcept {α : Type} (r : Except Failure α) : Planned α := ExceptT.mk (pure r)

/-- What the steps of a scenario come to, in order. -/
def lowerAll (p : Planner) : Outlook → List ScenarioStep → Planned (List BrowserStep × List Course)
  | _, [] => return ([], [])
  | o, s :: r => do
    let (l, o) ← p.lower o s
    let (steps, courses) ← p.lowerAll o r
    return (l.steps ++ steps, l.course.toList ++ courses)

end Planner

/-- A page for a scenario, and the courses that it creates. -/
structure Plan where
  page : Page
  courses : List Course

namespace Scenario

/-- How many letters make a run unique. -/
def uniqueLength : Nat := 10

/-- The addresses whose cookies the browser takes over. -/
def cookieUrls (s : Setup) : List String := [s.lms, s.cms, s.loginEndpoint]

/-- The settings of the browser for a scenario. -/
def browserSettings (sc : Scenario) (setup : Setup) (settings : BrowserSettings) : BrowserSettings :=
  { settings with
    width := sc.viewport.width
    height := sc.viewport.height
    baseUrl := setup.lms }

/-- The plan of a scenario after its session. -/
def plan (sc : Scenario) (p : Planner) (settings : BrowserSettings) (session : Session) :
    Planned Plan := do
  let cookies ← ExceptT.mk (pure (session.browserCookies (cookieUrls p.setup)))
  let letters ← liftM (Draw.letterList uniqueLength)
  let unique := String.ofList (letters.map Char.toLower)
  let o : Outlook := ⟨.ofSettings p.setup.course, .ofSetup p.setup unique⟩
  let (steps, courses) ← p.lowerAll o sc.steps
  let page := Page.empty (sc.browserSettings p.setup settings) p.files.workingPath
  return ⟨(page.addCookies cookies).extend steps, courses⟩

end Scenario
end Rehearsal
