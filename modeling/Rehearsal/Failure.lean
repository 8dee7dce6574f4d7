import Rehearsal.FileTree
import Rehearsal.Http.Fault
import Rehearsal.Yaml.Reader

/-!
# Failures

Why an operation of the suite fails, as causes; `Failure.message` is their wording.
-/

namespace Rehearsal

/-- Why an operation fails. -/
inductive Failure where
  | invalidSetup (reason : String)
  | invalidUrl (text : String) (fault : UrlFault)
  /-- The login page did not hand out the cookie with the token. -/
  | tokenMissing (cookie url : String)
  | fixtureNotFound (place : String)
  | fixtureBroken (name reason : String)
  | browserToolMissing
  | browserFailed (output : String)
  | targetNotReady (attempts : Nat)
  | file (e : FileError)
  | json (reason : String)
  | yaml (t : Yaml.Trouble)
  | http (f : Http.Fault)
  | scenarioUnreadable (reason : String)
  | scenarioInvalid (name reason : String)
  | scenarioNotFound (name : String)

/-- The wording of a failure. -/
def Failure.message : Failure → String
  | .invalidSetup reason => s!"Invalid configuration: {reason}"
  | .invalidUrl text fault => s!"Invalid URL '{text}': {fault.message}"
  | .tokenMissing cookie url => s!"CSRF cookie '{cookie}' was not set by {url}"
  | .fixtureNotFound place => s!"Fixture not found: {place}"
  | .fixtureBroken name reason => s!"Fixture decode error in {name}: {reason}"
  | .browserToolMissing =>
    "Playwright not found. Install with: npm install playwright @playwright/test && npx playwright install"
  | .browserFailed output => s!"Playwright error: {output}"
  | .targetNotReady attempts => s!"Target not ready after {attempts} attempts"
  | .file e => s!"IO error: {e.message}"
  | .json reason => s!"JSON error: {reason}"
  | .yaml t => s!"YAML error: {t.message}"
  | .http f => s!"HTTP error: {f.message}"
  | .scenarioUnreadable reason => s!"Test spec parse error: {reason}"
  | .scenarioInvalid name reason => s!"Invalid scenario '{name}': {reason}"
  | .scenarioNotFound name => s!"Test not found: {name}"

/-- The URL that a text denotes, or the failure that it denotes none. -/
def urlOf (text : String) : Except Failure Url :=
  match Url.parse text with
  | .ok u => .ok u
  | .error f => .error (.invalidUrl text f)

end Rehearsal
