import Rehearsal.Browser.Step
import Rehearsal.Failure

/-!
# Browser settings

Which browser is driven, how it looks, and where its tools are found.
-/

namespace Rehearsal

open Data

/-- A kind of browser. -/
inductive Engine where
  | chromium
  | firefox
  | webkit
  deriving DecidableEq

/-- The name of a kind of browser. -/
def Engine.name : Engine → String
  | .chromium => "chromium"
  | .firefox => "firefox"
  | .webkit => "webkit"

/-- The kind of browser that a text names. -/
def Engine.ofName? (text : String) : Except Failure Engine :=
  if text = "chromium" ∨ text = "chrome" then .ok .chromium
  else if text = "firefox" then .ok .firefox
  else if text = "webkit" then .ok .webkit
  else .error (.invalidSetup s!"unknown browser: {text}")

/-- The decoder of kinds of browsers. -/
def Engine.decoder : Decoder Engine :=
  .choice [("chromium", .chromium), ("firefox", .firefox), ("webkit", .webkit)]

/-- The settings of a browser. -/
structure BrowserSettings where
  /-- The address that relative addresses refer to. -/
  baseUrl : String := "http://localhost:4700"
  screenshotDir : SystemPath := "test-results/screenshots"
  width : Nat := 1280
  height : Nat := 720
  engine : Engine := .chromium
  headless : Bool := true
  /-- How many milliseconds an action may take. -/
  defaultTimeout : Nat := 10000
  nodeBinary : String := "node"
  /-- The folder whose modules hold the browser tool. -/
  projectDir : Path := "."
  deriving DecidableEq

namespace BrowserSettings

/-- The decoder of browser settings. -/
def decoder : Decoder BrowserSettings :=
  .record "struct PlaywrightConfig" {}
    [field "base_url" .free .text fun v s => { s with baseUrl := v },
     field "screenshot_dir" .free .path fun v s => { s with screenshotDir := v },
     field "viewport_width" .free .nat32 fun v s => { s with width := v },
     field "viewport_height" .free .nat32 fun v s => { s with height := v },
     field "browser" .free Engine.decoder fun v s => { s with engine := v },
     field "headless" .free .flag fun v s => { s with headless := v },
     field "default_timeout_ms" .free .nat64 fun v s => { s with defaultTimeout := v },
     field "node_binary" .free .text fun v s => { s with nodeBinary := v },
     field "node_project_dir" .free .path fun v s => { s with projectDir := v }]

/-- Browser settings as a dynamic value. -/
def toValue (s : BrowserSettings) : Value :=
  .record [("base_url", .text s.baseUrl), ("screenshot_dir", .text s.screenshotDir.shown),
    ("viewport_width", .nat s.width), ("viewport_height", .nat s.height),
    ("browser", .text s.engine.name), ("headless", .flag s.headless),
    ("default_timeout_ms", .nat s.defaultTimeout), ("node_binary", .text s.nodeBinary),
    ("node_project_dir", .text s.projectDir)]

/-- Settings whose screenshots are kept below the working folder, not below the one of the browser
tool. -/
def pinned (s : BrowserSettings) (working : Path) : BrowserSettings :=
  if s.screenshotDir.isAbsolute then s
  else { s with screenshotDir := .join working s.screenshotDir }

/-- Where a screenshot is kept. -/
def screenshotPath (s : BrowserSettings) (name : String) : SystemPath :=
  s.screenshotDir.join (name ++ ".png" : Path)

end BrowserSettings
end Rehearsal
