import Rehearsal.Runner

/-!
# Command line

The options of the runner. Each may be given once, by its name or by its letter; a value stands
after an equals sign, after the letter, or in the next argument. A value is looked at when the next
option begins or at the end, so an unknown argument right after it is found first.
-/

namespace Rehearsal

/-- What the command line says. -/
structure Options where
  scenariosDir : Option Path := none
  tag : Option String := none
  name : Option String := none
  /-- A pattern for names. -/
  filter : Option String := none
  setupFile : Option Path := none
  browser : String := "chromium"
  /-- Whether the browser window is shown. -/
  headed : Bool := false
  /-- How many milliseconds an action may take. -/
  timeout : Nat := 10000
  projectDir : Option Path := none
  readinessPath : String := "/heartbeat"
  /-- How many seconds to wait for the application. -/
  readinessTimeout : Nat := 120
  outputDir : Path := "test-results"
  deriving DecidableEq

namespace CommandLine

/-- Why a command line says nothing. -/
inductive Stop where
  | repeated
  | needlessValue
  | unknownArgument
  | missingValue
  | badNumber
  /-- Help was asked for. -/
  | help
  deriving DecidableEq

/-- What is said about a command line that says nothing. -/
def Stop.message : Stop → String
  | .repeated => "an option cannot be used multiple times"
  | .needlessValue => "an option takes no value"
  | .unknownArgument => "unexpected argument found"
  | .missingValue => "a value is required for an option"
  | .badNumber => "a value is no number"
  | .help =>
    "options: --specs, --tag, --name, --filter, --config, --browser, --headed, --timeout-ms, " ++
      "--node-project-dir, --readiness-path, --readiness-timeout, --output, --help"

/-- An option. -/
inductive Opt where
  | specs
  | tag
  | name
  | filter
  | config
  | browser
  | headed
  | timeout
  | projectDir
  | readinessPath
  | readinessTimeout
  | output
  | help
  deriving DecidableEq

namespace Opt

/-- The options with their names and letters. -/
def all : List (Opt × String × Option Char) :=
  [(.specs, "specs", some 's'), (.tag, "tag", some 't'), (.name, "name", some 'n'),
    (.filter, "filter", some 'f'), (.config, "config", some 'c'), (.browser, "browser", none),
    (.headed, "headed", none), (.timeout, "timeout-ms", none),
    (.projectDir, "node-project-dir", none), (.readinessPath, "readiness-path", none),
    (.readinessTimeout, "readiness-timeout", none), (.output, "output", some 'o'),
    (.help, "help", some 'h')]

/-- The option of a name. -/
def ofName? (name : List Char) : Option Opt := (all.find? (·.2.1.toList = name)).map (·.1)

/-- The option of a letter. -/
def ofLetter? (c : Char) : Option Opt := (all.find? (·.2.2 = some c)).map (·.1)

/-- Whether an option has a value. -/
def hasValue (o : Opt) : Bool := o ≠ .headed && o ≠ .help

/-- A path, which must not be empty. -/
def path (value : String) : Except Stop Path := if value.isEmpty then .error .missingValue else .ok value

/-- A number of 64 bits. -/
def number (value : String) : Except Stop Nat :=
  let digits :=
    match value.toList with
    | '+' :: r => r
    | r => r
  match (if digits.all Text.isDigit then Text.natOfDigits? 10 digits else none) with
  | some n => if n < Nat.pow 2 64 then .ok n else .error .badNumber
  | none => .error .badNumber

/-- What an option says with a value. -/
def put (o : Opt) (value : String) (s : Options) : Except Stop Options :=
  match o with
  | .specs => return { s with scenariosDir := some (← path value) }
  | .tag => .ok { s with tag := some value }
  | .name => .ok { s with name := some value }
  | .filter => .ok { s with filter := some value }
  | .config => return { s with setupFile := some (← path value) }
  | .browser => .ok { s with browser := value }
  | .headed => .ok { s with headed := true }
  | .timeout => return { s with timeout := ← number value }
  | .projectDir => return { s with projectDir := some (← path value) }
  | .readinessPath => .ok { s with readinessPath := value }
  | .readinessTimeout => return { s with readinessTimeout := ← number value }
  | .output => return { s with outputDir := ← path value }
  | .help => .error .help

end Opt

/-- A command line as far as it was read. -/
structure Progress where
  options : Options := {}
  seen : List Opt := []
  /-- The option that was begun last, with its value if that was read. -/
  pending : Option (Opt × Option String) := none
  /-- Whether options have ended. -/
  ended : Bool := false

namespace Progress

/-- Takes an option with its value. -/
def take (p : Progress) (o : Opt) (value : String) : Except Stop Progress :=
  if p.seen.contains o then .error .repeated
  else return { p with options := ← o.put value p.options, seen := o :: p.seen }

/-- Takes the option that was begun last. -/
def settle (p : Progress) : Except Stop Progress :=
  match p.pending with
  | none => .ok p
  | some (_, none) => .error .missingValue
  | some (o, some value) => { p with pending := none }.take o value

/-- Begins an option, which may have a value attached. -/
def start (p : Progress) (o : Opt) (value : Option String) : Except Stop Progress :=
  match o.hasValue, value with
  | false, some _ => .error .needlessValue
  | false, none => do (← p.settle).take o ""
  | true, some v => do (← p.settle).take o v
  | true, none => return { ← p.settle with pending := some (o, none) }

/-- Reads an option by its name. -/
def readName (p : Progress) (s : List Char) : Except Stop Progress :=
  let (name, value) :=
    match Text.splitOnce '=' s with
    | some (n, v) => (n, some (String.ofList v))
    | none => (s, none)
  match Opt.ofName? name with
  | none => .error .unknownArgument
  | some o => p.start o value

/-- Reads options by their letters; what follows the letter of one with a value is the value. -/
def readLetters (p : Progress) : List Char → Except Stop Progress
  | [] => .ok p
  | c :: r =>
    match Opt.ofLetter? c with
    | none => .error .unknownArgument
    | some o =>
      if o.hasValue then
        match r with
        | [] => p.start o none
        | '=' :: v => p.start o (some (String.ofList v))
        | v => p.start o (some (String.ofList v))
      else do
        let p ← p.start o none
        p.readLetters r

/-- Reads an argument. -/
def read (p : Progress) (arg : String) : Except Stop Progress :=
  if p.ended then .error .unknownArgument
  else
    match arg.toList with
    | ['-', '-'] => .ok { p with ended := true }
    | '-' :: '-' :: s => p.readName s
    | '-' :: c :: s => p.readLetters (c :: s)
    | _ =>
      match p.pending with
      | some (o, none) => .ok { p with pending := some (o, some arg) }
      | _ => .error .unknownArgument

/-- Reads arguments up to the last one. -/
def readAll (p : Progress) : List String → Except Stop Progress
  | [] => p.settle
  | arg :: args => do
    let p ← p.read arg
    p.readAll args

end Progress

/-- What the arguments after the name of the program say. -/
def parse (args : List String) : Except Stop Options := do
  return (← Progress.readAll {} args).options

end CommandLine

namespace Options

/-- The scenarios that are to be run: a name counts before a tag, and a tag before a pattern. -/
def selection? (o : Options) : Option Selection :=
  match o.name, o.tag, o.filter with
  | some name, _, _ => some (.named name)
  | none, some tag, _ => some (.tagged tag)
  | none, none, some pattern => (Pattern.parse? pattern.toList).map .matching
  | none, none, none => some .all

/-- The settings of a runner for a suite in a folder, with what the options say. -/
def runnerSettings (o : Options) (dir : Path) (setup : Setup) : Except Failure RunnerSettings := do
  let engine ← Engine.ofName? o.browser
  let base := RunnerSettings.bundled dir setup
  return {
    base with
    browser := {
      base.browser with
      engine := engine
      headless := !o.headed
      defaultTimeout := o.timeout
      screenshotDir := Path.join o.outputDir "screenshots"
      projectDir := o.projectDir.getD base.browser.projectDir }
    scenariosDir := o.scenariosDir.getD base.scenariosDir
    outputDir := o.outputDir
    readinessPath := if o.readinessPath.isEmpty then none else some o.readinessPath
    readinessTimeout := o.readinessTimeout * 1000 }

end Options
end Rehearsal
