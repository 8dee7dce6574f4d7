import Rehearsal.CommandLine

/-!
# The program

Reads the command line, the setup and the files of a suite, runs the selected scenarios on a stage
without network and browser tools, and writes the report. It ends with 0 if no scenario failed, with
1 if one did, and with 2 if they could not be run.
-/

namespace Rehearsal

/-- What is at a place on disk, with all below it. -/
partial def entryOnDisk (place : String) : IO FileEntry := do
  let path := (← IO.currentDir) / place
  if ← path.isDir then
    let entries ← path.readDir
    return .folder (← entries.toList.mapM fun e => do
      return (e.fileName, ← entryOnDisk (Path.join place e.fileName)))
  else return .file (← IO.FS.readBinFile path).toList

/-- A tree with what is on disk at a path, if anything is there. -/
def addFromDisk (files : FileTree) (p : Path) : IO FileTree := do
  if ← ((← IO.currentDir) / p).pathExists then
    let e ← entryOnDisk p
    match files.makeFolders ((Path.parent? p).getD "") with
    | .error _ => return files
    | .ok files =>
      match files.place p with
      | .ok names => return { files with root := FileEntry.put e names files.root }
      | .error _ => return files
  else return files

/-- A tree without files whose working folder is the one of the program. -/
def treeHere : IO FileTree := do
  let here := (← IO.currentDir).toString
  let names := (Path.components here).filterMap fun c =>
    match c with
    | .name s => some (String.ofList s)
    | _ => none
  let files : FileTree := ⟨.folder [], []⟩
  return { (files.makeFolders here).toOption.getD files with working := names }

/-- The values of the environment that a setup asks for. -/
def environmentHere : IO Setup.Environment := do
  let names := ["APP_PRIMARY_URL", "APP_SECONDARY_URL", "LOGIN_ENDPOINT_URL", "DEMO_OBJECT_ID",
    "MAIL_CAPTURE_URL", "STAFF_EMAIL", "STAFF_PASSWORD", "LEARNER_EMAIL", "LEARNER_PASSWORD",
    "FIXTURES_DIR"]
  let values ← names.mapM fun n => do return (n, ← IO.getEnv n)
  return fun name => (values.find? (·.1 = name)).bind (·.2)

/-- Random words. -/
def randomWords (n : Nat) : IO Words := do
  let bytes ← IO.getRandomBytes (USize.ofNat (8 * n))
  return (List.range n).map fun i =>
    (List.range 8).foldl (fun w k => w * 256 + (bytes.data[8 * i + k]?.getD 0).toUInt64) 0

/-- The time, as the disk notes it for a new file. -/
def timeHere : IO Instant := do
  let (_, path) ← IO.FS.createTempFile
  let t := (← path.metadata).modified
  IO.FS.removeFile path
  return ⟨t.sec, t.nsec.toNat⟩

/-- Runs the scenarios that the options select; gives whether none failed. -/
def perform (o : Options) : IO (Except String Bool) := do
  let files ← addFromDisk (← treeHere) (o.setupFile.getD "")
  let env ← environmentHere
  match Setup.load files o.setupFile env with
  | .error f => return .error f.message
  | .ok setup =>
    match o.runnerSettings "." setup, o.selection? with
    | .error f, _ => return .error f.message
    | .ok _, none => return .error (Failure.scenarioUnreadable "bad --filter").message
    | .ok settings, some selection =>
      let files ← [settings.scenariosDir, settings.setup.fixturesDir].foldlM addFromDisk files
      let now ← timeHere
      let stage : Stage := {
        files := files
        network := .down
        tools := { outcomes := [], checkCode := 1 }
        words := ← randomWords 100000
        now := now
        year := (Day.ofNumber (now.seconds.fdiv 86400)).year }
      match Runner.run { settings := settings } selection stage with
      | none => return .error "no random words are left"
      | some (.error f, _, _) => return .error f.message
      | some (.ok suite, _, _) =>
        IO.FS.createDirAll settings.outputDir
        IO.FS.writeFile (Path.join settings.outputDir SuiteReport.fileName) (String.ofList suite.text)
        return .ok (suite.failed = 0)

end Rehearsal

open Rehearsal

/-- The program. -/
def main (args : List String) : IO UInt32 := do
  match CommandLine.parse args with
  | .error .help =>
    IO.println CommandLine.Stop.help.message
    return 0
  | .error stop =>
    IO.eprintln s!"error: {stop.message}"
    return 2
  | .ok o =>
    if o.setupFile.isNone && (← IO.getEnv "APP_PRIMARY_URL").isNone then
      IO.eprintln "APP_PRIMARY_URL is not set and no --config given; skipping scenarios"
      return 0
    match ← perform o with
    | .ok true => return 0
    | .ok false => return 1
    | .error message =>
      IO.eprintln s!"Error: {message}"
      return 2
