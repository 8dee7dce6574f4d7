import Rehearsal.Base64
import Rehearsal.Setup

/-!
# Fixtures

Files under a root folder, found by names that may not lead out of it. A fixture is handed over in
base64 or as bytes; decoding gives the bytes of the file again.
-/

namespace Rehearsal

/-- A fixture in an encoding. -/
inductive EncodedFixture where
  | base64 (name : String) (data : List Char)
  | binary (name : String) (data : List UInt8)
  deriving DecidableEq

namespace EncodedFixture

/-- The name of a fixture. -/
def name : EncodedFixture → String
  | .base64 name _ => name
  | .binary name _ => name

/-- The bytes of a fixture; blanks around base64 do not count. -/
def decode : EncodedFixture → Except Failure (List UInt8)
  | .base64 name data =>
    match Base64.decode (Text.trim data) with
    | .ok bytes => .ok bytes
    | .error f => .error (.fixtureBroken name f.message)
  | .binary _ data => .ok data

/-- Bytes in an encoding. -/
def encode (encoding : FixtureEncoding) (name : String) (bytes : List UInt8) : EncodedFixture :=
  match encoding with
  | .base64 => .base64 name (Base64.encode bytes)
  | .binary => .binary name bytes

end EncodedFixture

/-- A folder of fixtures. -/
structure FixtureStore where
  root : Path

namespace FixtureStore

/-- Whether a step of a name stays where it is or goes further down. -/
def staysInside : Path.Component → Bool
  | .name _ => true
  | .here => true
  | _ => false

/-- The path of the file that a name stands for. -/
def path (store : FixtureStore) (files : FileTree) (name : String) : Except Failure Path :=
  if (Path.components name).all staysInside then
    let p := Path.join store.root name
    if files.isFile p then .ok p else .error (.fixtureNotFound p)
  else .error (.fixtureNotFound s!"{name} (fixture names must be relative to {store.root})")

/-- The bytes of a fixture. -/
def read (store : FixtureStore) (files : FileTree) (name : String) :
    Except Failure (List UInt8) := do
  let p ← store.path files name
  match files.read p with
  | .ok bytes => return bytes
  | .error e => throw (.file e)

/-- A fixture in an encoding. -/
def load (store : FixtureStore) (files : FileTree) (name : String) (encoding : FixtureEncoding) :
    Except Failure EncodedFixture := do
  return .encode encoding name (← store.read files name)

end FixtureStore
end Rehearsal
