import Rehearsal.Browser.Step
import Rehearsal.Fixture
import Rehearsal.Sha256

/-!
# Uploads

A fixture as a file that is put into a file input. The file has the name of the fixture's file
unless another one is set.
-/

namespace Rehearsal

/-- A file in memory. -/
structure Blob where
  bytes : List UInt8
  filename : String
  mimeType : String
  deriving DecidableEq

namespace Blob

/-- The number of bytes. -/
def size (b : Blob) : Nat := b.bytes.length

/-- Whether there are no bytes. -/
def isEmpty (b : Blob) : Bool := b.bytes.isEmpty

/-- The digest of the bytes in hexadecimal. -/
def digest (b : Blob) : String := String.ofList (Text.hexOfBytes (Sha256.digest b.bytes))

/-- The bytes in base64. -/
def base64 (b : Blob) : String := String.ofList (Base64.encode b.bytes)

/-- The step that puts a file into a file input. -/
def injection (b : Blob) (selector : String) : BrowserStep :=
  .injectFile selector b.filename b.mimeType b.base64

end Blob

/-- The name of the file that a fixture name leads to; the whole name if it leads to none. -/
def uploadName (fixture : String) : String :=
  match Path.fileName? fixture with
  | some s => String.ofList s
  | none => fixture

/-- A fixture as a file to be uploaded. -/
def Blob.prepare (store : FixtureStore) (settings : UploadSettings) (files : FileTree)
    (fixture : String) (encoding : FixtureEncoding) : Except Failure Blob := do
  let encoded ← store.load files fixture encoding
  let bytes ← encoded.decode
  return ⟨bytes, settings.filename.getD (uploadName fixture), settings.mimeType⟩

/-- Puts a fixture into a file input of something that takes files. If the fixture cannot be
prepared, nothing is put anywhere. -/
def uploadTo {σ : Type} (inject : σ → String → Blob → σ) (store : FixtureStore)
    (settings : UploadSettings) (files : FileTree) (target : σ) (selector fixture : String)
    (encoding : FixtureEncoding) : Except Failure Unit × σ :=
  match Blob.prepare store settings files fixture encoding with
  | .ok b => (.ok (), inject target selector b)
  | .error f => (.error f, target)

end Rehearsal
