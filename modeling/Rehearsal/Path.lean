import Rehearsal.Text.Lines
import Rehearsal.Text.Utf8

/-!
# Paths

Paths are texts; their meaning is a list of components. `components` skips repeated slashes and
inner dots, `join` starts over at an absolute path, and `fileName?` is the last component if it is
a name. To the system a path is a sequence of bytes, which need not be text: the folder of
screenshots and the paths below it are a `SystemPath`. All other paths are texts, so what is not
modelled are command lines, settings and files with names that are no UTF-8.
-/

namespace Rehearsal

/-- A path as it was written, in UTF-8. -/
abbrev Path := String

namespace Path

/-- One step of a path. -/
inductive Component where
  | root
  | here
  | parent
  | name (s : List Char)
  deriving DecidableEq

/-- The component that a part between slashes denotes. -/
def Component.ofPart (part : List Char) : Component :=
  if part = ['.'] then .here
  else if part = ['.', '.'] then .parent
  else .name part

/-- The components of a relative part: empty parts and dots are skipped. -/
def relativeComponents (s : List Char) : List Component :=
  ((Text.splitOn '/' s).filter fun p => p ≠ [] ∧ p ≠ ['.']).map Component.ofPart

/-- Whether a path starts at the root. -/
def isAbsoluteText (s : List Char) : Bool := s.head? = some '/'

/-- The components of a path; a dot counts only at the beginning. -/
def componentsText (s : List Char) : List Component :=
  if isAbsoluteText s then .root :: relativeComponents s
  else if (Text.splitOn '/' s).head? = some ['.'] then .here :: relativeComponents s
  else relativeComponents s

/-- A path put after another; an absolute one replaces it. -/
def joinText (base path : List Char) : List Char :=
  if isAbsoluteText path then path
  else if base.isEmpty || base.getLast? = some '/' then base ++ path
  else base ++ '/' :: path

/-- Whether a path starts at the root. -/
def isAbsolute (p : Path) : Bool := isAbsoluteText p.toList

/-- The components of a path. -/
def components (p : Path) : List Component := componentsText p.toList

/-- A path put after another; an absolute one replaces it. -/
def join (base path : Path) : Path := String.ofList (joinText base.toList path.toList)

/-- The last component of a path, if it is a name. -/
def fileName? (p : Path) : Option (List Char) :=
  match (components p).getLast? with
  | some (.name s) => some s
  | _ => none

/-- The part of a name after its last dot; a name that only starts with a dot has none. -/
def extensionOf? (name : List Char) : Option (List Char) :=
  let back := name.reverse
  let ext := back.takeWhile (· ≠ '.')
  match back.dropWhile (· ≠ '.') with
  | [] => none
  | _ :: stem => if stem.isEmpty then none else some ext.reverse

/-- The extension of a path's file name. -/
def extension? (p : Path) : Option (List Char) := (fileName? p).bind extensionOf?

/-- The text of a list of components, as a path that starts with them. -/
def ofComponents : List Component → List Char
  | [] => []
  | .root :: r => '/' :: ofComponents r
  | [c] => part c
  | c :: d :: r => part c ++ '/' :: ofComponents (d :: r)
where
  /-- How one component is written. -/
  part : Component → List Char
    | .root => []
    | .here => ['.']
    | .parent => ['.', '.']
    | .name s => s

/-- The path without its last component; a root and an empty path have none. -/
def parent? (p : Path) : Option Path :=
  let cs := components p
  match cs.getLast? with
  | none => none
  | some .root => none
  | some _ => some (String.ofList (ofComponents cs.dropLast))

end Path

/-! ## Paths that need not be text -/

/-- A path as the system has it. -/
structure SystemPath where
  bytes : List UInt8
  deriving DecidableEq

namespace SystemPath

/-- The path that was written as a text. -/
def ofPath (p : Path) : SystemPath := ⟨Text.utf8 p.toList⟩

instance : Coe Path SystemPath := ⟨ofPath⟩

/-- A path as it is shown: as a text, with U+FFFD for what is none. -/
def shown (p : SystemPath) : Path := String.ofList (Text.decodeLossy p.bytes)

/-- Whether a path is a text. -/
def isText (p : SystemPath) : Bool := (Text.decode? p.bytes).isSome

/-- The byte between the parts of a path. -/
def slash : UInt8 := 47

/-- Whether a path starts at the root. -/
def isAbsolute (p : SystemPath) : Bool := p.bytes.head? = some slash

/-- A path put after another; an absolute one replaces it. -/
def join (base path : SystemPath) : SystemPath :=
  if path.isAbsolute then path
  else if base.bytes.isEmpty || base.bytes.getLast? = some slash then ⟨base.bytes ++ path.bytes⟩
  else ⟨base.bytes ++ slash :: path.bytes⟩

end SystemPath
end Rehearsal
