import Rehearsal.Path
import Rehearsal.Text.Utf8

/-!
# File trees

Files and folders as a tree, with a working folder. `FileTree.find` follows a path; reading,
writing and making folders are functions on the tree that fail with the cause that the operating
system would name. There are no links, so a path to the parent is the enclosing folder; there are no
permissions either, so every file can be read and every folder listed, but for what has too long a
path; and all names are UTF-8.
-/

namespace Rehearsal

/-- Why a file operation fails. -/
inductive FileError where
  | notFound
  | notFolder
  | isFolder
  | occupied
  | nameTooLong
  | nulInName
  | nulInCommand
  | forbidden
  | notText
  /-- A failure that names the path at which a scratch folder was to be made. -/
  | atPath (cause : FileError) (quotedPath : String)
  deriving DecidableEq

/-- The wording of a failed file operation. -/
def FileError.message : FileError → String
  | .notFound => "No such file or directory (os error 2)"
  | .notFolder => "Not a directory (os error 20)"
  | .isFolder => "Is a directory (os error 21)"
  | .occupied => "File exists (os error 17)"
  | .nameTooLong => "File name too long (os error 36)"
  | .nulInName => "file name contained an unexpected NUL byte"
  | .nulInCommand => "nul byte found in provided data"
  | .forbidden => "Permission denied (os error 13)"
  | .notText => "stream did not contain valid UTF-8"
  | .atPath cause path => cause.message ++ " at path " ++ path

/-- A file with its bytes, or a folder with its entries in listing order. -/
inductive FileEntry where
  | file (content : List UInt8)
  | folder (entries : List (String × FileEntry))
  deriving Inhabited

namespace FileEntry

/-- The entry of a name in a folder. -/
def child? (name : String) : FileEntry → Option FileEntry
  | .file _ => none
  | .folder es => (es.find? (·.1 = name)).map (·.2)

/-- A folder with an entry put for a name: in its place if the name is there, last otherwise. -/
def putChild (name : String) (e : FileEntry) : List (String × FileEntry) → List (String × FileEntry)
  | [] => [(name, e)]
  | (n, x) :: r => if n = name then (n, e) :: r else (n, x) :: putChild name e r

/-- The tree with an entry put at a list of names, below folders that are there. -/
def put (e : FileEntry) : List String → FileEntry → FileEntry
  | [], _ => e
  | _ :: _, .file c => .file c
  | n :: ns, .folder es =>
    match (es.find? (·.1 = n)).map (·.2) with
    | some x => .folder (putChild n (put e ns x) es)
    | none => .folder (putChild n (put e ns (.folder [])) es)

end FileEntry

/-- A tree with the names that lead from its root to the working folder. -/
structure FileTree where
  root : FileEntry
  working : List String

namespace FileTree

/-- The text of the working folder's path. -/
def workingPath (t : FileTree) : Path := "/" ++ "/".intercalate t.working

/-- The entry at a list of names from the root. -/
def at? (root : FileEntry) : List String → Option FileEntry
  | [] => some root
  | n :: ns => (root.child? n).bind fun e => at? e ns

/-- The greatest number of bytes of a name. -/
def longestName : Nat := 255

/-- The greatest number of bytes of a path. -/
def longestPath : Nat := 4095

/-- Whether a path has more bytes than the operating system takes. -/
def isTooLong (p : Path) : Bool := longestPath < p.utf8ByteSize

/-- Where a path leads: the names from the root to the place, outermost first. Every step but the
last one must lead to a folder. -/
def follow (root : FileEntry) (names : List String) :
    List Path.Component → Except FileError (List String)
  | [] => .ok names
  | .root :: r => follow root [] r
  | .here :: r => follow root names r
  | c :: r =>
    match at? root names with
    | none => .error .notFound
    | some (.file _) => .error .notFolder
    | some (.folder _) =>
      match c with
      | .name s =>
        if longestName < Text.utf8Length s then .error .nameTooLong
        else follow root (names ++ [String.ofList s]) r
      | _ => follow root names.dropLast r

/-- Checks that a path is one that the operating system takes. -/
def checkText (p : Path) : Except FileError Unit :=
  if p.toList.contains (Char.ofNat 0) then .error .nulInName
  else if isTooLong p then .error .nameTooLong
  else .ok ()

/-- The place that a path names, whether or not something is there. -/
def place (t : FileTree) (p : Path) : Except FileError (List String) := do
  checkText p
  if p.isEmpty then throw .notFound
  follow t.root t.working (Path.components p)

/-- Whether a path asks for a folder by its ending. -/
def asksFolder (p : Path) : Bool :=
  let s := p.toList
  s.getLast? = some '/' || (Text.splitOn '/' s).getLast? = some ['.']

/-- Whether a path ends in a dot that stands for the folder before it; slashes after it do not
count. -/
def endsInDot (p : Path) : Bool :=
  ((Text.splitOn '/' p.toList).filter (!·.isEmpty)).getLast? = some ['.']

/-- The entry that a path leads to. -/
def find (t : FileTree) (p : Path) : Except FileError FileEntry := do
  let names ← t.place p
  match at? t.root names with
  | none => .error .notFound
  | some (.file c) => if asksFolder p then .error .notFolder else .ok (.file c)
  | some e => .ok e

/-- Whether a path leads to a file. -/
def isFile (t : FileTree) (p : Path) : Bool :=
  match t.find p with
  | .ok (.file _) => true
  | _ => false

/-- Whether a path leads to a folder. -/
def isFolder (t : FileTree) (p : Path) : Bool :=
  match t.find p with
  | .ok (.folder _) => true
  | _ => false

/-- The bytes of the file at a path. -/
def read (t : FileTree) (p : Path) : Except FileError (List UInt8) := do
  match ← t.find p with
  | .file c => .ok c
  | .folder _ => .error .isFolder

/-- The text of the file at a path. -/
def readText (t : FileTree) (p : Path) : Except FileError String := do
  let bytes ← t.read p
  match Text.decode? bytes with
  | some s => .ok (String.ofList s)
  | none => .error .notText

/-- The tree with a file put at a path, below a folder that is there. -/
def write (t : FileTree) (p : Path) (content : List UInt8) : Except FileError FileTree := do
  let names ← t.place p
  match at? t.root names with
  | some (.folder _) => .error .isFolder
  | some (.file _) =>
    if asksFolder p then .error .notFolder
    else .ok { t with root := FileEntry.put (.file content) names t.root }
  | none =>
    if asksFolder p then .error .isFolder
    else
      match at? t.root names.dropLast with
      | some (.folder _) => .ok { t with root := FileEntry.put (.file content) names t.root }
      | some (.file _) => .error .notFolder
      | none => .error .notFound

/-- The tree with a folder made at a path, below a folder that is there. -/
def makeFolder (t : FileTree) (p : Path) : Except FileError FileTree := do
  let names ← t.place p
  match at? t.root names with
  | some _ => .error .occupied
  | none =>
    match at? t.root names.dropLast with
    | some (.folder _) => .ok { t with root := FileEntry.put (.folder []) names t.root }
    | some (.file _) => .error .notFolder
    | none => .error .notFound

/-- The tree with a folder at every step of a path from a place on. `dotted` tells that a dot stands
for the last one, so that it has to be there already. -/
def makeAlong (dotted : Bool) (root : FileEntry) (names : List String) :
    List Path.Component → Except FileError FileEntry
  | [] => .ok root
  | .root :: r => makeAlong dotted root [] r
  | .here :: r => makeAlong dotted root names r
  | .parent :: r => makeAlong dotted root names.dropLast r
  | .name s :: r =>
    if longestName < Text.utf8Length s then .error .nameTooLong
    else
      let names := names ++ [String.ofList s]
      match at? root names with
      | some (.folder _) => makeAlong dotted root names r
      | some (.file _) => .error (if r.isEmpty && !dotted then .occupied else .notFolder)
      | none =>
        if r.isEmpty && dotted then .error .notFound
        else makeAlong dotted (FileEntry.put (.folder []) names root) names r

/-- The tree with a folder at a path and all that lead to it. -/
def makeFolders (t : FileTree) (p : Path) : Except FileError FileTree := do
  checkText p
  let root ← makeAlong (endsInDot p) t.root t.working (Path.components p)
  return { t with root := root }

/-- One entry met on a walk: its path, and whether it is a folder. -/
structure Visit where
  path : Path
  isFolder : Bool

mutual

/-- The entries below an entry, in listing order, each folder before what it holds. A folder whose
path is too long cannot be listed. -/
def walkEntry (p : Path) : FileEntry → List Visit
  | .file _ => [⟨p, false⟩]
  | .folder es => if isTooLong p then [⟨p, true⟩] else ⟨p, true⟩ :: walkEntries p es

/-- The entries below the entries of a folder. -/
def walkEntries (p : Path) : List (String × FileEntry) → List Visit
  | [] => []
  | (n, e) :: r => walkEntry (Path.join p n) e ++ walkEntries p r

end

/-- All entries at and below a path; none if nothing is there. -/
def walk (t : FileTree) (p : Path) : List Visit :=
  match t.find p with
  | .ok e => walkEntry p e
  | .error _ => []

end FileTree
end Rehearsal
