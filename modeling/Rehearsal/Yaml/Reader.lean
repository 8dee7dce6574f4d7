import Rehearsal.Data.Mistake
import Rehearsal.Data.Value
import Rehearsal.Yaml.Node

/-!
# Reading YAML documents

What a reader of a document shares: the way to the node that is being read, how deep it may go, and
how many aliases were followed. A mistake is told with the innermost node that was being read and
the way to it. `dynamic` reads a node as a value of no particular type.
-/

namespace Rehearsal.Yaml

open Rehearsal.Data

/-- Why a text is no value of a type. -/
inductive Trouble where
  | mistake (m : Mistake) (place : Option (Mark × String))
  | problem (p : Problem)
  | unknownAnchor (mark : Mark)
  | tooDeep (mark : Mark)
  | tooManyAliases
  | endOfText
  | moreDocuments

/-- The wording of a place, unless it is the beginning of the text. -/
def atMark (m : Mark) : String := if m.isStart then "" else s!" at {m.describe}"

/-- The wording of a trouble. -/
def Trouble.message : Trouble → String
  | .mistake m none => m.message .yaml
  | .mistake m (some (mark, path)) =>
    (if path = "." then "" else path ++ ": ") ++ m.message .yaml ++ atMark mark
  | .problem p => p.message
  | .unknownAnchor mark => "unknown anchor" ++ atMark mark
  | .tooDeep mark => "recursion limit exceeded" ++ atMark mark
  | .tooManyAliases => "repetition limit exceeded"
  | .endOfText => "EOF while parsing a value"
  | .moreDocuments => "deserializing from YAML containing more than one document is not supported"

/-- The trouble of a reader who needs more than there is. -/
def Ending.trouble : Ending → Trouble
  | .problem p => .problem p
  | .unknownAnchor mark => .unknownAnchor mark
  | .endOfEvents => .endOfText

/-- A step from a node to one of its parts. -/
inductive Step where
  | item (n : Nat)
  | entry (key : String)
  | unnamed

/-- The way to a node, last step first. -/
abbrev Way := List Step

/-- A way in words. -/
def Way.describe : Way → String
  | [] => "."
  | .item n :: r => s!"{describe r}[{n}]"
  | .entry key :: r => (if r.isEmpty then "" else describe r ++ ".") ++ key
  | .unnamed :: r => (if r.isEmpty then "" else describe r ++ ".") ++ "?"

/-- What a reader knows of the document. -/
structure Source where
  anchors : List (Nat × Node)
  aliasLimit : Nat
  ending : Ending

/-- Reading counts the aliases that were followed. -/
abbrev Reading := StateT Nat (Except Trouble)

/-- A reader of nodes: from the document, the depth left and the way to the node. -/
abbrev Reader (α : Type) := Source → Nat → Way → Node → Reading α

/-- A mistake whose place is not yet known. -/
def mistaken {α : Type} (m : Mistake) : Reading α := throw (.mistake m none)

/-- Reading in which a mistake without a place gets one. -/
def located {α : Type} (mark : Mark) (way : Way) (r : Reading α) : Reading α := fun s =>
  match r s with
  | .error (.mistake m none) => .error (.mistake m (some (mark, way.describe)))
  | x => x

/-- The node that an alias stands for. -/
def follow (source : Source) : Node → Reading Node
  | .alias id mark => do
    let n ← get
    set (n + 1)
    if source.aliasLimit < n + 1 then throw .tooManyAliases
    else
      match source.anchors.find? (·.1 = id) with
      | some (_, n) => return n
      | none => throw (.unknownAnchor mark)
  | .cut => throw source.ending.trouble
  | n => return n

/-- A node that is not looked at. -/
def ignore (source : Source) (n : Node) : Reading Unit :=
  if n.isWhole then return () else throw source.ending.trouble

/-- The step to the value of a key. -/
def stepOf : Node → Step
  | .scalar s _ => .entry s.text
  | _ => .unnamed

/-- What a node is, where something else was expected. -/
def foundAt : Node → Reading Found
  | .scalar s _ =>
    match s.found false with
    | .ok f => return f
    | .error m => mistaken m
  | .list _ _ _ => return .list
  | .map _ _ _ => return .map
  | _ => throw .endOfText

/-- The mistake that a node is not what was expected. -/
def unexpected {α : Type} (n : Node) (expected : String) : Reading α := do
  mistaken (.wrongType (← foundAt n) expected)

/-- Items read one after the other. -/
def eachItem {α : Type} (read : Way → Node → Reading α) (way : Way) :
    Nat → List Node → Reading (List α)
  | _, [] => return []
  | n, x :: r => do
    let a ← read (.item n :: way) x
    let as ← eachItem read way (n + 1) r
    return a :: as

/-! ## Values of no particular type -/

/-- What becomes of a value whose type is found out later: it is kept as it is, with its tags and
with no key twice, or it is set aside until a reader asks for it. -/
inductive Purpose where
  | kept
  | setAside
  /-- The value is set aside as a key, unless it is the tag of this name. -/
  | keyBeside (tag : String)
  deriving DecidableEq

/-- What was expected of a value of no particular type. -/
def Purpose.expected : Purpose → String
  | .kept => "any YAML value"
  | .setAside => "any value"
  | .keyBeside tag => s!"a type tag `{tag}` or any other value"

/-- What becomes of the parts of a value. -/
def Purpose.ofParts : Purpose → Purpose
  | .kept => .kept
  | _ => .setAside

/-- The text of a floating-point number in the mistake about a key. -/
def keyFloat (bits : UInt64) : String :=
  match Decimal.Reading.ofBits bits with
  | .notANumber => ".nan"
  | .infinite negative => if negative then "-.inf" else ".inf"
  | .finite _ _ => String.ofList (Decimal.general false bits)

/-- The mistake that a key stands twice in a map. -/
def duplicateEntry (key : Value) : Mistake :=
  .other <| "duplicate entry " ++
    match key with
    | .null => "with null key"
    | .flag b => s!"with key `{b}`"
    | .int n => s!"with key {String.ofList (Text.decimalInt n)}"
    | .float bits => s!"with key {keyFloat bits}"
    | .text s => s!"with key {Text.quote s}"
    | _ => "in YAML map"

/-- The value that a scalar denotes. -/
def valueOf (purpose : Purpose) : Found → Reading Value
  | .null => return .null
  | .flag b => return .flag b
  | .int n => return .int n
  | .float bits => return .float bits
  | .text s => return .text s
  | f => mistaken (.wrongType f purpose.expected)

/-- The entries of a map read one after the other. -/
def eachEntry (purpose : Purpose) (read : Way → Node → Reading Value) (way : Way)
    (before : List Value) : List (Node × Node) → Reading (List (Value × Value))
  | [] => return []
  | (k, v) :: r => do
    let key ← read way k
    if let some key := if purpose = .kept then before.find? (·.sameKey key) else none then
      mistaken (duplicateEntry key)
    let value ← read (stepOf k :: way) v
    let rest ← eachEntry purpose read way (key :: before) r
    return (key, value) :: rest

/-- A node as a value, given how its parts are read; without that it is too deep. -/
def dynamicWith (purpose : Purpose) (parts : Option (Way → Node → Reading Value)) (source : Source)
    (way : Way) (node : Node) : Reading Value := do
  let n ← follow source node
  let inside (mark : Mark) : Reading (Way → Node → Reading Value) :=
    match parts with
    | some read => return read
    | none => throw (.tooDeep mark)
  let tagged (tag : Option Tag) (body : Reading Value) : Reading Value :=
    match ownTag? tag with
    | none => body
    | some name =>
      match purpose with
      | .kept => return .tagged name (← body)
      | _ => mistaken (.other "untagged and internally tagged enums do not support enum input")
  located n.mark way <| match n with
    | .scalar s _ => tagged s.tag do
      match s.found (ownTag? s.tag).isSome with
      | .ok f => valueOf purpose f
      | .error m => mistaken m
    | .list tag items mark => tagged tag do
      return .list (← eachItem (← inside mark) way 0 items)
    | .map tag entries mark => tagged tag do
      return .map (← eachEntry purpose (← inside mark) way [] entries)
    | _ => return .null

/-- A node as a value, to some depth. -/
def dynamic (purpose : Purpose) (source : Source) : Nat → Way → Node → Reading Value
  | 0 => dynamicWith purpose none source
  | depth + 1 => dynamicWith purpose (some (dynamic purpose.ofParts source depth)) source

/-- A node that is not too deep for its parts to be read. -/
def deeper {α : Type} (depth : Nat) (mark : Mark) (read : Nat → Reading α) : Reading α :=
  match depth with
  | 0 => throw (.tooDeep mark)
  | depth + 1 => read depth

/-- How deep collections may be nested. -/
def depthLimit : Nat := 128

/-- The value that a reader finds in a text that is one document. -/
def Reader.run {α : Type} (r : Reader α) (text : String) : Except Trouble α := do
  let d := Document.ofText text.toList
  let (a, _) ← (r ⟨d.anchors, 100 * d.events, d.ending⟩ depthLimit [] d.root).run 0
  if !d.complete then throw d.ending.trouble
  if d.more then throw .moreDocuments
  return a

end Rehearsal.Yaml
