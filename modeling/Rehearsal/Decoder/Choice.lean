import Rehearsal.Decoder.Record

/-!
# Decoders of alternatives

A choice is one of some names. A tagged value is a record in which one entry, the tag, says which
fields the others are: the entries are set aside until the tag is known.
-/

namespace Rehearsal

open Data

namespace Choice

variable {α : Type}

/-- The value of a name. -/
def named (values : List (String × α)) (name : String) : Except Mistake α :=
  match values.find? (·.1 = name) with
  | some (_, a) => .ok a
  | none => .error (.unknownVariant name (values.map (·.1)))

/-- The value that an identifier names, whatever its tags; one that was set aside may also be a
number. -/
def identified (setAside : Bool) (values : List (String × α)) (v : Value) : Except Mistake α :=
  match v.untagged with
  | .text name => named values name
  | .int n =>
    if setAside && 0 ≤ n then
      match values[n.toNat]? with
      | some (_, a) => .ok a
      | none => .error (.wrongValue (.int n) s!"variant index 0 <= i < {values.length}")
    else .error (.wrongType (.int n) "variant identifier")
  | v => .error (.wrongType v.found "variant identifier")

/-- A choice from a dynamic value: a name, or a map from the name to nothing. -/
def ofValue (values : List (String × α)) (setAside : Bool) (v : Value) : Except Mistake α :=
  match v with
  | .text name => named values name
  | .map [(k, body)] => do
    let a ← identified setAside values k
    match body, setAside with
    | .null, _ => return a
    | .map [], true => return a
    | body, _ => throw (.wrongType body.found "unit")
  | .map _ => .error (.wrongValue .map "map with a single key")
  | v => .error (.wrongType v.found "string or map")

/-- Nothing, where a choice was made by a YAML tag. -/
def nothing (way : Yaml.Way) (n : Yaml.Node) : Yaml.Reading Unit :=
  Yaml.located n.mark way do
    match n with
    | .scalar s _ =>
      if s.style = .plain && (s.text.isEmpty || Yaml.Scalar.isNullText s.text) then return
      else Yaml.mistaken (.wrongValue (.text s.text) "null")
    | .list _ _ _ => Yaml.mistaken (.wrongType .list "unit")
    | .map _ _ _ => Yaml.mistaken (.wrongType .map "unit")
    | _ => return ()

/-- A choice from a YAML node: a name, or a tag of that name before nothing. -/
def ofYaml (values : List (String × α)) : Yaml.Reader α := fun source _ way n => do
  let n ← Yaml.follow source n
  let byTag (tag : Option Yaml.Tag) (otherwise : Yaml.Reading α) : Yaml.Reading α :=
    match Yaml.ownTag? tag with
    | none => otherwise
    | some name =>
      match named values name with
      | .error m => Yaml.mistaken m
      | .ok a => do
        nothing way n
        return a
  let refuse (found : Found) : Yaml.Reading α :=
    Yaml.located n.mark way (Yaml.mistaken (.wrongType found "a YAML tag starting with '!'"))
  match n with
  | .scalar s _ => byTag s.tag <| Yaml.located n.mark way do
    match named values s.text with
    | .ok a => return a
    | .error m => Yaml.mistaken m
  | .list tag _ _ => byTag tag (refuse .list)
  | .map tag _ _ => byTag tag (refuse .map)
  | _ => throw .endOfText

end Choice

/-- The decoder of one of some names. -/
def Decoder.choice {α : Type} (values : List (String × α)) : Decoder α where
  ofValue := Choice.ofValue values
  ofJson := Decoder.jsonByValue (Choice.ofValue values false)
  ofYaml := Choice.ofYaml values

/-- An alternative of a tagged type: its name, and how the entries beside the tag are read. -/
structure Alternative (α : Type) where
  name : String
  read : Value → Except Mistake α

/-- An alternative with fields. -/
def Alternative.record {α σ : Type} (typeName name : String) (init : σ) (fields : List (Field σ))
    (make : σ → α) : Alternative α where
  name := name
  read v := (Record.ofValue typeName init fields true v).map make

/-- An alternative without fields; a map may hold any entries. -/
def Alternative.bare {α : Type} (name : String) (a : α) : Alternative α where
  name := name
  read v :=
    match v with
    | .list items =>
      if items.isEmpty then .ok a else .error (.wrongLength items.length "0 elements in sequence")
    | _ => .ok a

namespace Tagged

variable {α : Type}

/-- The names of alternatives, with the alternatives. -/
def byName (alternatives : List (Alternative α)) : List (String × Alternative α) :=
  alternatives.map fun a => (a.name, a)

mutual

/-- Whether a value can be set aside: nothing in it has a tag of the document's own. -/
def canSetAside : Value → Bool
  | .list items => allCanSetAside items
  | .map entries => entriesCanSetAside entries
  | .tagged _ _ => false
  | _ => true

/-- Whether values can be set aside. -/
def allCanSetAside : List Value → Bool
  | [] => true
  | v :: r => canSetAside v && allCanSetAside r

/-- Whether entries can be set aside. -/
def entriesCanSetAside : List (Value × Value) → Bool
  | [] => true
  | (k, v) :: r => canSetAside k && canSetAside v && entriesCanSetAside r

end

/-- The mistake that a value with a tag of its own cannot be set aside. -/
def notSetAside : Mistake := .other "untagged and internally tagged enums do not support enum input"

/-- A value that can be set aside. -/
def setAside (v : Value) : Except Mistake Value := if canSetAside v then .ok v else .error notSetAside

/-- The alternative of a tag, and the other entries in order. -/
def split (tag : String) (alternatives : List (Alternative α)) (chosen : Option (Alternative α)) :
    List (Value × Value) → Except Mistake (Option (Alternative α) × List (Value × Value))
  | [] => .ok (chosen, [])
  | (k, v) :: r => do
    let isTag : Bool :=
      match k with
      | .text name => name = tag
      | _ => false
    if isTag then
      if chosen.isSome then throw (.duplicateField tag)
      let a ← Choice.identified false (byName alternatives) v
      split tag alternatives (some a) r
    else
      let k ← setAside k
      let v ← setAside v
      let (chosen, rest) ← split tag alternatives chosen r
      return (chosen, (k, v) :: rest)

/-- A tagged value from a dynamic value: a map with the tag, or a list that starts with it. -/
def ofValue (typeName tag : String) (alternatives : List (Alternative α)) (v : Value) :
    Except Mistake α :=
  match v with
  | .map entries => do
    let (chosen, rest) ← split tag alternatives none entries
    match chosen with
    | none => throw (.missingField tag)
    | some a => a.read (.map rest)
  | .list [] => .error (.missingField tag)
  | .list (v :: r) => do
    let a ← Choice.identified false (byName alternatives) v
    let rest ← r.mapM setAside
    a.read (.list rest)
  | v => .error (.wrongType v.found s!"internally tagged enum {typeName}")

/-- The alternative that a YAML scalar names. -/
def identifiedYaml (alternatives : List (Alternative α)) : Yaml.Reader (Alternative α) :=
  fun source _ way n => do
    let n ← Yaml.follow source n
    Yaml.located n.mark way do
      match n with
      | .scalar s _ =>
        match Choice.named (byName alternatives) s.text with
        | .ok a => return a
        | .error m => Yaml.mistaken m
      | n => Yaml.unexpected n "variant identifier"

/-- The alternative of a tag in a YAML map, and the other entries in order. -/
def splitYaml (tag : String) (alternatives : List (Alternative α)) (source : Yaml.Source)
    (depth : Nat) (way : Yaml.Way) (chosen : Option (Alternative α)) :
    List (Yaml.Node × Yaml.Node) → Yaml.Reading (Option (Alternative α) × List (Value × Value))
  | [] => return (chosen, [])
  | (k, n) :: r => do
    let key ← Yaml.dynamic (.keyBeside tag) source depth way k
    if key == .text tag then
      if chosen.isSome then Yaml.mistaken (.duplicateField tag)
      else do
        let a ← identifiedYaml alternatives source depth (Yaml.stepOf k :: way) n
        splitYaml tag alternatives source depth way (some a) r
    else do
      let v ← Yaml.dynamic .setAside source depth (Yaml.stepOf k :: way) n
      let (chosen, rest) ← splitYaml tag alternatives source depth way chosen r
      return (chosen, (key, v) :: rest)

/-- A tagged value from a YAML node. Mistakes in what was set aside have no place of their own. -/
def ofYaml (typeName tag : String) (alternatives : List (Alternative α)) : Yaml.Reader α :=
  fun source depth way n => do
    let n ← Yaml.follow source n
    let expected := s!"internally tagged enum {typeName}"
    let guarded {β : Type} (tag : Option Yaml.Tag) (body : Yaml.Reading β) : Yaml.Reading β :=
      if (Yaml.ownTag? tag).isSome then Yaml.mistaken (.wrongType .tagged expected) else body
    let (a, content) ← Yaml.located n.mark way do
      match n with
      | .map own entries mark => guarded own <| Yaml.deeper depth mark fun depth => do
        let (chosen, rest) ← splitYaml tag alternatives source depth way none entries
        match chosen with
        | none => Yaml.mistaken (.missingField tag)
        | some a => return (a, Value.map rest)
      | .list own items mark => guarded own <| Yaml.deeper depth mark fun depth => do
        match items with
        | [] => Yaml.mistaken (.missingField tag)
        | first :: r => do
          let a ← identifiedYaml alternatives source depth (.item 0 :: way) first
          let vs ← Yaml.eachItem (Yaml.dynamic .setAside source depth) way 1 r
          return (a, Value.list vs)
      | .scalar s _ => guarded s.tag <| Yaml.unexpected n expected
      | _ => Yaml.mistaken (.wrongType .null expected)
    match a.read content with
    | .ok x => return x
    | .error m => Yaml.mistaken m

end Tagged

/-- The decoder of a type whose alternatives are told by a tag. -/
def Decoder.tagged {α : Type} (typeName tag : String) (alternatives : List (Alternative α)) : Decoder α where
  ofValue _ := Tagged.ofValue typeName tag alternatives
  ofJson := Decoder.jsonByValue (Tagged.ofValue typeName tag alternatives)
  ofYaml := Tagged.ofYaml typeName tag alternatives

end Rehearsal
