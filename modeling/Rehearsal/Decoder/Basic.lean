import Rehearsal.Json.Document
import Rehearsal.Path
import Rehearsal.Yaml.Reader

/-!
# Decoders

A decoder reads values of a type from dynamic values, from JSON texts and from YAML texts. The
three agree on what they accept but for what a format adds: a YAML scalar is read by the type that
is asked for, and the texts tell where a mistake is.

This module holds decoders of single values, of lists and of values that may be absent.
-/

namespace Rehearsal

open Data

/-- How values of a type are read. A dynamic value may have been set aside while a tag was looked
for, which shows in some mistakes. -/
structure Decoder (α : Type) where
  ofValue : (setAside : Bool) → Value → Except Mistake α
  ofJson : Json.Node → Except Json.Refusal α
  ofYaml : Yaml.Reader α

namespace Decoder

variable {α β : Type}

/-- The value of a JSON text. -/
def readJson (d : Decoder α) (text : List Char) : Except Json.Refusal α := do
  let doc := Json.Document.ofText text
  let a ← d.ofJson doc.node
  match doc.trailing with
  | some f => throw (.fault f)
  | none => return a

/-- The value of a YAML text. -/
def readYaml (d : Decoder α) (text : String) : Except Yaml.Trouble α := d.ofYaml.run text

/-- A function of what a decoder reads. -/
def map (f : α → β) (d : Decoder α) : Decoder β where
  ofValue setAside v := (d.ofValue setAside v).map f
  ofJson n := (d.ofJson n).map f
  ofYaml source depth way n := f <$> d.ofYaml source depth way n

/-- A mistake about a JSON node; a broken one has a fault instead. -/
def refuse (n : Json.Node) (m : Mistake) : Except Json.Refusal α :=
  match n with
  | .broken f _ => .error (.fault f)
  | n => .error (.mistake m n.place)

/-- What a JSON node is. -/
def foundIn : Json.Node → Found
  | .scalar v _ _ => v.found
  | .list _ _ _ _ => .list
  | .object _ _ _ _ => .map
  | _ => .null

/-- A decoder of JSON texts that goes through the dynamic value. -/
def jsonByValue (ofValue : Value → Except Mistake α) (n : Json.Node) : Except Json.Refusal α :=
  match n.value? with
  | .error f => .error (.fault f)
  | .ok v =>
    match ofValue v with
    | .ok a => .ok a
    | .error m => refuse n m

/-- A decoder of scalars: from a dynamic value, and from the scalar that a YAML text holds. -/
def ofScalar (expected : String) (ofValue : Value → Except Mistake α)
    (ofYamlScalar : Yaml.Scalar → Option (Except Mistake α)) : Decoder α where
  ofValue _ := ofValue
  ofJson n :=
    match n with
    | .scalar v _ _ =>
      match ofValue v with
      | .ok a => .ok a
      | .error m => refuse n m
    | n => refuse n (.wrongType (foundIn n) expected)
  ofYaml source _ way n := do
    let n ← Yaml.follow source n
    Yaml.located n.mark way do
      match n with
      | .scalar s _ =>
        match ofYamlScalar s with
        | some (.ok a) => return a
        | some (.error m) => Yaml.mistaken m
        | none => Yaml.unexpected n expected
      | n => Yaml.unexpected n expected

/-- A text that denotes a value of a type, or is refused in words. -/
def parsed (expected : String) (parse : String → Except String α) : Decoder α :=
  let ofText (s : String) : Except Mistake α :=
    match parse s with
    | .ok a => .ok a
    | .error text => .error (.other text)
  ofScalar expected
    (fun v => match v with
      | .text s => ofText s
      | v => .error (.wrongType v.found expected))
    (fun s => some (ofText s.text))

/-- A text. -/
def text : Decoder String := parsed "a string" .ok

/-- A path. -/
def path : Decoder Path := parsed "path string" .ok

/-- A boolean. -/
def flag : Decoder Bool :=
  ofScalar "a boolean"
    (fun v => match v with
      | .flag b => .ok b
      | v => .error (.wrongType v.found "a boolean"))
    (fun s => if s.mayBe "bool" then (Yaml.Scalar.flag? s.text).map .ok else none)

/-- A natural number below a bound, named by its type. -/
def nat (bound : Nat) (type : String) : Decoder Nat :=
  let ofInt (n : Int) : Except Mistake Nat :=
    if 0 ≤ n ∧ n < bound then .ok n.toNat else .error (.wrongValue (.int n) type)
  ofScalar type
    (fun v => match v with
      | .int n => ofInt n
      | v => .error (.wrongType v.found type))
    (fun s =>
      if s.mayBe "int" then
        (Yaml.Scalar.natural? s.text.toList).bind fun n => if n < Nat.pow 2 64 then some (ofInt n) else none
      else none)

/-- A value that may be absent. -/
def option (d : Decoder α) : Decoder (Option α) where
  ofValue setAside v :=
    match v with
    | .null => .ok none
    | v => (d.ofValue setAside v).map some
  ofJson n :=
    match n with
    | .scalar .null _ _ => .ok none
    | n => (d.ofJson n).map some
  ofYaml source depth way n := do
    let n ← Yaml.follow source n
    let given : Bool ←
      match n with
      | .void _ => pure false
      | .scalar s _ =>
        if s.style ≠ .plain then pure true
        else
          match s.tag with
          | some tag =>
            if tag ≠ Yaml.Scalar.standardTag "null" then pure true
            else if Yaml.Scalar.isNullText s.text then pure false
            else Yaml.mistaken (.wrongValue (.text s.text) "null")
          | none => pure !(s.text.isEmpty || Yaml.Scalar.isNullText s.text)
      | _ => pure true
    if given then some <$> d.ofYaml source depth way n else return none

/-- The items of a JSON list. -/
def jsonItems (d : Decoder α) : List Json.Node → Except Json.Refusal (List α)
  | [] => .ok []
  | n :: r => do
    let a ← d.ofJson n
    let as ← jsonItems d r
    return a :: as

/-- Whether a YAML node stands for an empty collection. -/
def isBlankNode : Yaml.Node → Bool
  | .void _ => true
  | .scalar s _ => s.isBlank
  | _ => false

/-- A list. -/
def list (d : Decoder α) : Decoder (List α) where
  ofValue setAside v :=
    match v with
    | .list items => items.mapM (d.ofValue setAside)
    | v => .error (.wrongType v.found "a sequence")
  ofJson n :=
    match n with
    | .list items tail _ _ => do
      let as ← jsonItems d items
      match tail with
      | .closed => return as
      | .broken f => throw (.fault f)
    | n => refuse n (.wrongType (foundIn n) "a sequence")
  ofYaml source depth way n := do
    let n ← Yaml.follow source n
    Yaml.located n.mark way do
      match n with
      | .list _ items mark =>
        Yaml.deeper depth mark fun depth => Yaml.eachItem (d.ofYaml source depth) way 0 items
      | n => if isBlankNode n then return [] else Yaml.unexpected n "a sequence"

end Decoder
end Rehearsal
