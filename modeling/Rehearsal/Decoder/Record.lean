import Rehearsal.Decoder.Basic

/-!
# Decoders of records

A record is read field by field into a record that holds what is left out: from a map by names, in
any order and with unknown names left aside, or from a list in the order of the fields. No field
may stand twice, and the first required field that is missing is the one that is told.
-/

namespace Rehearsal

open Data

/-- Whether a field must be given. -/
inductive Presence where
  /-- It must be given. -/
  | required
  /-- A map may leave it out, a list may not. -/
  | inLists
  /-- It may be left out. -/
  | free
  deriving DecidableEq

/-- A field: its name, whether it must be given, and how what is read is put into the record. -/
structure Field (σ : Type) where
  name : String
  presence : Presence
  read : Decoder (σ → σ)

/-- A field of a record, given how it is put in. -/
def field {σ α : Type} (name : String) (presence : Presence) (d : Decoder α) (put : α → σ → σ) :
    Field σ := ⟨name, presence, d.map put⟩

namespace Record

variable {σ : Type}

/-- A record while it is read, with the names that were given. -/
structure Partial (σ : Type) where
  record : σ
  given : List String

/-- The mistake of the first required field that was not given, if there is one. -/
def missing (fields : List (Field σ)) (given : List String) : Option Mistake :=
  (fields.find? fun f => f.presence = .required && !given.contains f.name).map fun f =>
    .missingField f.name

/-- A record of which all parts were read. -/
def finish (fields : List (Field σ)) (p : Partial σ) : Except Mistake σ :=
  match missing fields p.given with
  | some m => .error m
  | none => .ok p.record

/-- The record with one more field. -/
def Partial.put (p : Partial σ) (f : Field σ) (change : σ → σ) : Partial σ :=
  ⟨change p.record, f.name :: p.given⟩

/-- The field of a name. -/
def named (fields : List (Field σ)) (name : String) : Option (Field σ) :=
  fields.find? (·.name = name)

/-- How a record of some fields is named where a list is too short. -/
def expectedLength (typeName : String) (fields : List (Field σ)) : String :=
  s!"{typeName} with {elements fields.length}"

/-! ## From dynamic values -/

/-- The field that a key names; one that was set aside may also be a number. -/
def keyed (setAside : Bool) (fields : List (Field σ)) (key : Value) :
    Except Mistake (Option (Field σ)) :=
  match key with
  | .text name => .ok (named fields name)
  | .int n =>
    if setAside && 0 ≤ n then .ok fields[n.toNat]?
    else .error (.wrongType (.int n) "field identifier")
  | v => .error (.wrongType v.found "field identifier")

/-- The entries of a map put into a record. -/
def ofEntries (setAside : Bool) (fields : List (Field σ)) (p : Partial σ) :
    List (Value × Value) → Except Mistake (Partial σ)
  | [] => .ok p
  | (k, v) :: r => do
    match ← keyed setAside fields k with
    | none => ofEntries setAside fields p r
    | some f =>
      if p.given.contains f.name then .error (.duplicateField f.name)
      else
        let change ← f.read.ofValue setAside v
        ofEntries setAside fields (p.put f change) r

/-- The items of a list put into a record, and how many there are for the fields. -/
def ofItems (setAside : Bool) (short : Nat → Mistake) (count : Nat) (record : σ) :
    List (Field σ) → List Value → Except Mistake σ
  | [], _ => .ok record
  | f :: fs, [] =>
    if f.presence = .free then ofItems setAside short count record fs [] else .error (short count)
  | f :: fs, v :: r => do
    let change ← f.read.ofValue setAside v
    ofItems setAside short (count + 1) (change record) fs r

/-- A record from a dynamic value. -/
def ofValue (typeName : String) (init : σ) (fields : List (Field σ)) (setAside : Bool) (v : Value) :
    Except Mistake σ :=
  match v with
  | .map entries => do
    finish fields (← ofEntries setAside fields ⟨init, []⟩ entries)
  | .list items => do
    let short (n : Nat) : Mistake := .wrongLength n (expectedLength typeName fields)
    let record ← ofItems setAside short 0 init fields items
    if fields.length < items.length then
      .error (.wrongLength items.length
        (if setAside then elements fields.length ++ " in sequence" else "fewer elements in array"))
    else .ok record
  | v => .error (.wrongType v.found typeName)

/-! ## From JSON texts -/

/-- The entries of a JSON object put into a record. -/
def ofJsonEntries (fields : List (Field σ)) (p : Partial σ) :
    List (Json.Key × Json.Node) → Except Json.Refusal (Partial σ)
  | [] => .ok p
  | (k, n) :: r => do
    match named fields k.text with
    | none =>
      match k.skipped with
      | some f => throw (.fault f)
      | none => ofJsonEntries fields p r
    | some f =>
      if p.given.contains f.name then throw (.mistake (.duplicateField f.name) k.after)
      else
        let change ← f.read.ofJson n
        ofJsonEntries fields (p.put f change) r

/-- The items of a JSON list put into a record; `none` at the place of a missing one. -/
def ofJsonItems (count : Nat) (record : σ) :
    List (Field σ) → List Json.Node → Except Json.Refusal (Except Nat (σ × List Json.Node))
  | [], rest => .ok (.ok (record, rest))
  | f :: fs, [] =>
    if f.presence = .free then ofJsonItems count record fs [] else .ok (.error count)
  | f :: fs, n :: r => do
    let change ← f.read.ofJson n
    ofJsonItems (count + 1) (change record) fs r

/-- The fault of a list that goes on after all fields were read. -/
def tooLong (n : Json.Node) : Json.Fault :=
  match n with
  | .broken ⟨.endInValue, place⟩ start =>
    ⟨.trailingCharacters, if place.line = start.line ∧ place.column = start.column then place
      else ⟨start.line, start.column + 1⟩⟩
  | n => ⟨.trailingCharacters, ⟨n.start.line, n.start.column + 1⟩⟩

/-- A record from a JSON node. -/
def ofJson (typeName : String) (init : σ) (fields : List (Field σ)) (n : Json.Node) :
    Except Json.Refusal σ :=
  match n with
  | .object entries tail _ stop => do
    let p ← ofJsonEntries fields ⟨init, []⟩ entries
    match tail with
    | .broken f => throw (.fault f)
    | .closed =>
      match finish fields p with
      | .ok record => return record
      | .error m => throw (.mistake m stop)
  | .list items tail _ stop => do
    match ← ofJsonItems 0 init fields items, tail with
    | .error count, .closed =>
      throw (.mistake (.wrongLength count (expectedLength typeName fields)) stop)
    | .error _, .broken f => throw (.fault f)
    | .ok (record, []), .closed => return record
    | .ok (_, []), .broken f =>
      match f.flaw with
      | .expectedListSeparator => throw (.fault { f with flaw := .trailingCharacters })
      | _ => throw (.fault f)
    | .ok (_, n :: _), _ => throw (.fault (tooLong n))
  | n => Decoder.refuse n (.wrongType (Decoder.foundIn n) typeName)

/-! ## From YAML texts -/

/-- The entries of a YAML map put into a record. -/
def ofYamlEntries (fields : List (Field σ)) (source : Yaml.Source) (depth : Nat) (way : Yaml.Way)
    (p : Partial σ) : List (Yaml.Node × Yaml.Node) → Yaml.Reading (Partial σ)
  | [] => return p
  | (k, n) :: r => do
    let name ← (Decoder.parsed "field identifier" .ok : Decoder String).ofYaml source depth way k
    match named fields name with
    | none => do
      Yaml.ignore source n
      ofYamlEntries fields source depth way p r
    | some f =>
      if p.given.contains f.name then Yaml.mistaken (.duplicateField f.name)
      else do
        let change ← f.read.ofYaml source depth (Yaml.stepOf k :: way) n
        ofYamlEntries fields source depth way (p.put f change) r

/-- A record from a YAML node; where nothing stands, it is a map without entries. -/
def ofYaml (typeName : String) (init : σ) (fields : List (Field σ)) : Yaml.Reader σ :=
  fun source depth way n => do
    let n ← Yaml.follow source n
    Yaml.located n.mark way do
      let entries : Option (Yaml.Reading (Partial σ)) :=
        match n with
        | .map _ entries mark => some <| Yaml.deeper depth mark fun depth =>
          ofYamlEntries fields source depth way ⟨init, []⟩ entries
        | n => if Decoder.isBlankNode n then some (return ⟨init, []⟩) else none
      match entries with
      | none => Yaml.unexpected n typeName
      | some read =>
        match finish fields (← read) with
        | .ok record => return record
        | .error m => Yaml.mistaken m

end Record

/-- The decoder of a record type: its name, a record with what may be left out, and its fields. -/
def Decoder.record {σ : Type} (typeName : String) (init : σ) (fields : List (Field σ)) : Decoder σ where
  ofValue := Record.ofValue typeName init fields
  ofJson := Record.ofJson typeName init fields
  ofYaml := Record.ofYaml typeName init fields

end Rehearsal
