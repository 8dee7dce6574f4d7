import Rehearsal.Data.Mistake
import Rehearsal.Json.Number
import Rehearsal.Json.Skip

/-!
# JSON documents

A JSON text as a tree of nodes with their places. Reading never fails: where the text stops being
JSON, the tree holds a broken node or an open list or object with the fault, so that a reader who
walks the tree in order meets the faults of the text and those of its own in the order in which
they stand. The value of an entry may also be passed over, which has faults of its own.
-/

namespace Rehearsal.Json

open Rehearsal.Text

/-- The name of an entry, the place after it and any blanks, and what is wrong with its value for a
reader who passes over it. -/
structure Key where
  text : String
  after : Place
  skipped : Option Fault

/-- How a list or an object ends. -/
inductive Tail where
  | closed
  | broken (fault : Fault)

/-- The fault of an end. -/
def Tail.fault? : Tail → Option Fault
  | .closed => none
  | .broken f => some f

/-- A part of a document. After a `broken` one nothing can be read. -/
inductive Node where
  | scalar (value : Data.Value) (start stop : Place)
  | list (items : List Node) (tail : Tail) (start stop : Place)
  | object (entries : List (Key × Node)) (tail : Tail) (start stop : Place)
  | broken (fault : Fault) (start : Place)

mutual

/-- The fault after which nothing can be read, if there is one in a node. -/
def Node.brokenAt? : Node → Option Fault
  | .list items tail _ _ => (itemsBrokenAt? items).orElse fun _ => tail.fault?
  | .object entries tail _ _ => (entriesBrokenAt? entries).orElse fun _ => tail.fault?
  | .broken f _ => some f
  | .scalar _ _ _ => none

/-- The first such fault of nodes. -/
def itemsBrokenAt? : List Node → Option Fault
  | [] => none
  | n :: r => n.brokenAt?.orElse fun _ => itemsBrokenAt? r

/-- The first such fault of entries. -/
def entriesBrokenAt? : List (Key × Node) → Option Fault
  | [] => none
  | (_, n) :: r => n.brokenAt?.orElse fun _ => entriesBrokenAt? r

end

/-! ## Strings -/

/-- The character of an escape with a code, from after its letter: one unit, or two that make a
pair. -/
def codeEscapeAt (c : Cursor) : Except Fault (Char × Cursor) := do
  let (n, c) ← c.hexUnit
  if isTrailingUnit n then throw (c.fault .loneUnit)
  if !isLeadingUnit n then return (Char.ofNat n, c)
  match c.rest with
  | [] => throw (c.fault .endInString)
  | '\\' :: t =>
    match t with
    | [] => throw (c.skip.fault .endInString)
    | 'u' :: _ => do
      let (m, c) ← (c.skipN 2).hexUnit
      if isTrailingUnit m then return (pairChar n m, c) else throw (c.fault .loneUnit)
    | _ => throw ((c.skip.skipBytes 1 t).fault .endOfHexEscape)
  | r => throw ((c.skipBytes 1 r).fault .endOfHexEscape)

/-- A string from after its opening quote, after some characters, newest first. -/
def stringFrom (fuel : Nat) (reversed : List Char) (c : Cursor) : Except Fault (List Char × Cursor) :=
  match fuel with
  | 0 => .error (c.fault .endInString)
  | fuel + 1 =>
    match c.rest with
    | [] => .error (c.fault .endInString)
    | '"' :: _ => .ok (reversed.reverse, c.skip)
    | '\\' :: r =>
      match r with
      | [] => .error (c.skip.fault .endInString)
      | 'u' :: _ => do
        let (x, c) ← codeEscapeAt (c.skipN 2)
        stringFrom fuel (x :: reversed) c
      | e :: _ =>
        match simpleEscape? e with
        | some x => stringFrom fuel (x :: reversed) (c.skipN 2)
        | none => .error ((c.skip.skipBytes 1 r).fault .invalidEscape)
    | x :: _ =>
      if x.toNat < 32 then .error (c.skip.fault .controlCharacter)
      else stringFrom fuel (x :: reversed) c.skip

/-- A string at its opening quote. -/
def stringAt (c : Cursor) : Except Fault (String × Cursor) := do
  let (s, c) ← stringFrom (c.rest.length + 1) [] c.skip
  return (String.ofList s, c)

/-! ## Values -/

/-- A scalar at a cursor. -/
def scalarAt (c : Cursor) : Except Fault (Data.Value × Cursor) := do
  match c.rest with
  | [] => throw (c.peekFault .endInValue)
  | 'n' :: _ => return (.null, ← c.word "null".toList)
  | 't' :: _ => return (.flag true, ← c.word "true".toList)
  | 'f' :: _ => return (.flag false, ← c.word "false".toList)
  | '"' :: _ =>
    let (s, c) ← stringAt c
    return (.text s, c)
  | x :: _ => if x = '-' ∨ isDigit x then numberAt c else throw (c.peekFault .expectedValue)

mutual

/-- A value at a cursor that stands at no blank; `levels` tells how many collections may be opened
inside each other. -/
def valueAt (fuel levels : Nat) (c : Cursor) : Node × Cursor :=
  match fuel, c.rest with
  | 0, _ => (.broken (c.fault .endInValue) c.place, c)
  | fuel + 1, '[' :: _ =>
    if levels = 0 then (.broken (c.peekFault .nestedTooDeep) c.place, c)
    else
      let (items, tail, c') := itemsAt fuel (levels - 1) true c.skip
      (.list items tail c.place c'.place, c')
  | fuel + 1, '\x7b' :: _ =>
    if levels = 0 then (.broken (c.peekFault .nestedTooDeep) c.place, c)
    else
      let (entries, tail, c') := entriesAt fuel (levels - 1) true c.skip
      (.object entries tail c.place c'.place, c')
  | _ + 1, _ =>
    match scalarAt c with
    | .error f => (.broken f c.place, c)
    | .ok (v, c') => (.scalar v c.place c'.place, c')

/-- The items of a list from a cursor on, with its end. -/
def itemsAt (fuel levels : Nat) (first : Bool) (c : Cursor) : List Node × Tail × Cursor :=
  match fuel with
  | 0 => ([], .broken (c.fault .endInList), c)
  | fuel + 1 =>
    let c := c.blanks
    match c.rest with
    | [] => ([], .broken (c.peekFault .endInList), c)
    | ']' :: _ => ([], .closed, c.skip)
    | x :: _ =>
      if !first && x ≠ ',' then ([], .broken (c.peekFault .expectedListSeparator), c)
      else
        let c := if first then c else c.skip.blanks
        match c.rest with
        | ']' :: _ => ([], .broken (c.peekFault .trailingComma), c)
        | _ =>
          match valueAt fuel levels c with
          | (.broken f start, c) => ([.broken f start], .closed, c)
          | (node, c) =>
            let (items, tail, c) := itemsAt fuel levels false c
            (node :: items, tail, c)

/-- The entries of an object from a cursor on, with its end. Where a value is broken, the rest is
found by passing over it. -/
def entriesAt (fuel levels : Nat) (first : Bool) (c : Cursor) : List (Key × Node) × Tail × Cursor :=
  match fuel with
  | 0 => ([], .broken (c.fault .endInObject), c)
  | fuel + 1 =>
    let c := c.blanks
    match c.rest with
    | [] => ([], .broken (c.peekFault .endInObject), c)
    | '\x7d' :: _ => ([], .closed, c.skip)
    | x :: _ =>
      if !first && x ≠ ',' then ([], .broken (c.peekFault .expectedObjectSeparator), c)
      else
        let c := if first then c else c.skip.blanks
        match c.rest with
        | [] => ([], .broken (c.peekFault .endInValue), c)
        | '\x7d' :: _ => ([], .broken (c.peekFault .trailingComma), c)
        | '"' :: _ =>
          match stringAt c with
          | .error f => ([], .broken f, c)
          | .ok (text, c) =>
            let c := c.blanks
            let after := c.place
            match c.rest with
            | ':' :: _ =>
              let c := c.skip.blanks
              let (node, stop) := valueAt fuel levels c
              let skipped : Except Fault Cursor :=
                match node.brokenAt? with
                | none => .ok stop
                | some _ => skipValue c
              match skipped with
              | .error f => ([(⟨text, after, some f⟩, node)], .closed, c)
              | .ok c =>
                let (entries, tail, c) := entriesAt fuel levels false c
                ((⟨text, after, none⟩, node) :: entries, tail, c)
            | [] =>
              let f := c.peekFault .endInObject
              ([(⟨text, after, some f⟩, .broken f c.place)], .closed, c)
            | _ =>
              let f := c.peekFault .expectedColon
              ([(⟨text, after, some f⟩, .broken f c.place)], .closed, c)
        | _ => ([], .broken (c.peekFault .keyNotString), c)

end

/-- How many collections may be opened inside each other. -/
def levelLimit : Nat := 127

/-- A document: its node, and a fault if anything but blanks follows it. -/
structure Document where
  node : Node
  trailing : Option Fault

/-- The document of a text. -/
def Document.ofText (s : List Char) : Document :=
  let c : Cursor := ⟨s, ⟨1, 0⟩⟩
  let (node, c) := valueAt (2 * s.length + 4) levelLimit c.blanks
  let c := c.blanks
  ⟨node, if c.rest.isEmpty then none else some (c.peekFault .trailingCharacters)⟩

mutual

/-- The value of a node, or its first fault. -/
def Node.value? : Node → Except Fault Data.Value
  | .scalar v _ _ => .ok v
  | .list items tail _ _ => do
    let vs ← itemValues? items
    match tail with
    | .closed => return .list vs
    | .broken f => .error f
  | .object entries tail _ _ => do
    let es ← entryValues? entries
    match tail with
    | .closed => return .map es
    | .broken f => .error f
  | .broken f _ => .error f

/-- The values of nodes. -/
def itemValues? : List Node → Except Fault (List Data.Value)
  | [] => .ok []
  | n :: r => do
    let v ← n.value?
    let vs ← itemValues? r
    return v :: vs

/-- The entries of an object. -/
def entryValues? : List (Key × Node) → Except Fault (List (Data.Value × Data.Value))
  | [] => .ok []
  | (k, n) :: r => do
    let v ← n.value?
    let es ← entryValues? r
    return (.text k.text, v) :: es

end

/-- Where a mistake about a node is told: scalars at their end, collections at their beginning. -/
def Node.place : Node → Place
  | .scalar _ _ stop => stop
  | .list _ _ start _ => start
  | .object _ _ start _ => start
  | .broken f _ => f.place

/-- Where a node begins. -/
def Node.start : Node → Place
  | .scalar _ start _ => start
  | .list _ _ start _ => start
  | .object _ _ start _ => start
  | .broken _ start => start

/-- Why a text is no value of a type. -/
inductive Refusal where
  | fault (f : Fault)
  | mistake (m : Data.Mistake) (place : Place)

/-- The place of a refusal in words. -/
def Place.describe (p : Place) : String := s!"line {p.line} column {p.column}"

/-- The wording of a refusal. -/
def Refusal.message : Refusal → String
  | .fault f => s!"{f.flaw.message} at {f.place.describe}"
  | .mistake m p => s!"{m.message .json} at {p.describe}"

/-- The value that a JSON text denotes. -/
def parse (s : List Char) : Except Fault Data.Value := do
  let d := Document.ofText s
  let v ← d.node.value?
  match d.trailing with
  | some f => .error f
  | none => .ok v

end Rehearsal.Json
