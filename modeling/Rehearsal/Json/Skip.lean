import Rehearsal.Json.Cursor

/-!
# Skipping JSON values

A value that nobody asks for is passed over. It has to be well formed, but escapes may denote nothing,
numbers may be too large, and it may be nested as deep as it likes; what is wrong with it is told
in words of its own in some places.
-/

namespace Rehearsal.Json

open Rehearsal.Text

/-- The cursor after a string from after its opening quote. -/
def skipString (fuel : Nat) (c : Cursor) : Except Fault Cursor :=
  match fuel with
  | 0 => .error (c.fault .endInString)
  | fuel + 1 =>
    match c.rest with
    | [] => .error (c.fault .endInString)
    | '"' :: _ => .ok c.skip
    | '\\' :: r =>
      match r with
      | [] => .error (c.skip.fault .endInString)
      | 'u' :: _ => do
        let (_, c) ← (c.skipN 2).hexUnit
        skipString fuel c
      | e :: _ =>
        if (simpleEscape? e).isSome then skipString fuel (c.skipN 2)
        else .error ((c.skip.skipBytes 1 r).fault .invalidEscape)
    | x :: _ => if x.toNat < 32 then .error (c.fault .controlCharacter) else skipString fuel c.skip

/-- The cursor after an exponent, from its mark on. -/
def skipExponent (c : Cursor) : Except Fault Cursor :=
  let c := c.skip
  let c := if c.rest.head? = some '+' ∨ c.rest.head? = some '-' then c.skip else c
  let (ds, stop) := c.digits
  if ds.isEmpty then .error ((c.skipBytes 1 c.rest).fault .invalidNumber) else .ok stop

/-- The cursor after a number without its sign. -/
def skipNumber (c : Cursor) : Except Fault Cursor :=
  let orExponent (c : Cursor) : Except Fault Cursor :=
    if c.rest.head? = some 'e' ∨ c.rest.head? = some 'E' then skipExponent c else .ok c
  let (whole, stop) := c.digits
  match whole with
  | [] => .error ((c.skipBytes 1 c.rest).fault .invalidNumber)
  | '0' :: _ :: _ => .error (c.skip.peekFault .invalidNumber)
  | _ =>
    if stop.rest.head? = some '.' then
      let (fraction, stop) := stop.skip.digits
      if fraction.isEmpty then .error (stop.peekFault .invalidNumber) else orExponent stop
    else orExponent stop

/-- A collection that is open while values are passed over. -/
inductive Bracket where
  | list
  | object
  deriving DecidableEq

namespace Bracket

/-- The character that closes a collection. -/
def closing : Bracket → Char
  | .list => ']'
  | .object => '\x7d'

/-- The flaw of a text that ends inside a collection. -/
def ended : Bracket → Flaw
  | .list => .endInList
  | .object => .endInObject

/-- The flaw of a collection that does not go on after a value. -/
def unseparated : Bracket → Flaw
  | .list => .expectedListSeparator
  | .object => .expectedObjectSeparator

end Bracket

/-- What comes after a value or an opening bracket: the next value of the innermost collection that
is open, or the end of all. -/
inductive Continuation where
  | value (opened : List Bracket) (c : Cursor)
  | done (c : Cursor)

/-- The cursor after the name of an entry and its colon. -/
def skipName (c : Cursor) : Except Fault Cursor := do
  let c := c.blanks
  match c.rest with
  | '"' :: _ => do
    let c ← skipString (c.rest.length + 1) c.skip
    let c := c.blanks
    match c.rest with
    | ':' :: _ => return c.skip
    | [] => throw (c.peekFault .endInObject)
    | _ => throw (c.peekFault .expectedColon)
  | [] => throw (c.peekFault .endInObject)
  | _ => throw (c.peekFault .keyNotString)

/-- The way to the next value, given the open collections and whether a comma must come first. -/
def skipToValue (fuel : Nat) (afterValue : Bool) (opened : List Bracket) (c : Cursor) :
    Except Fault Continuation :=
  match fuel, opened with
  | _, [] => .ok (.done c)
  | 0, _ => .ok (.done c)
  | fuel + 1, b :: outer =>
    let c := c.blanks
    let onward (c : Cursor) : Except Fault Continuation :=
      match b with
      | .list => .ok (.value opened c)
      | .object => (skipName c).map (.value opened)
    match c.rest with
    | [] => .error (c.peekFault b.ended)
    | x :: _ =>
      if x = ',' && afterValue then onward c.skip
      else if x = b.closing then skipToValue fuel true outer c.skip
      else if afterValue then .error (c.peekFault b.unseparated)
      else onward c

/-- The cursor after a value, inside open collections. -/
def skipIn (fuel : Nat) (opened : List Bracket) (c : Cursor) : Except Fault Cursor :=
  match fuel with
  | 0 => .ok c
  | fuel + 1 => do
    let c := c.blanks
    let next ←
      match c.rest with
      | [] => throw (c.peekFault .endInValue)
      | 'n' :: _ => skipToValue fuel true opened (← c.word "null".toList)
      | 't' :: _ => skipToValue fuel true opened (← c.word "true".toList)
      | 'f' :: _ => skipToValue fuel true opened (← c.word "false".toList)
      | '-' :: _ => skipToValue fuel true opened (← skipNumber c.skip)
      | '"' :: r => skipToValue fuel true opened (← skipString (r.length + 1) c.skip)
      | '[' :: _ => skipToValue fuel false (.list :: opened) c.skip
      | '\x7b' :: _ => skipToValue fuel false (.object :: opened) c.skip
      | x :: _ =>
        if isDigit x then skipToValue fuel true opened (← skipNumber c)
        else throw (c.peekFault .expectedValue)
    match next with
    | .done c => return c
    | .value opened c => skipIn fuel opened c

/-- The cursor after a value that is passed over. -/
def skipValue (c : Cursor) : Except Fault Cursor := skipIn (2 * c.rest.length + 4) [] c

end Rehearsal.Json
