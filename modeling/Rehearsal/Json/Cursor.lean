import Rehearsal.Json.Literal
import Rehearsal.Text.Utf8

/-!
# Places in JSON texts

A cursor is the rest of a text with its place; lines count from one, columns count the bytes before a
place. What is wrong with a text is told with the place at the cursor, or with that of the character
that comes next.
-/

namespace Rehearsal.Json

open Rehearsal.Text

/-- A place in a text. -/
structure Place where
  line : Nat
  column : Nat

/-- The place after a character. -/
def Place.after (p : Place) (c : Char) : Place :=
  if c = '\n' then ⟨p.line + 1, 0⟩ else ⟨p.line, p.column + utf8Length [c]⟩

/-- The place of a fault at the next character: one byte further, if there is one. -/
def Place.peek (p : Place) : List Char → Place
  | [] => p
  | c :: _ => if c = '\n' then ⟨p.line + 1, 0⟩ else ⟨p.line, p.column + 1⟩

/-- What is wrong with a JSON text. -/
inductive Flaw where
  | endInList
  | endInObject
  | endInString
  | endInValue
  | expectedColon
  | expectedListSeparator
  | expectedObjectSeparator
  | expectedWord
  | expectedValue
  | invalidEscape
  | invalidNumber
  | numberOutOfRange
  | nestedTooDeep
  | controlCharacter
  | keyNotString
  | loneUnit
  | endOfHexEscape
  | trailingCharacters
  | trailingComma

/-- The wording of a flaw. -/
def Flaw.message : Flaw → String
  | .endInList => "EOF while parsing a list"
  | .endInObject => "EOF while parsing an object"
  | .endInString => "EOF while parsing a string"
  | .endInValue => "EOF while parsing a value"
  | .expectedColon => "expected `:`"
  | .expectedListSeparator => "expected `,` or `]`"
  | .expectedObjectSeparator => "expected `,` or `\x7d`"
  | .expectedWord => "expected ident"
  | .expectedValue => "expected value"
  | .invalidEscape => "invalid escape"
  | .invalidNumber => "invalid number"
  | .numberOutOfRange => "number out of range"
  | .nestedTooDeep => "recursion limit exceeded"
  | .controlCharacter => "control character (\\u0000-\\u001F) found while parsing a string"
  | .keyNotString => "key must be a string"
  | .loneUnit => "lone leading surrogate in hex escape"
  | .endOfHexEscape => "unexpected end of hex escape"
  | .trailingCharacters => "trailing characters"
  | .trailingComma => "trailing comma"

/-- A flaw and its place. -/
structure Fault where
  flaw : Flaw
  place : Place

/-- Where the rest of a text stands. -/
structure Cursor where
  rest : List Char
  place : Place

/-- The cursor after one character. -/
def Cursor.skip (c : Cursor) : Cursor :=
  match c.rest with
  | [] => c
  | x :: r => ⟨r, c.place.after x⟩

/-- The cursor after some characters. -/
def Cursor.skipN (c : Cursor) : Nat → Cursor
  | 0 => c
  | n + 1 => c.skip.skipN n

/-- The cursor after some bytes, which may end inside a character. -/
def Cursor.skipBytes (c : Cursor) : Nat → List Char → Cursor
  | _, [] => ⟨[], c.place⟩
  | 0, r => ⟨r, c.place⟩
  | n, x :: r =>
    if x.utf8Size ≤ n then skipBytes ⟨r, c.place.after x⟩ (n - x.utf8Size) r
    else ⟨r, ⟨c.place.line, c.place.column + n⟩⟩

/-- A flaw at the cursor. -/
def Cursor.fault (c : Cursor) (flaw : Flaw) : Fault := ⟨flaw, c.place⟩

/-- A flaw at the character that comes next. -/
def Cursor.peekFault (c : Cursor) (flaw : Flaw) : Fault := ⟨flaw, c.place.peek c.rest⟩

/-- The cursor after blanks. -/
def skipBlanks (place : Place) : List Char → Cursor
  | [] => ⟨[], place⟩
  | c :: r =>
    if c = ' ' ∨ c = '\t' ∨ c = '\n' ∨ c = '\r' then skipBlanks (place.after c) r else ⟨c :: r, place⟩

/-- The cursor after blanks. -/
def Cursor.blanks (c : Cursor) : Cursor := skipBlanks c.place c.rest

/-- The digits at a cursor, and the cursor after them. -/
def Cursor.digits (c : Cursor) : List Char × Cursor :=
  let d := c.rest.takeWhile isDigit
  (d, ⟨c.rest.drop d.length, ⟨c.place.line, c.place.column + d.length⟩⟩)

/-- The cursor after a word; the place of its first character that is missing is at fault. -/
def Cursor.word (c : Cursor) : List Char → Except Fault Cursor
  | [] => .ok c
  | x :: xs =>
    match c.rest with
    | [] => .error (c.fault .endInValue)
    | y :: _ => if x = y then c.skip.word xs else .error ((c.skipBytes 1 c.rest).fault .expectedWord)

/-- The unit of four hexadecimal digits at a cursor, and the cursor after it. -/
def Cursor.hexUnit (c : Cursor) : Except Fault (Nat × Cursor) :=
  let next := c.skipBytes 4 c.rest
  if utf8Length (c.rest.take 4) < 4 then .error (next.fault .endInString)
  else
    match c.rest with
    | a :: b :: d :: e :: _ =>
      match hexValue? a b d e with
      | some n => .ok (n, next)
      | none => .error (next.fault .invalidEscape)
    | _ => .error (next.fault .invalidEscape)

end Rehearsal.Json
