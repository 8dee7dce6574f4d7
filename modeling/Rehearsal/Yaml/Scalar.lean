import Rehearsal.Data.Mistake
import Rehearsal.Yaml.Token

/-!
# What scalars denote

A plain scalar is an absent value, a boolean, a number or a text, by its spelling; tags of the
standard kind ask for one of these. Digits after a leading zero are a text.
-/

namespace Rehearsal.Yaml

open Rehearsal.Data Rehearsal.Text

/-- A scalar as it is written. -/
structure Scalar where
  text : String
  style : Style
  tag : Option Tag

/-- Whether a tag is one of the document's own: it begins with an exclamation mark. -/
def Tag.isOwn (t : Tag) : Bool := t.head? = some 0x21

namespace Scalar

/-- The spellings of an absent value. -/
def isNullText (s : String) : Bool := ["null", "Null", "NULL", "~"].contains s

/-- The boolean that a text spells. -/
def flag? (s : String) : Option Bool :=
  if ["true", "True", "TRUE"].contains s then some true
  else if ["false", "False", "FALSE"].contains s then some false
  else none

/-- Digits after a leading zero, with an optional sign. -/
def isZeroLed (s : List Char) : Bool :=
  let body :=
    match s with
    | '-' :: r => r
    | '+' :: r => r
    | r => r
  match body with
  | '0' :: d :: r => (d :: r).all isDigit
  | _ => false

/-- Whether a text starts with a sign. -/
def isSigned (s : List Char) : Bool := s.head? = some '+' || s.head? = some '-'

/-- The base that a beginning names, and the digits after it. -/
def base? : List Char → Option (Nat × List Char)
  | '0' :: 'x' :: r => some (16, r)
  | '0' :: 'o' :: r => some (8, r)
  | '0' :: 'b' :: r => some (2, r)
  | _ => none

/-- A natural number: decimal, or with the beginning of another base, after an optional plus. -/
def natural? (s : List Char) : Option Nat :=
  let body :=
    match s with
    | '+' :: r => r
    | r => r
  let based := (base? body).bind fun (base, digits) => natOfDigits? base digits
  match based with
  | some n => some n
  | none => if isSigned body || isZeroLed s then none else natOfDigits? 10 body

/-- An integer with a minus sign: decimal, or with the beginning of another base. -/
def negative? (s : List Char) : Option Int :=
  match s with
  | '-' :: body =>
    let based := (base? body).bind fun (base, digits) => natOfDigits? base digits
    match based with
    | some n => some (-(n : Int))
    | none => if isZeroLed s then none else (natOfDigits? 10 body).map fun n => -(n : Int)
  | _ => none

/-- The integer that a text spells, up to 128 bits. -/
def integer? (s : List Char) : Option Found :=
  match natural? s with
  | some n =>
    if n < Nat.pow 2 64 then some (.int n)
    else if n < Nat.pow 2 128 then some (.wide n "u128")
    else none
  | none =>
    match negative? s with
    | some n =>
      if -Int.pow 2 63 ≤ n then some (.int n)
      else if -Int.pow 2 127 ≤ n then some (.wide n "i128")
      else none
    | none => none

/-- The bits of a double without sign that is no number. -/
def notANumberBits : UInt64 := 0x7FF8000000000000

/-- The bits of positive infinity. -/
def infinityBits : UInt64 := 0x7FF0000000000000

/-- The bits of negative infinity. -/
def negativeInfinityBits : UInt64 := 0xFFF0000000000000

/-- The floating-point number that a text spells; one that is too large spells none. -/
def float? (s : String) : Option UInt64 :=
  let cs := s.toList
  let unsigned :=
    match cs with
    | '+' :: r => r
    | r => r
  if cs.head? = some '+' && isSigned unsigned then none
  else if [".inf", ".Inf", ".INF"].contains (String.ofList unsigned) then some infinityBits
  else if ["-.inf", "-.Inf", "-.INF"].contains s then some negativeInfinityBits
  else if [".nan", ".NaN", ".NAN"].contains s then some notANumberBits
  else
    (Decimal.readNumeral? unsigned).bind fun n =>
      let bits := n.bits
      if Decimal.isFinite bits then some bits else none

/-- What a plain scalar without a tag denotes. -/
def plain (s : String) : Found :=
  if s.isEmpty || isNullText s then .null
  else
    match flag? s with
    | some b => .flag b
    | none =>
      match integer? s.toList with
      | some n => n
      | none =>
        match (if isZeroLed s.toList then none else float? s) with
        | some bits => .float bits
        | none => .text s

/-- The tag of a standard type. -/
def standardTag (name : String) : Tag := .ofText ("tag:yaml.org,2002:" ++ name)

/-- What a scalar denotes. A tag of the standard kind asks for its type; `tagTaken` says that the
tag was already used. -/
def found (tagTaken : Bool) (s : Scalar) : Except Mistake Found :=
  let wrong (what : String) : Except Mistake Found := .error (.wrongValue (.text s.text) what)
  match (if tagTaken then none else s.tag) with
  | some tag =>
    if tag = standardTag "bool" then
      match flag? s.text with
      | some b => .ok (.flag b)
      | none => wrong "a boolean"
    else if tag = standardTag "int" then
      match integer? s.text.toList with
      | some n => .ok n
      | none => wrong "an integer"
    else if tag = standardTag "float" then
      match float? s.text with
      | some bits => .ok (.float bits)
      | none => wrong "a float"
    else if tag = standardTag "null" then
      if isNullText s.text then .ok .null else wrong "null"
    else if Tag.isOwn tag && s.style = .plain then .ok (plain s.text)
    else .ok (.text s.text)
  | none => .ok (if s.style = .plain then plain s.text else .text s.text)

/-- Whether a scalar may spell a value of a standard type: it is plain, or a literal block with the
tag of that type. -/
def mayBe (type : String) (s : Scalar) : Bool :=
  s.style = .plain || (s.style = .literal && s.tag = some (standardTag type))

/-- Whether nothing stands where the scalar stands. -/
def isBlank (s : Scalar) : Bool := s.style = .plain && s.text.isEmpty

end Scalar

/-- The name of a tag of the document's own: what follows the exclamation mark, or that mark if
nothing does. A tag that is no text has no name. -/
def ownTag? (tag : Option Tag) : Option String :=
  tag.bind fun t =>
    match t with
    | [] => none
    | first :: rest =>
      if !Tag.isOwn t then none
      else (Text.decode? (if rest.isEmpty then [first] else rest)).map String.ofList

end Rehearsal.Yaml
