import Rehearsal.Text.Numeral
import Rehearsal.Text.Utf8

/-!
# Percent encoding

The bytes of a text with two hexadecimal digits after a percent sign for those that may not stand
in some part of a URL. What is not ASCII, and control characters, may stand in no part.
-/

namespace Rehearsal.Url

open Text

/-- A part of a URL, by the characters that it escapes. -/
inductive Part where
  | opaquePath
  | fragment
  | path
  | userInfo
  | query
  | specialQuery
  deriving DecidableEq

/-- The ASCII characters besides control characters that a part escapes. -/
def Part.escapes : Part → List Char
  | .opaquePath => []
  | .fragment => [' ', '"', '<', '>', Char.ofNat 96]
  | .path => [' ', '"', '<', '>', Char.ofNat 96, '#', '?', '\x7b', '\x7d']
  | .userInfo =>
    [' ', '"', '<', '>', Char.ofNat 96, '#', '?', '\x7b', '\x7d', '/', ':', ';', '=', '@', '[', '\\',
      ']', '^', '|']
  | .query => [' ', '"', '#', '<', '>']
  | .specialQuery => [' ', '"', '#', '<', '>', '\'']

/-- Two upper-case hexadecimal digits. -/
def byteDigits (b : UInt8) : List Char :=
  [(digit (b.toNat / 16)).toUpper, (digit (b.toNat % 16)).toUpper]

/-- An escaped byte. -/
def escapeByte (b : UInt8) : List Char := '%' :: byteDigits b

/-- A character as it stands in a part. -/
def encodeChar (part : Part) (c : Char) : List Char :=
  if c.toNat < 32 || 126 < c.toNat || part.escapes.contains c then (utf8Char c).flatMap escapeByte
  else [c]

/-- A text as it stands in a part. -/
def encode (part : Part) (s : List Char) : List Char := s.flatMap (encodeChar part)

/-- The bytes of a text with its escapes replaced; a percent sign without two digits stands for
itself. -/
def decode : List Char → List UInt8
  | '%' :: a :: b :: r =>
    match digitValue? a, digitValue? b with
    | some x, some y =>
      if x < 16 ∧ y < 16 then UInt8.ofNat (16 * x + y) :: decode r
      else utf8Char '%' ++ decode (a :: b :: r)
    | _, _ => utf8Char '%' ++ decode (a :: b :: r)
  | c :: r => utf8Char c ++ decode r
  | [] => []

/-- A text in a form: blanks become plus signs, and all but letters, digits and four marks is
escaped. -/
def encodeForm (s : List Char) : List Char :=
  (utf8 s).flatMap fun b =>
    let c := Char.ofNat b.toNat
    if b = 32 then ['+']
    else if c.isAlphanum && b < 128 || ['*', '-', '.', '_'].contains c then [c]
    else escapeByte b

end Rehearsal.Url
