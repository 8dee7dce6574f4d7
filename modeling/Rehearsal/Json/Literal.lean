import Rehearsal.Text.Numeral

/-!
# JSON string literals

`literal` writes a text as a double-quoted literal. Beside it stand the pieces from which literals
are read: escapes with one letter, and units of sixteen bits that denote a character alone or in
pairs.
-/

namespace Rehearsal.Json

open Rehearsal.Text

/-- Four hexadecimal digits. -/
def fourHex (n : Nat) : List Char :=
  [digit (n / 4096 % 16), digit (n / 256 % 16), digit (n / 16 % 16), digit (n % 16)]

/-- How one character stands between double quotes: quotes, backslashes and control characters are
escaped. -/
def escapeChar (c : Char) : List Char :=
  if c = '"' then ['\\', '"']
  else if c = '\\' then ['\\', '\\']
  else if c = '\n' then ['\\', 'n']
  else if c = '\r' then ['\\', 'r']
  else if c = '\t' then ['\\', 't']
  else if c = Char.ofNat 8 then ['\\', 'b']
  else if c = Char.ofNat 12 then ['\\', 'f']
  else if c.toNat < 32 then '\\' :: 'u' :: fourHex c.toNat
  else [c]

/-- A text between double quotes, without them. -/
def escape (s : List Char) : List Char := s.flatMap escapeChar

/-- The literal of a text. -/
def literalText (s : List Char) : List Char := '"' :: escape s ++ ['"']

/-- The literal of a text. -/
def literal (s : String) : String := String.ofList (literalText s.toList)

/-- The value of four hexadecimal digits. -/
def hexValue? (a b c d : Char) : Option Nat := natOfDigits? 16 [a, b, c, d]

/-- The character of an escape with one letter. -/
def simpleEscape? (c : Char) : Option Char :=
  if c = '"' then some '"'
  else if c = '\\' then some '\\'
  else if c = '/' then some '/'
  else if c = 'b' then some (Char.ofNat 8)
  else if c = 'f' then some (Char.ofNat 12)
  else if c = 'n' then some '\n'
  else if c = 'r' then some '\r'
  else if c = 't' then some '\t'
  else none

/-- A leading unit of a pair of units that denotes one character. -/
def isLeadingUnit (n : Nat) : Bool := 0xD800 ≤ n && n < 0xDC00

/-- A trailing unit of a pair of units that denotes one character. -/
def isTrailingUnit (n : Nat) : Bool := 0xDC00 ≤ n && n < 0xE000

/-- The character of a pair of units. -/
def pairChar (hi lo : Nat) : Char := Char.ofNat (0x10000 + (hi - 0xD800) * 1024 + (lo - 0xDC00))

end Rehearsal.Json
