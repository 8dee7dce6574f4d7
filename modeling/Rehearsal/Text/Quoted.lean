import Rehearsal.Text.Numeral
import Rehearsal.Text.Property

/-!
# Quoted text

How diagnostics show a text: in double quotes, with escapes for quotes, backslashes, and for every
character that would not be seen by itself.
-/

namespace Rehearsal.Text

/-- A code point in braces after a backslash and the letter u. -/
def bracedEscape (c : Char) : List Char :=
  ['\\', 'u', '\x7b'] ++ hexadecimal c.toNat ++ ['\x7d']

/-- How one character is shown between double quotes. -/
def quoteChar (c : Char) : List Char :=
  if c = Char.ofNat 0 then ['\\', '0']
  else if c = '\t' then ['\\', 't']
  else if c = '\r' then ['\\', 'r']
  else if c = '\n' then ['\\', 'n']
  else if c = '"' then ['\\', '"']
  else if c = '\\' then ['\\', '\\']
  else if isExtending c || !isPrintable c then bracedEscape c
  else [c]

/-- A text as diagnostics show it. -/
def quoted (s : List Char) : List Char := '"' :: s.flatMap quoteChar ++ ['"']

/-- `quoted` on strings. -/
def quote (s : String) : String := String.ofList (quoted s.toList)

end Rehearsal.Text
