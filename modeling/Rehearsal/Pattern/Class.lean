import Rehearsal.Unicode.Case
import Rehearsal.Unicode.Query

/-!
# Classes of characters

The sets that have a name in patterns: digits, blanks and parts of words, for all scripts or for
ASCII alone, and the classes that are named between colons.
-/

namespace Rehearsal

open Unicode

namespace CharClass

/-- The ASCII characters of some ranges. -/
def ofChars (ranges : List (Char × Char)) : CodeSet := .ofRanges (ranges.map fun (a, b) => (a.toNat, b.toNat))

/-- The classes with a name between colons. -/
def named : List (String × List (Char × Char)) :=
  [("alnum", [('0', '9'), ('A', 'Z'), ('a', 'z')]), ("alpha", [('A', 'Z'), ('a', 'z')]),
    ("ascii", [('\x00', '\x7f')]), ("blank", [('\t', '\t'), (' ', ' ')]),
    ("cntrl", [('\x00', '\x1f'), ('\x7f', '\x7f')]), ("digit", [('0', '9')]),
    ("graph", [('!', '~')]), ("lower", [('a', 'z')]), ("print", [(' ', '~')]),
    ("punct", [('!', '/'), (':', '@'), ('[', Char.ofNat 96), ('\x7b', '~')]),
    ("space", [('\t', '\r'), (' ', ' ')]), ("upper", [('A', 'Z')]),
    ("word", [('0', '9'), ('A', 'Z'), ('_', '_'), ('a', 'z')]),
    ("xdigit", [('0', '9'), ('A', 'F'), ('a', 'f')])]

/-- The class of a name between colons. -/
def named? (name : List Char) : Option CodeSet :=
  (named.find? (·.1.toList = name)).map fun (_, ranges) => ofChars ranges

/-- The class that a lower-case letter stands for: digits, blanks, or parts of words. -/
def ofLetter (wide : Bool) (letter : Char) : CodeSet :=
  let narrow (name : String) : CodeSet := (named? name.toList).getD .empty
  match letter, wide with
  | 'd', true => Category.decimalNumber.codePoints
  | 'd', false => narrow "digit"
  | 's', true => withTrait "whitespace"
  | 's', false => narrow "space"
  | _, true => wordCharacters
  | _, false => narrow "word"

end CharClass
end Rehearsal
