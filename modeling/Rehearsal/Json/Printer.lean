import Rehearsal.Data.Value
import Rehearsal.Json.Literal
import Rehearsal.Decimal.Text

/-!
# Writing JSON

A value as one line without blanks (`compact`), and with one entry a line, indented by two blanks
for each level (`pretty`). Keys that are no texts do not occur.
-/

namespace Rehearsal.Json

open Rehearsal.Data

/-- The text of a value that is neither list nor map. -/
def scalarText : Value → List Char
  | .null => "null".toList
  | .flag true => "true".toList
  | .flag false => "false".toList
  | .int n => Text.decimalInt n
  | .float bits => Decimal.general true bits
  | .text s => literalText s.toList
  | _ => []

/-- The literal of a key. -/
def keyText : Value → List Char
  | .text s => literalText s.toList
  | v => literalText (scalarText v)

mutual

/-- A value on one line. -/
def compact : Value → List Char
  | .list items => '[' :: compactItems items ++ [']']
  | .map entries => '\x7b' :: compactEntries entries ++ ['\x7d']
  | .tagged _ v => compact v
  | v => scalarText v

/-- Items with commas between them. -/
def compactItems : List Value → List Char
  | [] => []
  | [v] => compact v
  | v :: w :: r => compact v ++ ',' :: compactItems (w :: r)

/-- Entries with commas between them. -/
def compactEntries : List (Value × Value) → List Char
  | [] => []
  | [(k, v)] => keyText k ++ ':' :: compact v
  | (k, v) :: e :: r => keyText k ++ ':' :: compact v ++ ',' :: compactEntries (e :: r)

end

/-- A line break and the blanks of a level. -/
def indent (level : Nat) : List Char := '\n' :: List.replicate (2 * level) ' '

mutual

/-- A value with one entry a line, inside some level. -/
def prettyAt (level : Nat) : Value → List Char
  | .list [] => ['[', ']']
  | .list items => '[' :: prettyItems (level + 1) items ++ indent level ++ [']']
  | .map [] => ['\x7b', '\x7d']
  | .map entries => '\x7b' :: prettyEntries (level + 1) entries ++ indent level ++ ['\x7d']
  | .tagged _ v => prettyAt level v
  | v => scalarText v

/-- Items, each on a line of its own. -/
def prettyItems (level : Nat) : List Value → List Char
  | [] => []
  | [v] => indent level ++ prettyAt level v
  | v :: w :: r => indent level ++ prettyAt level v ++ ',' :: prettyItems level (w :: r)

/-- Entries, each on a line of its own. -/
def prettyEntries (level : Nat) : List (Value × Value) → List Char
  | [] => []
  | [(k, v)] => indent level ++ keyText k ++ ':' :: ' ' :: prettyAt level v
  | (k, v) :: e :: r =>
    indent level ++ keyText k ++ ':' :: ' ' :: prettyAt level v ++ ',' :: prettyEntries level (e :: r)

end

/-- A value with one entry a line. -/
def pretty (v : Value) : List Char := prettyAt 0 v

end Rehearsal.Json
