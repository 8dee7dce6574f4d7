import Rehearsal.Text.Lines
import Rehearsal.Text.Numeral

/-!
# Maps from code points to texts

What code points stand for, where that is not themselves. A map is kept as its rows in increasing
order; `CodeMap.image?` looks a code point up, and `CodeMap.ofText` reads a table that is written as a
text.
-/

namespace Rehearsal.Unicode

/-- Code points at equal distances, and what the first of them stands for. What the others stand for
is as far from that as they are from the first. -/
structure CodeMap.Row where
  first : Nat
  last : Nat
  step : Nat
  image : List Nat
  deriving DecidableEq, Inhabited

/-- What some code points stand for: rows in increasing order that do not overlap. -/
structure CodeMap where
  rows : List CodeMap.Row
  deriving Inhabited

namespace CodeMap

/-- What a code point of a row stands for. -/
def Row.imageOf (r : Row) (n : Nat) : List Nat := r.image.map (· + (n - r.first))

/-- What a code point stands for by rows in increasing order. -/
def lookUp (n : Nat) : List Row → Option (List Nat)
  | [] => none
  | r :: rest =>
    if n < r.first then none
    else if r.last < n then lookUp n rest
    else if (n - r.first) % r.step = 0 then some (r.imageOf n)
    else none

/-- What a code point stands for; `none` if that is itself. -/
def image? (m : CodeMap) (n : Nat) : Option (List Nat) := lookUp n m.rows

/-- A code point of a row that stands for one text. -/
def Row.source? (image : List Nat) (r : Row) : Option Nat :=
  if r.first = r.last ∧ r.image = image then some r.first else none

/-- The code point that stands for a text, if it has a row of its own. -/
def source? (m : CodeMap) (image : List Nat) : Option Nat := m.rows.findSome? (·.source? image)

/-! ## Maps as texts -/

open Text

/-- The number that a hexadecimal numeral denotes. -/
def number (s : List Char) : Nat := (natOfDigits? 16 s).getD 0

/-- The row that a word denotes: what it is for, an equals sign, and what that stands for, with dots
between code points. A range with a dash has all code points between two, a range with a colon every
second one. A word without an equals sign is for the code point after the row before. -/
def Row.ofWord (next : Nat) (word : List Char) : Row :=
  let (place, image) := (splitOnce '=' word).getD ([], word)
  let image := (splitOn '.' image).map number
  match splitOnce '-' place, splitOnce ':' place with
  | some (a, b), _ => ⟨number a, number b, 1, image⟩
  | none, some (a, b) => ⟨number a, number b, 2, image⟩
  | none, none =>
    if place.isEmpty then ⟨next, next, 1, image⟩ else ⟨number place, number place, 1, image⟩

/-- The rows that words denote, after a row that ends before a code point. -/
def rowsFrom (next : Nat) : List (List Char) → List Row
  | [] => []
  | word :: rest =>
    let row := Row.ofWord next word
    row :: rowsFrom (row.last + 1) rest

/-- The map that the words of a text denote. -/
def ofText (s : String) : CodeMap :=
  let words := splitOn ' ' (s.toList.map fun c => if c = '\n' then ' ' else c)
  ⟨rowsFrom 0 (words.filter (!·.isEmpty))⟩

end CodeMap
end Rehearsal.Unicode
