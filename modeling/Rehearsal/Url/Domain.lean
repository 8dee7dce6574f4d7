import Rehearsal.Text.Lines
import Rehearsal.Text.Substitution
import Rehearsal.Unicode.Direction
import Rehearsal.Unicode.Joining
import Rehearsal.Unicode.Normal
import Rehearsal.Url.Mapping
import Rehearsal.Url.Punycode

/-!
# Host names

International host names in ASCII. `foldedDomain?` gives all ways to write a name one form; a label of
it that is not ASCII is written in Punycode if it keeps the rules for marks, joints and directions.
-/

namespace Rehearsal.Url

open Text Unicode

/-! ## One form for all ways to write a name -/

/-- ASCII characters that may not stand in a host name. -/
def isForbiddenInDomain (c : Char) : Bool :=
  c.toNat ≤ 32 || c.toNat = 127 || "%#/:<>?@[\\]^|".toList.contains c

/-- A text with what its characters count for, in composed form; `none` if one of them may not stand
in a host name. -/
def folded? (s : List Char) : Option (List Char) := do
  let images ← s.mapM counterpart?
  return (Normal.composed (images.flatten.map Char.toNat)).map Char.ofNat

/-- A host name in the form that all ways to write it have. -/
def foldedDomain? (s : List Char) : Option (List Char) := do
  let name ← folded? s
  if name.any isForbiddenInDomain then none else some name

/-! ## Labels -/

/-- Whether all characters of a label are ASCII. -/
def isAsciiLabel (label : List Char) : Bool := label.all (·.toNat < 128)

/-- Whether a joint or gap may stand between two parts of a label, the first of which is given from its
end on. It follows the sign that takes the vowel from a consonant, or it parts letters that would join
otherwise. -/
def isWellJoined (joiner : Char) (before after : List Char) : Bool :=
  match before with
  | [] => false
  | c :: _ =>
    Normal.combiningClass c.toNat = Normal.viramaClass ||
      (joiner.toNat = 0x200C &&
        ((before.dropWhile Joining.isTransparent).head?.any Joining.joinsNext) &&
        ((after.dropWhile Joining.isTransparent).head?.any Joining.joinsPrevious))

/-- Whether all joints and gaps of a label are where they may be; what stands before the label is
given from its end on. -/
def areWellJoined (before : List Char) : List Char → Bool
  | [] => true
  | c :: r => (!joiners.holds c || isWellJoined c before r) && areWellJoined (c :: before) r

/-- The most characters of a label that is not ASCII. -/
def longestLabel : Nat := 1000

/-- The most digits of a label in Punycode. -/
def longestDigits : Nat := 2000

/-- Whether folded characters make a label: it does not start with a mark, its joints are where they
may be, and it is not too long. -/
def isLabel (label : List Char) : Bool :=
  isAsciiLabel label ||
    (!(label.head?.any Mark.all.holds) && areWellJoined [] label && label.length ≤ longestLabel)

/-- The characters that a label of a folded name stands for; `none` if it is not a label. A label in
Punycode must stand for a folded one. -/
def shownLabel? (label : List Char) : Option (List Char) :=
  match dropBeginning? "xn--".toList label with
  | none => if isLabel label then some label else none
  | some digits =>
    if digits.isEmpty ∨ digits.getLast? = some '-' ∨ longestDigits < digits.length ∨
        !isAsciiLabel digits then none
    else do
      let shown ← Punycode.decode? digits
      if foldedDomain? shown = some shown ∧ !shown.contains '.' ∧ isLabel shown then return shown
      else none

/-- A label in ASCII. -/
def asciiLabel (shown : List Char) : List Char :=
  if isAsciiLabel shown then shown else "xn--".toList ++ Punycode.encode shown

/-! ## Names -/

/-- Whether labels keep their order wherever they stand: that needs care only if some of them are
written to the left. -/
def areSettled (labels : List (List Char)) : Bool :=
  let directions := labels.map (·.map Direction.of)
  !(directions.any (·.any Direction.isLeftward)) || directions.all Direction.isSettled

/-- A host name in ASCII; `none` if it is not a host name. -/
def asciiDomain? (s : List Char) : Option (List Char) := do
  let name ← foldedDomain? s
  let labels ← (splitOn '.' name).mapM shownLabel?
  if areSettled labels then some (joinWith ['.'] (labels.map asciiLabel)) else none

end Rehearsal.Url
