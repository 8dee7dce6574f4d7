import Rehearsal.Text.Numeral

/-!
# Sets of code points

A set of code points is kept as its ranges, in increasing order and with gaps between them. Tables of
the Unicode standard are written as texts, which `CodeSet.ofText` reads; the operations on sets go
through the ranges once.
-/

namespace Rehearsal.Unicode

/-- The largest code point. -/
def lastCodePoint : Nat := 0x10FFFF

/-- A set of code points as ranges in increasing order. -/
structure CodeSet where
  ranges : List (Nat × Nat)
  deriving DecidableEq, Inhabited

namespace CodeSet

/-- The set without code points. -/
def empty : CodeSet := ⟨[]⟩

/-- The set of the code points from one to another. -/
def range (first last : Nat) : CodeSet := ⟨if first ≤ last then [(first, last)] else []⟩

/-- The set of one code point. -/
def single (n : Nat) : CodeSet := ⟨[(n, n)]⟩

/-- The set of all code points. -/
def full : CodeSet := range 0 lastCodePoint

/-- Whether a code point lies in one of some ranges, which stand in increasing order. -/
def inSorted (n : Nat) : List (Nat × Nat) → Bool
  | [] => false
  | (a, b) :: r => if n < a then false else n ≤ b || inSorted n r

/-- Whether a set holds a code point. -/
def contains (s : CodeSet) (n : Nat) : Bool := inSorted n s.ranges

/-- Whether a set holds a character. -/
def holds (s : CodeSet) (c : Char) : Bool := s.contains c.toNat

/-- Ranges in increasing order without those that overlap or touch the one before, from a range
on. -/
def joinFrom (a b : Nat) : List (Nat × Nat) → List (Nat × Nat)
  | [] => [(a, b)]
  | (c, d) :: r => if c ≤ b + 1 then joinFrom a (max b d) r else (a, b) :: joinFrom c d r

/-- The set of ranges that stand in increasing order and may overlap. -/
def join : List (Nat × Nat) → CodeSet
  | [] => empty
  | (a, b) :: r => ⟨joinFrom a b r⟩

/-- The set of the ranges of a list. -/
def ofRanges (ranges : List (Nat × Nat)) : CodeSet :=
  join (ranges.mergeSort fun x y => x.1 ≤ y.1)

/-- The code points of either set. -/
def union (s t : CodeSet) : CodeSet := join (s.ranges.merge t.ranges fun x y => x.1 ≤ y.1)

/-- The code points of some sets. -/
def unions (sets : List CodeSet) : CodeSet := ofRanges (sets.flatMap (·.ranges))

/-- The gaps between ranges in increasing order, from a code point on. -/
def gapsFrom (next : Nat) : List (Nat × Nat) → List (Nat × Nat)
  | [] => if next ≤ lastCodePoint then [(next, lastCodePoint)] else []
  | (a, b) :: r => if next < a then (next, a - 1) :: gapsFrom (b + 1) r else gapsFrom (b + 1) r

/-- The code points that are not in a set. -/
def complement (s : CodeSet) : CodeSet := ⟨gapsFrom 0 s.ranges⟩

/-- The code points of both sets. -/
def inter (s t : CodeSet) : CodeSet := (s.complement.union t.complement).complement

/-- The code points of the first set that are not in the second. -/
def without (s t : CodeSet) : CodeSet := s.inter t.complement

/-- The code points that are in one of two sets only. -/
def either (s t : CodeSet) : CodeSet := (s.without t).union (t.without s)

/-- Whether a set holds ASCII characters only. -/
def isAscii (s : CodeSet) : Bool := s.ranges.all (·.2 < 128)

/-- Whether a set holds nothing. -/
def isEmpty (s : CodeSet) : Bool := s.ranges.isEmpty

/-- The code points of a set, one by one. -/
def toList (s : CodeSet) : List Nat := s.ranges.flatMap fun (a, b) => List.range' a (b + 1 - a)

/-! ## Sets as texts -/

/-- What stands between the two numbers of a range. -/
inductive Joint where
  /-- All code points between them belong to the set. -/
  | all
  /-- Every second code point between them belongs to the set. -/
  | second

/-- The reading of a set from a text: the ranges so far, newest first, the begin of the range that is
being read, and its last number. -/
structure Scan where
  ranges : List (Nat × Nat)
  begin : Option (Nat × Joint)
  value : Option Nat

/-- The reading after a range. -/
def Scan.finish (s : Scan) : Scan :=
  match s.begin, s.value with
  | none, some b => ⟨(b, b) :: s.ranges, none, none⟩
  | some (a, .all), some b => ⟨(a, b) :: s.ranges, none, none⟩
  | some (a, .second), some b =>
    ⟨(List.range ((b - a) / 2 + 1)).foldl (fun r i => (a + 2 * i, a + 2 * i) :: r) s.ranges, none, none⟩
  | _, none => s

/-- The reading after one more character. -/
def Scan.step (s : Scan) (c : Char) : Scan :=
  if c = '-' then { s with begin := s.value.map (·, .all), value := none }
  else if c = ':' then { s with begin := s.value.map (·, .second), value := none }
  else
    match Text.digitValue? c with
    | some d => { s with value := some (16 * s.value.getD 0 + d) }
    | none => s.finish

/-- The set that a text lists: hexadecimal numbers in increasing order, two with a dash for all from
one to the other, and two with a colon for every second one. -/
def ofText (s : String) : CodeSet :=
  let scan := (s.toList.foldl Scan.step ⟨[], none, none⟩).finish
  join scan.ranges.reverse

end CodeSet
end Rehearsal.Unicode
