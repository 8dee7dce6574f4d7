import Rehearsal.Pattern.Basic

/-!
# How large patterns are

A pattern must not grow too large when its counts are written out. Its weight is that of the states
of an automaton that reads the bytes of a text, forwards or backwards: `Pattern.isTooLarge` says when
either of them is too heavy.
-/

namespace Rehearsal

open Unicode

/-- A range of bytes. -/
abbrev ByteRange := Nat × Nat

/-- The bytes of a code point, as if it were a character of some length. -/
def bytesOf (length n : Nat) : List Nat :=
  match length with
  | 1 => [n]
  | 2 => [0xC0 + n / 64, 0x80 + n % 64]
  | 3 => [0xE0 + n / 4096, 0x80 + n / 64 % 64, 0x80 + n % 64]
  | _ => [0xF0 + n / 262144, 0x80 + n / 4096 % 64, 0x80 + n / 64 % 64, 0x80 + n % 64]

/-- The number of bytes of a code point. -/
def byteLength (n : Nat) : Nat := if n < 0x80 then 1 else if n < 0x800 then 2 else if n < 0x10000 then 3 else 4

/-- A place inside a range at which it has to be split so that its bytes are independent of each
other: the second part begins there. -/
def splitPoint? (a b : Nat) : Option Nat :=
  let aligned := [64, 4096, 262144].findSome? fun m =>
    if a / m = b / m then none
    else if a % m ≠ 0 then some (a / m * m + m)
    else if b % m ≠ m - 1 then some (b / m * m)
    else none
  let longer := [0x80, 0x800, 0x10000].find? fun m => a < m && m ≤ b
  longer <|> (if b < 0x80 then none else aligned)

/-- The code points from one to another as sequences of ranges of bytes, in order; ranges are split
so many times. -/
def byteSequences : Nat → Nat → Nat → List (List ByteRange)
  | 0, _, _ => []
  | fuel + 1, a, b =>
    if b < a then []
    else if a < 0xE000 ∧ 0xD7FF < b then byteSequences fuel a 0xD7FF ++ byteSequences fuel 0xE000 b
    else if 0xD800 ≤ a ∧ b < 0xE000 then []
    else
      match splitPoint? a b with
      | some m => byteSequences fuel a (m - 1) ++ byteSequences fuel m b
      | none => [(bytesOf (byteLength a) a).zip (bytesOf (byteLength a) b)]

/-- Sequences of ranges of bytes with common beginnings, as a tree. -/
inductive ByteTree where
  | node (edges : List (ByteRange × ByteTree))

namespace ByteTree

mutual

/-- Whether two trees are the same. -/
def same : ByteTree → ByteTree → Bool
  | .node xs, .node ys => sameEdges xs ys

/-- Whether two lists of edges are the same. -/
def sameEdges : List (ByteRange × ByteTree) → List (ByteRange × ByteTree) → Bool
  | [], [] => true
  | (r, t) :: xs, (q, u) :: ys => r == q && same t u && sameEdges xs ys
  | _, _ => false

end

mutual

/-- The number of edges. -/
def edgeCount : ByteTree → Nat
  | .node xs => edgesCount xs

/-- The number of edges below some edges, and of these. -/
def edgesCount : List (ByteRange × ByteTree) → Nat
  | [] => 0
  | (_, t) :: r => 1 + edgeCount t + edgesCount r

end

/-- A tree with one more sequence, which comes after all others. -/
def insert (t : ByteTree) : List ByteRange → ByteTree
  | [] => t
  | r :: rest =>
    let .node edges := t
    match edges with
    | (q, child) :: before =>
      if q = r then .node ((q, child.insert rest) :: before)
      else .node ((r, (ByteTree.node []).insert rest) :: edges)
    | [] => .node [(r, (ByteTree.node []).insert rest)]

mutual

/-- The different trees inside a tree that have edges, added to those of a list. -/
def shapes (seen : List ByteTree) : ByteTree → List ByteTree
  | .node xs =>
    let seen := edgeShapes seen xs
    if xs.isEmpty || seen.any (same (.node xs)) then seen else .node xs :: seen

/-- The different trees below some edges, added to those of a list. -/
def edgeShapes (seen : List ByteTree) : List (ByteRange × ByteTree) → List ByteTree
  | [] => seen
  | (_, t) :: r => edgeShapes (shapes seen t) r

end

/-- The number of edges at the root. -/
def width : ByteTree → Nat
  | .node xs => xs.length

end ByteTree

namespace Pattern

/-- The direction in which a text is read. -/
inductive Direction where
  | forward
  | backward
  deriving DecidableEq

/-- The weight of a state. -/
def stateWeight : Nat := 32

/-- The weight of a step on some bytes. -/
def stepWeight : Nat := 8

/-- The weight of a step that reads nothing. -/
def choiceWeight : Nat := 4

/-- The weight of a set of characters. Forwards, equal endings of characters share their states;
backwards, equal beginnings do. -/
def setWeight (d : Direction) (c : CodeSet) : Nat :=
  match c.ranges with
  | [(a, b)] => if a = b then stateWeight * byteLength a else general c
  | _ => general c
where
  /-- The weight of a set that is not a single character. -/
  general (c : CodeSet) : Nat :=
    if c.isAscii then 2 * stateWeight + stepWeight * c.ranges.length
    else
      let sequences := c.ranges.flatMap fun (a, b) => byteSequences 40 a b
      let tree := sequences.foldl ByteTree.insert (.node [])
      match d with
      | .forward =>
        (tree.shapes []).foldl (fun n t => n + stateWeight + stepWeight * t.width) stateWeight
      | .backward =>
        stateWeight * (2 + tree.edgeCount) + choiceWeight * sequences.length

/-- Whether a pattern may match the empty text, or nothing at all. -/
def mayBeEmpty : Pattern → Bool
  | .empty => true
  | .anchor _ => true
  | .one c => c.isEmpty
  | .seq p q => p.mayBeEmpty && q.mayBeEmpty
  | .either p q => p.mayBeEmpty || q.mayBeEmpty
  | .times p least _ => least = 0 || p.mayBeEmpty
  | .capture p => p.mayBeEmpty

/-- Whether a pattern has alternatives, which are joined with those beside them. -/
def isEither : Pattern → Bool
  | .either _ _ => true
  | _ => false

/-- The weight of a pattern. -/
def weight (d : Direction) : Pattern → Nat
  | .empty => stateWeight
  | .one c => setWeight d c
  | .anchor _ => stateWeight
  | .seq p q => p.weight d + q.weight d
  | .either p q =>
    let own (p : Pattern) : Nat := if p.isEither then 0 else choiceWeight
    let joint := if p.isEither || q.isEither then 0 else 2 * stateWeight
    joint + own p + own q + p.weight d + q.weight d
  | .capture p => (if d = .forward then 2 * stateWeight else 0) + p.weight d
  | .times p least more =>
    let once := p.weight d
    match least, more with
    | 0, none =>
      if p.mayBeEmpty then once + 3 * stateWeight + 4 * choiceWeight
      else once + stateWeight + 2 * choiceWeight
    | n + 1, none => (n + 1) * once + stateWeight + 2 * choiceWeight
    | n, some k =>
      let first := if n = 0 ∧ 1 < k then stateWeight else n * once
      if k = 0 then first else first + stateWeight + k * (once + stateWeight + 2 * choiceWeight)

/-- The weight that a pattern must not exceed. -/
def weightLimit : Nat := 10485760

/-- Whether a pattern is too large for one of the two directions. Around it stand its own group, a
search for its begin and an end. -/
def isTooLarge (p : Pattern) : Bool :=
  let around := 8 * stateWeight
  weightLimit < p.weight .forward + around || weightLimit < p.weight .backward + around

end Pattern
end Rehearsal
