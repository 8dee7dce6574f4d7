import Rehearsal.Pattern.Class
import Rehearsal.Pattern.Places

/-!
# Patterns

Regular expressions, as far as they are asked whether they occur in a text. `Pattern.step` gives the
places at which matches that begin at some places can end, for all of them at once; repetition is
the closure of that, so the matching needs no more rounds than the text has places.
-/

namespace Rehearsal

open Unicode

/-- What the edge of a word may be asked for. -/
inductive WordEdge where
  | either
  | neither
  | start
  | stop
  /-- No part of a word stands before. -/
  | startHalf
  /-- No part of a word stands after. -/
  | stopHalf
  deriving DecidableEq

/-- What a pattern asks of a place between characters. -/
inductive Anchor where
  | textStart
  | textEnd
  /-- The start of a line; with `returns`, a carriage return ends lines as well. -/
  | lineStart (returns : Bool)
  | lineEnd (returns : Bool)
  /-- The edge of a word; with `wide`, characters of all scripts make words. -/
  | word (edge : WordEdge) (wide : Bool)
  deriving DecidableEq

/-- A regular expression. -/
inductive Pattern where
  | empty
  | one (c : CodeSet)
  | anchor (a : Anchor)
  | seq (p q : Pattern)
  | either (p q : Pattern)
  /-- So many times at least, and at most so many more if there is a bound. -/
  | times (p : Pattern) (least : Nat) (more : Option Nat)
  /-- A group whose match is kept. -/
  | capture (p : Pattern)
  deriving DecidableEq

namespace Pattern

/-- Whether a pattern can match nothing but the empty text. -/
def matchesEmptyOnly : Pattern → Bool
  | .empty => true
  | .anchor _ => true
  | .one _ => false
  | .seq p q => p.matchesEmptyOnly && q.matchesEmptyOnly
  | .either p q => p.matchesEmptyOnly && q.matchesEmptyOnly
  | .times p _ _ => p.matchesEmptyOnly
  | .capture p => p.matchesEmptyOnly

/-- One pattern after the other. -/
def followedBy : Pattern → Pattern → Pattern
  | .empty, q => q
  | p, .empty => p
  | p, q => .seq p q

/-- One pattern or the other. -/
def orElse : Pattern → Pattern → Pattern
  | .one c, .one d => .one (c.union d)
  | p, q => .either p q

/-- A pattern several times. What matches the empty text only need not be repeated. -/
def repeated (p : Pattern) (least : Nat) (more : Option Nat) : Pattern :=
  let (least, more) :=
    if p.matchesEmptyOnly then (min least 1, some (min (more.getD 1) (1 - min least 1)))
    else (least, more)
  match least, more with
  | 0, some 0 => .empty
  | 1, some 0 => p
  | least, more => .times p least more

/-- Whether a character is part of a word. -/
def isWordPart (wide : Bool) (c : Char) : Bool :=
  if c.toNat < 128 then c.isAlphanum || c = '_' else wide && wordCharacters.holds c

/-- Whether a place of a text is what an anchor asks for. -/
def holds (s : Array Char) (i : Nat) (a : Anchor) : Bool :=
  let before : Option Char := if i = 0 then none else s[i - 1]?
  let after : Option Char := s[i]?
  match a with
  | .textStart => before.isNone
  | .textEnd => after.isNone
  | .lineStart false => before.isNone || before = some '\n'
  | .lineStart true =>
    before.isNone || before = some '\n' || (before = some '\r' && after ≠ some '\n')
  | .lineEnd false => after.isNone || after = some '\n'
  | .lineEnd true =>
    after.isNone || after = some '\r' || (after = some '\n' && before ≠ some '\r')
  | .word edge wide =>
    let inBefore := before.any (isWordPart wide)
    let inAfter := after.any (isWordPart wide)
    match edge with
    | .either => inBefore ≠ inAfter
    | .neither => inBefore = inAfter
    | .start => !inBefore && inAfter
    | .stop => inBefore && !inAfter
    | .startHalf => !inBefore
    | .stopHalf => !inAfter

/-- What a pattern does to the places of a text. -/
def step (s : Array Char) : Pattern → Step
  | .empty => ⟨id⟩
  | .one c =>
    let found := Places.below s.size fun i => s[i]?.any c.holds
    ⟨fun places => (places.inter found).next⟩
  | .anchor a =>
    let found := Places.below (s.size + 1) fun i => holds s i a
    ⟨fun places => places.inter found⟩
  | .seq p q =>
    let first := p.step s
    let second := q.step s
    ⟨fun places => second.ends (first.ends places)⟩
  | .either p q =>
    let one := p.step s
    let other := q.step s
    ⟨fun places => (one.ends places).union (other.ends places)⟩
  | .times p least more =>
    let once := p.step s
    ⟨fun places => once.atMost (more.getD (s.size + 1)) (once.repeated least places)⟩
  | .capture p => p.step s

/-- Whether a pattern occurs in a text. -/
def occursIn (p : Pattern) (text : List Char) : Bool :=
  let s := text.toArray
  !((p.step s).ends (Places.below (s.size + 1) fun _ => true)).isEmpty

end Pattern
end Rehearsal
