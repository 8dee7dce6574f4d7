/-!
# Sets of places

The places of a text are numbered from 0, which is before its first character. A set of places is
kept as the number whose binary digits say which are in it, so the operations on sets are those on
digits, and moving all places on by one is a shift.
-/

namespace Rehearsal

/-- A set of places of a text: the digits of `bits` say which. -/
structure Places where
  bits : Nat
  deriving DecidableEq

namespace Places

/-- The set without places. -/
def empty : Places := ⟨0⟩

/-- Whether a set has no places. -/
def isEmpty (s : Places) : Bool := s.bits = 0

/-- Whether a place is in a set. -/
def contains (s : Places) (i : Nat) : Bool := s.bits.testBit i

/-- A set and one more place. -/
def insert (s : Places) (i : Nat) : Places := ⟨s.bits ||| (1 <<< i)⟩

/-- The places before a bound of which something holds. -/
def below (bound : Nat) (holds : Nat → Bool) : Places :=
  Nat.fold bound (fun i _ s => if holds i then s.insert i else s) empty

/-- The places of either set. -/
def union (s t : Places) : Places := ⟨s.bits ||| t.bits⟩

/-- The places of both sets. -/
def inter (s t : Places) : Places := ⟨s.bits &&& t.bits⟩

/-- The places of the first set that are not in the second. -/
def without (s t : Places) : Places := ⟨s.bits ^^^ (s.bits &&& t.bits)⟩

/-- The places right after those of a set. -/
def next (s : Places) : Places := ⟨s.bits <<< 1⟩

end Places

/-- What a part of a pattern does to places: where matches that begin at one of them can end. -/
structure Step where
  ends : Places → Places

namespace Step

/-- Where so many steps lead. Once a step changes nothing, no later one does. -/
def repeated (step : Step) : Nat → Places → Places
  | 0, places => places
  | n + 1, places =>
    let next := step.ends places
    if next = places then places else step.repeated n next

/-- Where at most so many steps lead, with the places that are reached already and those of them
that the last step came to. -/
def spread (step : Step) : Nat → Places → Places → Places
  | 0, reached, _ => reached
  | n + 1, reached, latest =>
    let new := (step.ends latest).without reached
    if new.isEmpty then reached else step.spread n (reached.union new) new

/-- Where at most so many steps lead. -/
def atMost (step : Step) (n : Nat) (places : Places) : Places := step.spread n places places

end Step
end Rehearsal
