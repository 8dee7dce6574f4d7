/-!
# Shortest decimals

The decimal with the fewest digits that reads back as a given binary floating-point number, and of
those the nearest one. A number is given by its bits; the search is exact arithmetic on natural
numbers.
-/

namespace Rehearsal.Decimal

/-- A positive number `significand · 2 ^ exponent`, as the bits of a double denote it. -/
structure Binary where
  significand : Nat
  exponent : Int

/-- What the bits of a double denote. -/
inductive Reading where
  | finite (negative : Bool) (magnitude : Binary)
  | infinite (negative : Bool)
  | notANumber

/-- Sign, exponent and fraction of a double. -/
def Reading.ofBits (bits : UInt64) : Reading :=
  let n := bits.toNat
  let negative := decide (Nat.pow 2 63 ≤ n)
  let e : Nat := n / Nat.pow 2 52 % Nat.pow 2 11
  let f : Nat := n % Nat.pow 2 52
  if e = 2047 then (if f = 0 then .infinite negative else .notANumber)
  else if e = 0 then .finite negative ⟨f, -1074⟩
  else .finite negative ⟨Nat.pow 2 52 + f, (e : Int) - 1075⟩

/-- A decimal `digits · 10 ^ exponent`. -/
structure Scaled where
  digits : Nat
  exponent : Int

/-- The numbers that round to a binary number, as numerators over a common denominator: the ends
of the interval, the number itself, and whether the ends belong to it. -/
structure Interval where
  low : Nat
  value : Nat
  high : Nat
  denominator : Nat
  closed : Bool

/-- The interval of the numbers that round to `b`; below a power of two it is half as wide. -/
def Interval.of (b : Binary) : Interval :=
  let up := Nat.pow 2 b.exponent.toNat
  let m := b.significand
  let below := if m = Nat.pow 2 52 ∧ b.exponent ≠ -1074 then 1 else 2
  { low := (4 * m - below) * up
    value := 4 * m * up
    high := (4 * m + 2) * up
    denominator := 4 * Nat.pow 2 (-b.exponent).toNat
    closed := m % 2 = 0 }

/-- Whether a decimal lies in an interval. -/
def Interval.contains (i : Interval) (s : Scaled) : Bool :=
  let x := s.digits * Nat.pow 10 s.exponent.toNat * i.denominator
  let scale := Nat.pow 10 (-s.exponent).toNat
  if i.closed then i.low * scale ≤ x && x ≤ i.high * scale
  else i.low * scale < x && x < i.high * scale

/-- Twice the numerator of a decimal minus that of the middle, for comparing distances. -/
def Interval.distance (i : Interval) (s : Scaled) : Nat :=
  let x := s.digits * Nat.pow 10 s.exponent.toNat * i.denominator
  let y := i.value * Nat.pow 10 (-s.exponent).toNat
  (x - y) + (y - x)

/-- The decimal exponent of the first digit of `num / den`, looked for up to `fuel` places after
the point. -/
def leadingPlace (num den : Nat) (fuel : Nat) : Int :=
  if den ≤ num then ((Nat.toDigits 10 (num / den)).length : Int) - 1
  else
    match fuel with
    | 0 => 0
    | fuel + 1 => leadingPlace (10 * num) den fuel - 1

/-- The nearest decimal of an interval on the grid of an exponent, if one lies in it. -/
def Interval.onGrid (i : Interval) (k : Int) : Option Scaled :=
  let c := i.value * Nat.pow 10 (-k).toNat / (i.denominator * Nat.pow 10 k.toNat)
  let lo : Scaled := ⟨c, k⟩
  let hi : Scaled := ⟨c + 1, k⟩
  match i.contains lo && c ≠ 0, i.contains hi with
  | true, true =>
    let a := i.distance lo
    let b := i.distance hi
    some (if a < b ∨ (a = b ∧ c % 2 = 0) then lo else hi)
  | true, false => some lo
  | false, true => some hi
  | false, false => none

/-- The first grid with a decimal, from the coarsest down. -/
def Interval.search (i : Interval) (k : Int) : Nat → Scaled
  | 0 => ⟨i.value / i.denominator, 0⟩
  | fuel + 1 =>
    match i.onGrid k with
    | some s => s
    | none => i.search (k - 1) fuel

/-- The shortest decimal that reads back as a positive number. -/
def shortest (b : Binary) : Scaled :=
  let i := Interval.of b
  i.search (leadingPlace i.value i.denominator 400 + 1) 20

end Rehearsal.Decimal
