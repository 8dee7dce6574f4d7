import Rehearsal.Decimal.Shortest
import Rehearsal.Text.Numeral

/-!
# Decimals as text

Reading a decimal numeral as a double, and the two ways in which a double is written: with all
its places (`positional`), or with an exponent when it is very large or very small (`general`).
-/

namespace Rehearsal.Decimal

open Rehearsal.Text

/-- The digits of a shortest decimal as text, and the place of the point counted from the front. -/
def layout (s : Scaled) : List Char × Int :=
  let d := decimal s.digits
  let stripped := (d.reverse.dropWhile (· = '0')).reverse
  (stripped, d.length + s.exponent)

/-- Digits with a point at a place, and with at least one digit on both sides of it. -/
def pointAt (digits : List Char) (place : Int) : List Char :=
  let n : Int := digits.length
  if place ≤ 0 then '0' :: '.' :: List.replicate (-place).toNat '0' ++ digits
  else if n ≤ place then digits ++ List.replicate (place - n).toNat '0' ++ ['.', '0']
  else digits.take place.toNat ++ '.' :: digits.drop place.toNat

/-- One digit, the point, the others, and an exponent; one that is not negative may have a plus. -/
def withExponent (plus : Bool) (digits : List Char) (place : Int) : List Char :=
  let e := place - 1
  let mantissa :=
    match digits with
    | [] => []
    | [d] => [d]
    | d :: r => d :: '.' :: r
  mantissa ++ 'e' :: (if plus ∧ 0 ≤ e then ['+'] else []) ++ decimalInt e

/-- A double with all its places and at least one after the point. -/
def positional (bits : UInt64) : List Char :=
  match Reading.ofBits bits with
  | .notANumber => "NaN".toList
  | .infinite negative => if negative then "-inf".toList else "inf".toList
  | .finite negative b =>
    let body :=
      if b.significand = 0 then "0.0".toList
      else
        let (digits, place) := layout (shortest b)
        pointAt digits place
    if negative then '-' :: body else body

/-- A finite double with its places while its first digit is between the fifth place after the
point and the sixteenth before it, and with an exponent otherwise. -/
def general (plus : Bool) (bits : UInt64) : List Char :=
  match Reading.ofBits bits with
  | .finite negative b =>
    let body :=
      if b.significand = 0 then "0.0".toList
      else
        let (digits, place) := layout (shortest b)
        if -4 ≤ place ∧ place ≤ 16 then pointAt digits place else withExponent plus digits place
    if negative then '-' :: body else body
  | _ => positional bits

/-- A numeral taken apart: sign, the digits before and after the point, and the exponent. -/
structure Numeral where
  negative : Bool
  whole : List Char
  fraction : List Char
  exponent : Int

/-- The double nearest to a numeral, by its bits; numerals past the largest double give infinity. -/
def Numeral.bits (n : Numeral) : UInt64 :=
  let digits := (n.whole ++ n.fraction).dropWhile (· = '0')
  let e : Int := n.exponent - n.fraction.length
  let magnitude : Float :=
    match natOfDigits? 10 digits with
    | none => 0.0
    | some m =>
      let size : Int := digits.length + e
      if size < -330 then 0.0
      else if 320 < size then 1.0 / 0.0
      else Float.ofScientific m (e < 0) e.natAbs
  (if n.negative then -magnitude else magnitude).toBits

/-- Whether the bits of a double denote a finite number. -/
def isFinite (bits : UInt64) : Bool := bits.toNat / Nat.pow 2 52 % Nat.pow 2 11 ≠ 2047

/-- An exponent part: nothing, or the letter e, an optional sign and digits to the end. -/
def readExponent? : List Char → Option Int
  | [] => some 0
  | c :: r =>
    if c = 'e' ∨ c = 'E' then
      match r with
      | '-' :: d => if d.all isDigit then (natOfDigits? 10 d).map fun n => -(n : Int) else none
      | '+' :: d => if d.all isDigit then (natOfDigits? 10 d).map (Int.ofNat ·) else none
      | d => if d.all isDigit then (natOfDigits? 10 d).map (Int.ofNat ·) else none
    else none

/-- A decimal numeral that takes the whole text: an optional sign, digits with an optional point
and at least one digit, and an optional exponent. -/
def readNumeral? (s : List Char) : Option Numeral :=
  let (negative, s) :=
    match s with
    | '-' :: r => (true, r)
    | '+' :: r => (false, r)
    | r => (false, r)
  let whole := s.takeWhile isDigit
  let rest := s.dropWhile isDigit
  let (fraction, rest) :=
    match rest with
    | '.' :: r => (r.takeWhile isDigit, r.dropWhile isDigit)
    | r => ([], r)
  if whole.isEmpty ∧ fraction.isEmpty then none
  else (readExponent? rest).map fun e => ⟨negative, whole, fraction, e⟩

end Rehearsal.Decimal
