import Rehearsal.Data.Value
import Rehearsal.Decimal.Text
import Rehearsal.Json.Cursor

/-!
# JSON numbers

Integers of 64 bits are exact. All others are floating-point numbers: the first digits that make an
integer of 64 bits, times or divided by a power of ten, with a rounding at each of these steps.
-/

namespace Rehearsal.Json

open Rehearsal.Text

/-- The number that a significand makes with more digits while it has 64 bits, and how many digits
are left over then. -/
def significand (n : Nat) : List Char → Nat × Nat
  | [] => (n, 0)
  | d :: r =>
    let next := 10 * n + (d.toNat - 48)
    if next < Nat.pow 2 64 then significand next r else (n, r.length + 1)

/-- The floating-point number nearest to a power of ten. -/
def powerOfTen (exponent : Nat) : Float := Float.ofScientific 1 false exponent

/-- A number times a power of ten; `none` if it is too large. Small powers take several steps. -/
def scale? (fuel : Nat) (f : Float) (exponent : Int) : Option Float :=
  match fuel with
  | 0 => some f
  | fuel + 1 =>
    if f == 0 then some f
    else if 308 < exponent then none
    else if 0 ≤ exponent then
      let product := f * powerOfTen exponent.natAbs
      if Decimal.isFinite product.toBits then some product else none
    else if -308 ≤ exponent then some (f / powerOfTen exponent.natAbs)
    else scale? fuel (f / powerOfTen 308) (exponent + 308)

/-- The floating-point number of a significand and a power of ten. -/
def scaled? (negative : Bool) (n : Nat) (exponent : Int) : Option Data.Value :=
  (scale? 4 (UInt64.ofNat n).toFloat exponent).map fun f =>
    .float (if negative then -f else f).toBits

/-- An integer that has no more than 64 bits. -/
def integerValue (negative : Bool) (n : Nat) : Data.Value :=
  if !negative then .int n
  else if n = 0 ∨ Nat.pow 2 63 < n then .float (-(UInt64.ofNat n).toFloat).toBits
  else .int (-(n : Int))

/-- What the number after an exponent mark must not exceed. -/
def exponentLimit : Nat := 2147483647

/-- The exponent that digits denote; `none`, and how many of them were read, if it is too large. -/
def exponentOf (read n : Nat) : List Char → Except Nat Nat
  | [] => .ok n
  | d :: r =>
    let next := 10 * n + (d.toNat - 48)
    if next ≤ exponentLimit then exponentOf (read + 1) next r else .error (read + 1)

/-- The number of a significand, the power of ten it stands for, and an exponent at the cursor if
there is one. -/
def withExponentAt (negative : Bool) (n : Nat) (power : Int) (c : Cursor) :
    Except Fault (Data.Value × Cursor) :=
  let finish (exponent : Int) (c : Cursor) : Except Fault (Data.Value × Cursor) :=
    match scaled? negative n exponent with
    | some v => .ok (v, c)
    | none => .error (c.fault .numberOutOfRange)
  match c.rest with
  | e :: _ =>
    if e = 'e' ∨ e = 'E' then
      let c := c.skip
      let (minus, c) :=
        match c.rest with
        | '-' :: _ => (true, c.skip)
        | '+' :: _ => (false, c.skip)
        | _ => (false, c)
      let (ds, stop) := c.digits
      if ds.isEmpty then
        if c.rest.isEmpty then .error (c.fault .endInValue) else .error ((c.skipBytes 1 c.rest).fault .invalidNumber)
      else
        match exponentOf 0 0 ds with
        | .ok k => finish (if minus then power - k else power + k) stop
        | .error read =>
          if n ≠ 0 && !minus then .error ((c.skipN read).fault .numberOutOfRange)
          else .ok (.float (if negative then -0.0 else 0.0 : Float).toBits, stop)
    else finish power c
  | [] => finish power c

/-- A number at a cursor. -/
def numberAt (c : Cursor) : Except Fault (Data.Value × Cursor) :=
  let negative := c.rest.head? = some '-'
  let start := if negative then c.skip else c
  let (whole, c) := start.digits
  match whole with
  | [] =>
    if c.rest.isEmpty then .error (c.fault .endInValue) else .error ((c.skipBytes 1 c.rest).fault .invalidNumber)
  | '0' :: _ :: _ => .error (start.skip.peekFault .invalidNumber)
  | _ =>
    let (n, left) := significand 0 whole
    match c.rest with
    | '.' :: _ =>
      let (fraction, c) := c.skip.digits
      if fraction.isEmpty then
        .error (c.peekFault (if c.rest.isEmpty then .endInValue else .invalidNumber))
      else
        let (n, ignored) := significand n fraction
        withExponentAt negative n ((left : Int) - (fraction.length - ignored : Nat)) c
    | x :: _ =>
      if x = 'e' ∨ x = 'E' ∨ left ≠ 0 then withExponentAt negative n left c
      else .ok (integerValue negative n, c)
    | [] => if left ≠ 0 then withExponentAt negative n left c else .ok (integerValue negative n, c)

end Rehearsal.Json
