import Rehearsal.Text.Numeral

/-!
# Punycode

Labels of host names in ASCII: the ASCII characters of a label stand first, and digits of a
variable base tell which others come where. `decode?` reads what `encode` writes.
-/

namespace Rehearsal.Url.Punycode

/-- The number of digits. -/
def base : Nat := 36

/-- The new bias after a delta that was shared among some characters. -/
def adapt (delta count : Nat) (first : Bool) : Nat :=
  let d := if first then delta / 700 else delta / 2
  let rec shrink (fuel d k : Nat) : Nat :=
    match fuel with
    | 0 => k + 36 * d / (d + 38)
    | fuel + 1 => if 455 < d then shrink fuel (d / 35) (k + base) else k + 36 * d / (d + 38)
  shrink (d + 1) (d + d / count) 0

/-- The least digit at a position that does not end a number. -/
def threshold (k bias : Nat) : Nat := if k ≤ bias then 1 else min (k - bias) 26

/-- A digit below 36: letters come first. -/
def digit (n : Nat) : Char := if n < 26 then Char.ofNat (97 + n) else Char.ofNat (22 + n)

/-- The value of a digit. -/
def digitValue? (c : Char) : Option Nat :=
  let n := c.toNat
  if 97 ≤ n ∧ n ≤ 122 then some (n - 97)
  else if 65 ≤ n ∧ n ≤ 90 then some (n - 65)
  else if 48 ≤ n ∧ n ≤ 57 then some (n - 22)
  else none

/-- A number in digits of a variable base, from a position on. -/
def writeNumber (fuel q k bias : Nat) : List Char :=
  match fuel with
  | 0 => []
  | fuel + 1 =>
    let t := threshold k bias
    if q < t then [digit q]
    else digit (t + (q - t) % (base - t)) :: writeNumber fuel ((q - t) / (base - t)) (k + base) bias

/-- The state of writing: what was written, the next code point, the distance to it, the bias, and
the number of characters written. -/
structure Writing where
  out : List Char
  delta : Nat
  bias : Nat
  count : Nat
  basic : Nat

/-- One character of the label while code points below `m` are written. -/
def Writing.pass (m : Nat) (w : Writing) (c : Char) : Writing :=
  let n := c.toNat
  if n < m then { w with delta := w.delta + 1 }
  else if n = m then
    { w with
      out := w.out ++ writeNumber (w.delta + 2) w.delta base w.bias
      bias := adapt w.delta (w.count + 1) (w.count = w.basic)
      delta := 0
      count := w.count + 1 }
  else w

/-- The code points of a label that are not ASCII, in order and without repetition. -/
def pending (s : List Char) : List Nat :=
  ((s.map Char.toNat).filter (128 ≤ ·)).mergeSort.eraseDups

/-- All characters from one code point on. -/
def writeFrom (s : List Char) (n : Nat) (w : Writing) : List Nat → Writing
  | [] => w
  | m :: rest =>
    let w := { w with delta := w.delta + (m - n) * (w.count + 1) }
    let w := s.foldl (Writing.pass m) w
    writeFrom s (m + 1) { w with delta := w.delta + 1 } rest

/-- A label in ASCII. -/
def encode (s : List Char) : List Char :=
  let basic := s.filter (·.toNat < 128)
  let lead := if basic.isEmpty then [] else basic ++ ['-']
  (writeFrom s 128 ⟨lead, 0, 72, basic.length, basic.length⟩ (pending s)).out

/-- Numbers from here on are too large to be read. -/
def tooLarge : Nat := Nat.pow 2 32

/-- A number of a variable base and the digits after it. -/
def readNumber? (i w k bias : Nat) : List Char → Option (Nat × List Char)
  | [] => none
  | c :: r => do
    let d ← digitValue? c
    let j := i + d * w
    let t := threshold k bias
    if tooLarge ≤ j then none
    else if d < t then return (j, r)
    else if tooLarge ≤ w * (base - t) then none
    else readNumber? j (w * (base - t)) (k + base) bias r

/-- The characters of a label after those that were read. -/
def readFrom? (fuel n i bias : Nat) (first : Bool) (out : List Char) (s : List Char) :
    Option (List Char) :=
  match fuel with
  | 0 => some out
  | fuel + 1 =>
    match s with
    | [] => some out
    | s => do
      let (j, r) ← readNumber? i 1 base bias s
      let count := out.length + 1
      let bias := adapt (j - i) count first
      let n := n + j / count
      let at' := j % count
      if 0x10FFFF < n ∨ (0xD800 ≤ n ∧ n ≤ 0xDFFF) then none
      else readFrom? fuel n (at' + 1) bias false (out.take at' ++ Char.ofNat n :: out.drop at') r

/-- The label that a text denotes. What stands before the last dash are its ASCII characters; if that
is nothing, the dash has no sense. -/
def decode? (s : List Char) : Option (List Char) :=
  let back := s.reverse
  let (lead, digits) :=
    match back.dropWhile (· ≠ '-') with
    | _ :: c :: lead => ((c :: lead).reverse, (back.takeWhile (· ≠ '-')).reverse)
    | _ => ([], s)
  if lead.any (128 ≤ ·.toNat) then none
  else readFrom? (digits.length + 1) 128 0 72 true lead digits

end Rehearsal.Url.Punycode
