/-!
# Numerals

Natural numbers and bytes as digits of a base, and back. `digit` and `digitValue?` are inverse on
the digits of a base up to 36; decimal numerals are written without leading zeros.
-/

namespace Rehearsal.Text

/-- The value of a digit or letter in bases up to 36. -/
def digitValue? (c : Char) : Option Nat :=
  if '0' ≤ c ∧ c ≤ '9' then some (c.toNat - 48)
  else if 'a' ≤ c ∧ c ≤ 'z' then some (c.toNat - 87)
  else if 'A' ≤ c ∧ c ≤ 'Z' then some (c.toNat - 55)
  else none

/-- The lower-case digit of a value below 36. -/
def digit (n : Nat) : Char := if n < 10 then Char.ofNat (48 + n) else Char.ofNat (87 + n)

/-- An ASCII digit. -/
def isDigit (c : Char) : Bool := '0' ≤ c && c ≤ '9'

/-- The number that a list of digits of a base denotes; `none` if empty or if one is no digit. -/
def natOfDigits? (base : Nat) (s : List Char) : Option Nat :=
  if s.isEmpty then none
  else s.foldlM (fun n c =>
    match digitValue? c with
    | some d => if d < base then some (n * base + d) else none
    | none => none) 0

/-- The decimal numeral of a number. -/
def decimal (n : Nat) : List Char := Nat.toDigits 10 n

theorem toList_number (n : Nat) : (s!"{n}").toList = decimal n := by
  simp [decimal]

theorem isDigit_decimal {n : Nat} {c : Char} (h : c ∈ decimal n) : c.isDigit = true :=
  Nat.isDigit_of_mem_toDigits (by omega) (by omega) h

theorem decimal_inj {n m : Nat} : decimal n = decimal m ↔ n = m := by
  refine ⟨fun h => ?_, congrArg decimal⟩
  have hn : Nat.ofDigitChars 10 (decimal n) 0 = n := Nat.ofDigitChars_ten_toDigits
  have hm : Nat.ofDigitChars 10 (decimal m) 0 = m := Nat.ofDigitChars_ten_toDigits
  rw [← hn, h, hm]

/-- The decimal numeral of an integer, with a minus sign if it is negative. -/
def decimalInt (n : Int) : List Char :=
  if n < 0 then '-' :: decimal n.natAbs else decimal n.natAbs

/-- A decimal numeral with zeros in front up to a width. -/
def paddedDecimal (width n : Nat) : List Char :=
  let d := decimal n
  List.replicate (width - d.length) '0' ++ d

/-- The hexadecimal numeral of a number, in lower case. -/
def hexadecimal (n : Nat) : List Char := Nat.toDigits 16 n

/-- Two hexadecimal digits per byte, in lower case. -/
def hexOfBytes (bytes : List UInt8) : List Char :=
  bytes.flatMap fun b => [digit (b.toNat / 16), digit (b.toNat % 16)]

/-- The bytes that pairs of hexadecimal digits denote. -/
def bytesOfHex? : List Char → Option (List UInt8)
  | [] => some []
  | a :: b :: r => do
    let x ← digitValue? a
    let y ← digitValue? b
    if x < 16 ∧ y < 16 then
      let rest ← bytesOfHex? r
      return UInt8.ofNat (16 * x + y) :: rest
    else none
  | [_] => none

end Rehearsal.Text
