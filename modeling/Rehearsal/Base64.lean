import Rehearsal.Text.Blank
import Rehearsal.Text.Utf8

/-!
# Base64

The standard alphabet with padding. `encode` writes four symbols for three bytes; `decode` accepts
exactly the texts that `encode` writes, and otherwise names the first fault. Offsets count bytes.
-/

namespace Rehearsal.Base64

/-- The symbol of a six-bit value. -/
def symbol (n : Nat) : Char :=
  if n < 26 then Char.ofNat (65 + n)
  else if n < 52 then Char.ofNat (71 + n)
  else if n < 62 then Char.ofNat (n - 4)
  else if n = 62 then '+'
  else '/'

/-- The six-bit value of a symbol, given as a byte. -/
def symbolValue? (b : UInt8) : Option Nat :=
  let n := b.toNat
  if 65 ≤ n ∧ n ≤ 90 then some (n - 65)
  else if 97 ≤ n ∧ n ≤ 122 then some (n - 71)
  else if 48 ≤ n ∧ n ≤ 57 then some (n + 4)
  else if n = 43 then some 62
  else if n = 47 then some 63
  else none

/-- The padding symbol as a byte. -/
def pad : UInt8 := 61

/-- The padded base64 text of bytes. -/
def encode : List UInt8 → List Char
  | [] => []
  | [a] =>
    let n := a.toNat
    [symbol (n / 4), symbol (n % 4 * 16), '=', '=']
  | [a, b] =>
    let n := a.toNat * 256 + b.toNat
    [symbol (n / 1024), symbol (n / 16 % 64), symbol (n % 16 * 4), '=']
  | a :: b :: c :: r =>
    let n := a.toNat * 65536 + b.toNat * 256 + c.toNat
    symbol (n / 262144) :: symbol (n / 4096 % 64) :: symbol (n / 64 % 64) :: symbol (n % 64) ::
      encode r

/-- Why a text is not base64. -/
inductive Fault where
  /-- A byte that is no symbol, or padding in the wrong place. -/
  | byte (value : UInt8) (offset : Nat)
  /-- One symbol more than a multiple of four. -/
  | length
  /-- A last symbol with bits that belong to no byte. -/
  | lastSymbol (value : UInt8) (offset : Nat)
  /-- Padding that is missing. -/
  | padding
  deriving DecidableEq

/-- The wording of a fault. -/
def Fault.message : Fault → String
  | .byte value offset => s!"Invalid byte {value}, offset {offset}."
  | .length => "Encoded text cannot have a 6-bit remainder."
  | .lastSymbol value offset => s!"Invalid last symbol {value}, offset {offset}."
  | .padding => "Invalid padding"

/-- The first byte that stands in a wrong place, from an offset on; padding that is followed by
anything but padding is at fault itself. -/
def wrongByte (offset : Nat) (firstPad : Option Nat) : List UInt8 → Option Fault
  | [] => none
  | b :: r =>
    if b = pad then
      if offset % 4 < 2 then some (.byte pad (firstPad.getD offset))
      else wrongByte (offset + 1) (some (firstPad.getD offset)) r
    else
      match firstPad with
      | some p => some (.byte pad p)
      | none =>
        if (symbolValue? b).isNone then some (.byte b offset)
        else wrongByte (offset + 1) none r

/-- The bytes of six-bit values; bits past the last whole byte are dropped. -/
def join : List Nat → List UInt8
  | a :: b :: c :: d :: r =>
    let n := a * 262144 + b * 4096 + c * 64 + d
    UInt8.ofNat (n / 65536) :: UInt8.ofNat (n / 256 % 256) :: UInt8.ofNat (n % 256) :: join r
  | [a, b, c] => [UInt8.ofNat (a * 4 + b / 16), UInt8.ofNat (b % 16 * 16 + c / 4)]
  | [a, b] => [UInt8.ofNat (a * 4 + b / 16)]
  | _ => []

/-- The bits of the last symbol that belong to no byte, given the number of symbols. -/
def spareBits (count last : Nat) : Nat :=
  if count % 4 = 2 then last % 16 else if count % 4 = 3 then last % 4 else 0

/-- The bytes of a padded base64 text, given as bytes. -/
def decodeBytes (s : List UInt8) : Except Fault (List UInt8) :=
  let alone : Option Fault :=
    if s.length % 4 = 1 then
      match s.getLast? with
      | some b =>
        if b ≠ pad ∧ (symbolValue? b).isNone then some (.byte b (s.length - 1)) else some .length
      | none => none
    else none
  match alone with
  | some f => .error f
  | none =>
    match wrongByte 0 none s with
    | some f => .error f
    | none =>
      if s.length % 4 ≠ 0 then .error .padding
      else
        let symbols := s.takeWhile (· ≠ pad)
        let values := symbols.filterMap symbolValue?
        let last := values.getLast?.getD 0
        if spareBits symbols.length last ≠ 0 then
          .error (.lastSymbol (symbols.getLast?.getD 0) (symbols.length - 1))
        else .ok (join values)

/-- The bytes of a padded base64 text. -/
def decode (s : List Char) : Except Fault (List UInt8) := decodeBytes (Text.utf8 s)

end Rehearsal.Base64
