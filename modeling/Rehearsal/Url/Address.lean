import Rehearsal.Text.Lines
import Rehearsal.Text.Numeral

/-!
# Internet addresses

Numeric hosts: four bytes, given in up to four numbers of base eight, ten or sixteen, or eight
pieces of sixteen bits, given in hexadecimal with one gap of zeros. They are written in one way
only.
-/

namespace Rehearsal.Url

open Text

/-! ## Four bytes -/

/-- What a part of a dotted address denotes. -/
inductive AddressPart where
  | number (n : Nat)
  | notANumber

/-- A number of a dotted address: hexadecimal after `0x`, octal after a zero, decimal otherwise. -/
def addressPart (s : List Char) : AddressPart :=
  let read (base : Nat) (digits : List Char) : AddressPart :=
    if digits.isEmpty then .number 0
    else
      match natOfDigits? base digits with
      | some n => .number n
      | none => .notANumber
  match s with
  | [] => .notANumber
  | '0' :: 'x' :: r => read 16 r
  | '0' :: 'X' :: r => read 16 r
  | '0' :: c :: r => read 8 (c :: r)
  | s => read 10 s

/-- Whether the last part of a host is a number, so that the host must be an address. -/
def endsInNumber (s : List Char) : Bool :=
  let parts := (splitOn '.' s).reverse
  let last : Option (List Char) :=
    match parts with
    | [] :: p :: _ => some p
    | [[]] => none
    | p :: _ => some p
    | [] => none
  match last with
  | none => false
  | some p =>
    (!p.isEmpty && p.all isDigit) ||
      match addressPart p with
      | .number _ => true
      | .notANumber => false

/-- The numbers of a dotted address. -/
def addressNumbers? : List (List Char) → Option (List Nat)
  | [] => some []
  | p :: r => do
    match addressPart p with
    | .notANumber => none
    | .number n =>
      if Nat.pow 2 32 ≤ n then none
      else
        let ns ← addressNumbers? r
        return n :: ns

/-- The address of four bytes that a text denotes. The last number fills all bytes that are left. -/
def readAddress4? (s : List Char) : Option Nat := do
  let parts := splitOn '.' s
  let parts := if parts.getLast? = some [] then parts.dropLast else parts
  if 4 < parts.length then none
  else
    let numbers ← addressNumbers? parts
    let last ← numbers.getLast?
    let front := numbers.dropLast
    if Nat.pow 256 (4 - front.length) ≤ last ∨ front.any (255 < ·) then none
    else return last + front.zipIdx.foldl (fun sum (n, i) => sum + n * Nat.pow 256 (3 - i)) 0

/-- An address of four bytes in decimal. -/
def writeAddress4 (n : Nat) : List Char :=
  joinWith ['.'] ([n / Nat.pow 256 3 % 256, n / Nat.pow 256 2 % 256, n / 256 % 256, n % 256].map decimal)

/-! ## Eight pieces -/

/-- Up to four hexadecimal digits and the text after them. -/
def hexPiece (s : List Char) : Nat × Nat × List Char :=
  let isHex (c : Char) : Bool :=
    match digitValue? c with
    | some d => d < 16
    | none => false
  let ds := (s.take 4).takeWhile isHex
  ((natOfDigits? 16 ds).getD 0, ds.length, s.drop ds.length)

/-- A decimal number below 256 without leading zeros, and the text after it. -/
def byteNumber? (s : List Char) : Option (Nat × List Char) :=
  let ds := s.takeWhile isDigit
  match natOfDigits? 10 ds with
  | none => none
  | some n =>
    if 255 < n ∨ (1 < ds.length ∧ ds.head? = some '0') then none else some (n, s.drop ds.length)

/-- Four decimal bytes that end an address. -/
def dottedTail? (s : List Char) : Option (Nat × Nat) := do
  let (a, r) ← byteNumber? s
  let some r := dropDot? r | none
  let (b, r) ← byteNumber? r
  let some r := dropDot? r | none
  let (c, r) ← byteNumber? r
  let some r := dropDot? r | none
  let (d, r) ← byteNumber? r
  if r.isEmpty then return (256 * a + b, 256 * c + d) else none
where
  /-- The text after a dot. -/
  dropDot? : List Char → Option (List Char)
    | '.' :: r => some r
    | _ => none

/-- Pieces before the gap if there is one, all pieces, and where the gap is. -/
structure Pieces where
  list : List Nat
  gap : Option Nat

/-- The pieces of an address from a piece on. -/
def piecesFrom? (fuel : Nat) (p : Pieces) (s : List Char) : Option Pieces :=
  match fuel with
  | 0 => none
  | fuel + 1 =>
    match s with
    | [] => some p
    | s =>
      if p.list.length = 8 then none
      else
        match s with
        | ':' :: r =>
          if p.gap.isSome then none
          else piecesFrom? fuel { p with gap := some p.list.length } r
        | s =>
          let (n, width, r) := hexPiece s
          match r with
          | '.' :: _ =>
            if width = 0 ∨ 6 < p.list.length then none
            else
              (dottedTail? s).map fun (a, b) => { p with list := p.list ++ [a, b] }
          | ':' :: r =>
            if width = 0 ∨ r.isEmpty then none
            else piecesFrom? fuel { p with list := p.list ++ [n] } r
          | [] => if width = 0 then none else some { p with list := p.list ++ [n] }
          | _ => none

/-- The eight pieces of the address that a text denotes. -/
def readAddress6? (s : List Char) : Option (List Nat) := do
  let p ←
    match s with
    | ':' :: ':' :: r => piecesFrom? (s.length + 1) ⟨[], some 0⟩ r
    | ':' :: _ => none
    | s => piecesFrom? (s.length + 1) ⟨[], none⟩ s
  match p.gap with
  | none => if p.list.length = 8 then some p.list else none
  | some g =>
    if 8 ≤ p.list.length then none
    else some (p.list.take g ++ List.replicate (8 - p.list.length) 0 ++ p.list.drop g)

/-- The zeros at the beginning of a list. -/
def leadingZeros (ps : List Nat) : Nat := (ps.takeWhile (· = 0)).length

/-- The first longest run of at least two zeros: where it starts and how long it is. -/
def longestZeros (ps : List Nat) : Option (Nat × Nat) :=
  (List.range ps.length).foldl (fun best i =>
    let n := leadingZeros (ps.drop i)
    match best with
    | some (_, m) => if m < n then some (i, n) else best
    | none => if 2 ≤ n then some (i, n) else none) none

/-- Pieces in hexadecimal with colons between them. -/
def writePieces (ps : List Nat) : List Char := joinWith [':'] (ps.map hexadecimal)

/-- An address of eight pieces, with two colons for its longest run of zeros. -/
def writeAddress6 (ps : List Nat) : List Char :=
  match longestZeros ps with
  | none => writePieces ps
  | some (i, n) => writePieces (ps.take i) ++ [':', ':'] ++ writePieces (ps.drop (i + n))

end Rehearsal.Url
