/-!
# Bytes as text

UTF-8 in both directions. `decode?` refuses what is not UTF-8; `decodeLossy` puts U+FFFD for each
maximal part that cannot be continued to a character.
-/

namespace Rehearsal.Text

/-- The bytes of one character. -/
def utf8Char (c : Char) : List UInt8 :=
  let n := c.toNat
  if n < 0x80 then [UInt8.ofNat n]
  else if n < 0x800 then [UInt8.ofNat (0xC0 + n / 64), UInt8.ofNat (0x80 + n % 64)]
  else if n < 0x10000 then
    [UInt8.ofNat (0xE0 + n / 4096), UInt8.ofNat (0x80 + n / 64 % 64), UInt8.ofNat (0x80 + n % 64)]
  else
    [UInt8.ofNat (0xF0 + n / 262144), UInt8.ofNat (0x80 + n / 4096 % 64),
      UInt8.ofNat (0x80 + n / 64 % 64), UInt8.ofNat (0x80 + n % 64)]

/-- The UTF-8 bytes of a text. -/
def utf8 (s : List Char) : List UInt8 := s.flatMap utf8Char

/-- The number of UTF-8 bytes of a text. -/
def utf8Length (s : List Char) : Nat := (utf8 s).length

/-- A byte that continues a character. -/
def isContinuation (b : UInt8) : Bool := 0x80 ≤ b && b < 0xC0

/-- How a sequence of bytes starts: a character of some bytes, or that many bytes of a broken one. -/
inductive Utf8Start where
  | char (c : Char) (length : Nat)
  | broken (length : Nat)

/-- The second byte that may follow a leading byte: overlong forms, surrogates and values past
U+10FFFF are excluded there. -/
def secondByteOk (lead b : UInt8) : Bool :=
  if lead == 0xE0 then 0xA0 ≤ b && b < 0xC0
  else if lead == 0xED then 0x80 ≤ b && b < 0xA0
  else if lead == 0xF0 then 0x90 ≤ b && b < 0xC0
  else if lead == 0xF4 then 0x80 ≤ b && b < 0x90
  else isContinuation b

/-- The start of a sequence of bytes that begins with `lead`. -/
def utf8Start (lead : UInt8) (rest : List UInt8) : Utf8Start :=
  let low (b : UInt8) : Nat := b.toNat % 64
  if lead < 0x80 then .char (Char.ofNat lead.toNat) 1
  else if lead < 0xC2 || 0xF5 ≤ lead then .broken 1
  else if lead < 0xE0 then
    match rest with
    | b :: _ =>
      if isContinuation b then .char (Char.ofNat ((lead.toNat - 0xC0) * 64 + low b)) 2
      else .broken 1
    | [] => .broken 1
  else
    match rest with
    | [] => .broken 1
    | b :: rest =>
      if !secondByteOk lead b then .broken 1
      else
        match rest with
        | [] => .broken 2
        | c :: rest =>
          if !isContinuation c then .broken 2
          else if lead < 0xF0 then
            .char (Char.ofNat ((lead.toNat - 0xE0) * 4096 + low b * 64 + low c)) 3
          else
            match rest with
            | [] => .broken 3
            | d :: _ =>
              if !isContinuation d then .broken 3
              else .char (Char.ofNat
                ((lead.toNat - 0xF0) * 262144 + low b * 4096 + low c * 64 + low d)) 4

/-- The text that bytes denote, with `replacement` for what is no character; `none` there if
nothing is to be replaced. -/
def decodeWith (replacement : Option Char) : Nat → List UInt8 → Option (List Char)
  | _, [] => some []
  | skip + 1, _ :: rest => decodeWith replacement skip rest
  | 0, b :: rest =>
    match utf8Start b rest with
    | .char c n => (decodeWith replacement (n - 1) rest).map (c :: ·)
    | .broken n =>
      match replacement with
      | none => none
      | some r => (decodeWith replacement (n - 1) rest).map (r :: ·)

/-- The text that bytes denote, if they are UTF-8. -/
def decode? (bytes : List UInt8) : Option (List Char) := decodeWith none 0 bytes

/-- The text of bytes, with U+FFFD where they are not UTF-8. -/
def decodeLossy (bytes : List UInt8) : List Char :=
  (decodeWith (some (Char.ofNat 0xFFFD)) 0 bytes).getD []

end Rehearsal.Text
