import Rehearsal.Base64

/-!
# Base64 texts

What `Base64.encode` writes is a text of symbols with padding after it (`encode_eq`): the symbols of
the six-bit values of the bytes, group by group. Each part of the reader sees through that form: no
byte stands in a wrong place (`wrongByte_symbols`, `wrongByte_pads`), no bit of the last symbol is
spare (`spareBits_sextets`), and the values join to the bytes again (`join_sextets`). Hence
`decode_encode`: all bytes are read back from what was written.
-/

namespace Rehearsal.Base64

open Text

/-! ## Symbols -/

/-- The byte of the symbol of a six-bit value. -/
def symbolByte (n : Nat) : UInt8 := UInt8.ofNat (symbol n).toNat

theorem symbolValue?_symbolByte : ∀ n < 64, symbolValue? (symbolByte n) = some n := by
  decide +kernel

theorem symbolByte_ne_pad : ∀ n < 64, symbolByte n ≠ pad := by
  decide +kernel

theorem utf8Char_symbol : ∀ n < 64, utf8Char (symbol n) = [symbolByte n] := by
  decide +kernel

theorem isBlank_symbol : ∀ n < 64, isBlank (symbol n) = false := by
  decide +kernel

/-! ## What is written -/

/-- The six-bit values of bytes; zero bits fill up the last one. -/
def sextets : List UInt8 → List Nat
  | [] => []
  | [a] => [a.toNat / 4, a.toNat % 4 * 16]
  | [a, b] =>
    let n := a.toNat * 256 + b.toNat
    [n / 1024, n / 16 % 64, n % 16 * 4]
  | a :: b :: c :: r =>
    let n := a.toNat * 65536 + b.toNat * 256 + c.toNat
    n / 262144 :: n / 4096 % 64 :: n / 64 % 64 :: n % 64 :: sextets r

/-- How many padding symbols follow the symbols of bytes. -/
def padding (bytes : List UInt8) : Nat := (3 - bytes.length % 3) % 3

theorem encode_eq (bytes : List UInt8) :
    encode bytes = (sextets bytes).map symbol ++ List.replicate (padding bytes) '=' := by
  fun_induction encode bytes with
  | case1 => rfl
  | case2 a n => rfl
  | case3 a b n => rfl
  | case4 a b c r n ih =>
    have hp : padding (a :: b :: c :: r) = padding r := by
      simp only [padding, List.length_cons]
      omega
    rw [ih, hp]
    rfl

theorem sextets_lt (bytes : List UInt8) : ∀ n ∈ sextets bytes, n < 64 := by
  fun_induction sextets bytes with
  | case1 => simp
  | case2 a =>
    have := a.toNat_lt
    simp only [List.forall_mem_cons, List.not_mem_nil, false_imp_iff, implies_true, and_true]
    omega
  | case3 a b n =>
    have := a.toNat_lt
    have := b.toNat_lt
    simp only [List.forall_mem_cons, List.not_mem_nil, false_imp_iff, implies_true, and_true]
    omega
  | case4 a b c r n ih =>
    have := a.toNat_lt
    have := b.toNat_lt
    have := c.toNat_lt
    simp only [List.forall_mem_cons]
    refine ⟨?_, ?_, ?_, ?_, ih⟩ <;> omega

theorem length_sextets (bytes : List UInt8) :
    (sextets bytes).length = bytes.length + (bytes.length + 2) / 3 := by
  fun_induction sextets bytes with
  | case1 => rfl
  | case2 a => simp
  | case3 a b n => simp
  | case4 a b c r n ih =>
    simp only [List.length_cons, ih]
    omega

theorem join_sextets (bytes : List UInt8) : join (sextets bytes) = bytes := by
  fun_induction sextets bytes with
  | case1 => rfl
  | case2 a =>
    have := a.toNat_lt
    simp only [join]
    rw [show a.toNat / 4 * 4 + a.toNat % 4 * 16 / 16 = a.toNat by omega, UInt8.ofNat_toNat]
  | case3 a b n =>
    have := a.toNat_lt
    have := b.toNat_lt
    simp only [join]
    rw [show n / 1024 * 4 + n / 16 % 64 / 16 = a.toNat by omega,
      show n / 16 % 64 % 16 * 16 + n % 16 * 4 / 4 = b.toNat by omega, UInt8.ofNat_toNat,
      UInt8.ofNat_toNat]
  | case4 a b c r n ih =>
    have := a.toNat_lt
    have := b.toNat_lt
    have := c.toNat_lt
    have hn : n / 262144 * 262144 + n / 4096 % 64 * 4096 + n / 64 % 64 * 64 + n % 64 = n := by omega
    simp only [join, hn, ih]
    rw [show n / 65536 = a.toNat by omega, show n / 256 % 256 = b.toNat by omega,
      show n % 256 = c.toNat by omega, UInt8.ofNat_toNat, UInt8.ofNat_toNat, UInt8.ofNat_toNat]

theorem spareBits_add_four (count last : Nat) :
    spareBits (count + 4) last = spareBits count last := by
  simp [spareBits]

theorem spareBits_sextets (bytes : List UInt8) :
    spareBits (sextets bytes).length ((sextets bytes).getLast?.getD 0) = 0 := by
  fun_induction sextets bytes with
  | case1 => rfl
  | case2 a => simp [spareBits]
  | case3 a b n => simp [spareBits]
  | case4 a b c r n ih =>
    cases hs : sextets r with
    | nil => simp [spareBits]
    | cons d s =>
      rw [hs] at ih
      simpa [spareBits_add_four] using ih

/-! ## What is read -/

/-- The bytes of the symbols of some values, and then padding. -/
def written (values : List Nat) (pads : Nat) : List UInt8 :=
  values.map symbolByte ++ List.replicate pads pad

theorem utf8_encode (bytes : List UInt8) :
    utf8 (encode bytes) = written (sextets bytes) (padding bytes) := by
  have hp : utf8 (List.replicate (padding bytes) '=') = List.replicate (padding bytes) pad := by
    induction padding bytes with
    | zero => rfl
    | succ k ih =>
      simp only [utf8, List.replicate_succ, List.flatMap_cons] at ih ⊢
      rw [ih]
      rfl
  have hs : ∀ values : List Nat, (∀ n ∈ values, n < 64) →
      utf8 (values.map symbol) = values.map symbolByte := by
    intro values h
    induction values with
    | nil => rfl
    | cons n values ih =>
      obtain ⟨hn, hv⟩ := List.forall_mem_cons.1 h
      simp only [utf8, List.map_cons, List.flatMap_cons, utf8Char_symbol n hn] at ih ⊢
      rw [ih hv]
      rfl
  have happ (s t : List Char) : utf8 (s ++ t) = utf8 s ++ utf8 t := List.flatMap_append
  rw [encode_eq, happ, hs _ (sextets_lt bytes), hp, written]

theorem filterMap_symbolByte {values : List Nat} (h : ∀ n ∈ values, n < 64) :
    (values.map symbolByte).filterMap symbolValue? = values := by
  induction values with
  | nil => rfl
  | cons n values ih =>
    obtain ⟨hn, hv⟩ := List.forall_mem_cons.1 h
    rw [List.map_cons, List.filterMap_cons_some (symbolValue?_symbolByte n hn), ih hv]

theorem wrongByte_symbols {values : List Nat} (h : ∀ n ∈ values, n < 64) (offset : Nat)
    (rest : List UInt8) :
    wrongByte offset none (values.map symbolByte ++ rest) =
      wrongByte (offset + values.length) none rest := by
  induction values generalizing offset with
  | nil => rfl
  | cons n values ih =>
    obtain ⟨hn, hv⟩ := List.forall_mem_cons.1 h
    simp only [List.map_cons, List.cons_append, wrongByte, if_neg (symbolByte_ne_pad n hn),
      symbolValue?_symbolByte n hn, Option.isNone_some, Bool.false_eq_true, if_false, ih hv,
      List.length_cons]
    congr 1
    omega

theorem wrongByte_pads (offset pads : Nat) (firstPad : Option Nat)
    (h : pads = 0 ∨ 2 ≤ offset % 4 ∧ offset % 4 + pads ≤ 4) :
    wrongByte offset firstPad (List.replicate pads pad) = none := by
  induction pads generalizing offset firstPad with
  | zero => rfl
  | succ k ih =>
    obtain ⟨h2, h4⟩ := h.resolve_left (by omega)
    simp only [List.replicate_succ, wrongByte, if_true, if_neg (show ¬offset % 4 < 2 by omega)]
    exact ih _ _ (by omega)

/-- A text of symbols that is padded to groups of four is read, unless its last symbol has spare
bits. -/
theorem decodeBytes_written {values : List Nat} {pads : Nat} (hv : ∀ n ∈ values, n < 64)
    (hlen : (values.length + pads) % 4 = 0) (hp : pads ≤ 2) :
    decodeBytes (written values pads) =
      if spareBits values.length (values.getLast?.getD 0) ≠ 0 then
        .error (.lastSymbol ((values.map symbolByte).getLast?.getD 0) (values.length - 1))
      else .ok (join values) := by
  have hlen' : (written values pads).length % 4 = 0 := by simpa [written] using hlen
  have hwrong : wrongByte 0 none (written values pads) = none := by
    rw [written, wrongByte_symbols hv]
    exact wrongByte_pads _ _ _ (by omega)
  have hfirst : ∀ b ∈ values.map symbolByte, (decide (b ≠ pad)) = true := by
    intro b hb
    obtain ⟨n, hn, rfl⟩ := List.mem_map.1 hb
    simpa using symbolByte_ne_pad n (hv n hn)
  have htake : (written values pads).takeWhile (· ≠ pad) = values.map symbolByte := by
    rw [written, List.takeWhile_append_of_pos hfirst, List.takeWhile_replicate]
    simp
  unfold decodeBytes
  simp only [hlen', hwrong, htake, filterMap_symbolByte hv, List.length_map, ne_eq,
    not_true, if_false, Nat.zero_ne_one]

/-- Bytes are read back from the text that was written for them. -/
theorem decode_encode (bytes : List UInt8) : decode (encode bytes) = .ok bytes := by
  have hlen := length_sextets bytes
  have hpad : padding bytes = (3 - bytes.length % 3) % 3 := rfl
  rw [decode, utf8_encode, decodeBytes_written (sextets_lt bytes) (by omega) (by omega),
    if_neg fun h => h (spareBits_sextets bytes), join_sextets]

theorem isBlank_encode {bytes : List UInt8} {c : Char} (h : c ∈ encode bytes) :
    isBlank c = false := by
  rw [encode_eq, List.mem_append] at h
  rcases h with h | h
  · obtain ⟨n, hn, rfl⟩ := List.mem_map.1 h
    exact isBlank_symbol n (sextets_lt bytes n hn)
  · rw [(List.mem_replicate.1 h).2]
    decide

theorem trim_encode (bytes : List UInt8) : trim (encode bytes) = encode bytes :=
  trim_eq_self (fun _ h => isBlank_encode (List.mem_of_mem_head? h))
    fun _ h => isBlank_encode (List.mem_of_getLast? h)

end Rehearsal.Base64
