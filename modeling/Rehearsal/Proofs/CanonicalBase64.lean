import Rehearsal.Proofs.UploadExact
import Rehearsal.Proofs.Utf8Text

/-!
# Base64 texts are canonical

Each bytes have one base64 text. What the reader accepts is a text of symbols with padding after it,
since nothing else is left where no byte stands in a wrong place (`written_of_wrongByte`), and the
values of its symbols are the six-bit values of the bytes that are read, since no bit of them is
lost or spare (`sextets_join`). So a text is read as some bytes exactly if it is the one that is
written for them (`decode_ok`), and a fixture in base64 is decoded exactly if that text stands
between blanks (`EncodedFixture.decode_canonical`).
-/

namespace Rehearsal

namespace Base64

open Text

/-! ## Symbols -/

theorem symbolValue?_eq_some : ∀ {b : UInt8} {n : Nat}, symbolValue? b = some n →
    n < 64 ∧ b = symbolByte n := by
  have bytes : ∀ k < 256, ∀ n ∈ symbolValue? (UInt8.ofNat k),
      n < 64 ∧ UInt8.ofNat k = symbolByte n := by
    decide +kernel
  intro b n h
  have hb := bytes b.toNat b.toNat_lt n
  rw [UInt8.ofNat_toNat] at hb
  exact hb h

/-! ## Texts in which no byte stands in a wrong place -/

/-- After padding there is padding only, and no more than fills up four symbols. -/
theorem pads_of_wrongByte {s : List UInt8} {offset p : Nat}
    (h : wrongByte offset (some p) s = none) :
    s = List.replicate s.length pad ∧ (s = [] ∨ 2 ≤ offset % 4 ∧ offset % 4 + s.length ≤ 4) := by
  induction s generalizing offset with
  | nil => exact ⟨rfl, .inl rfl⟩
  | cons b s ih =>
    simp only [wrongByte] at h
    split at h
    · rename_i hb
      split at h
      · cases h
      · rename_i hoffset
        obtain ⟨hs, hlen⟩ := ih h
        refine ⟨by rw [List.length_cons, List.replicate_succ, ← hs, hb], .inr ?_⟩
        rw [List.length_cons]
        rcases hlen with rfl | hlen
        · rw [List.length_nil]
          omega
        · omega
    · cases h

/-- A text in which no byte stands in a wrong place is one of symbols with padding after it. -/
theorem written_of_wrongByte {s : List UInt8} {offset : Nat} (h : wrongByte offset none s = none) :
    ∃ values pads, (∀ n ∈ values, n < 64) ∧ s = written values pads ∧
      (pads = 0 ∨ 2 ≤ (offset + values.length) % 4 ∧ (offset + values.length) % 4 + pads ≤ 4) := by
  induction s generalizing offset with
  | nil => exact ⟨[], 0, nofun, rfl, .inl rfl⟩
  | cons b s ih =>
    have hwhole := h
    simp only [wrongByte] at h
    split at h
    · rename_i hb
      split at h
      · cases h
      · rename_i hoffset
        obtain ⟨hs, hlen⟩ := pads_of_wrongByte h
        refine ⟨[], s.length + 1, nofun, ?_, .inr ?_⟩
        · rw [written, List.map_nil, List.nil_append, List.replicate_succ, ← hs, hb]
        · rw [List.length_nil, Nat.add_zero]
          rcases hlen with rfl | hlen
          · rw [List.length_nil]
            omega
          · omega
    · split at h
      · cases h
      · rename_i hvalue
        obtain ⟨n, hn⟩ : ∃ n, symbolValue? b = some n := by
          cases hv : symbolValue? b with
          | none => simp [hv] at hvalue
          | some n => exact ⟨n, rfl⟩
        obtain ⟨hlt, rfl⟩ := symbolValue?_eq_some hn
        obtain ⟨values, pads, hv, rfl, hpads⟩ := ih h
        refine ⟨n :: values, pads, List.forall_mem_cons.2 ⟨hlt, hv⟩, rfl, ?_⟩
        rw [List.length_cons, Nat.add_comm values.length, ← Nat.add_assoc]
        exact hpads

/-! ## Values without spare bits -/

/-- Values without spare bits are the six-bit values of the bytes to which they join. -/
theorem sextets_join {values : List Nat} (hv : ∀ n ∈ values, n < 64)
    (hlen : values.length % 4 ≠ 1)
    (hs : spareBits values.length (values.getLast?.getD 0) = 0) :
    sextets (join values) = values := by
  fun_induction join values with
  | case1 a b c d r n ih =>
    simp only [List.forall_mem_cons] at hv
    obtain ⟨ha, hb, hc, hd, hr⟩ := hv
    have hn : n = a * 262144 + b * 4096 + c * 64 + d := rfl
    clear_value n
    have hrest : sextets (join r) = r := by
      refine ih hr (by simp only [List.length_cons] at hlen; omega) ?_
      cases r with
      | nil => rfl
      | cons e r =>
        simpa only [List.length_cons, spareBits_add_four, List.getLast?_cons_cons] using hs
    have hbytes : n / 65536 * 65536 + n / 256 % 256 * 256 + n % 256 = n := by omega
    simp only [sextets, hrest, UInt8.toNat_ofNat_of_lt' (show n / 65536 < 256 by omega),
      UInt8.toNat_ofNat_of_lt' (show n / 256 % 256 < 256 by omega),
      UInt8.toNat_ofNat_of_lt' (show n % 256 < 256 by omega), hbytes]
    rw [show n / 262144 = a by omega, show n / 4096 % 64 = b by omega,
      show n / 64 % 64 = c by omega, show n % 64 = d by omega]
  | case2 a b c =>
    simp only [List.forall_mem_cons] at hv
    obtain ⟨ha, hb, hc, -⟩ := hv
    have hc4 : c % 4 = 0 := hs
    simp only [sextets, UInt8.toNat_ofNat_of_lt' (show a * 4 + b / 16 < 256 by omega),
      UInt8.toNat_ofNat_of_lt' (show b % 16 * 16 + c / 4 < 256 by omega)]
    rw [show ((a * 4 + b / 16) * 256 + (b % 16 * 16 + c / 4)) / 1024 = a by omega,
      show ((a * 4 + b / 16) * 256 + (b % 16 * 16 + c / 4)) / 16 % 64 = b by omega,
      show ((a * 4 + b / 16) * 256 + (b % 16 * 16 + c / 4)) % 16 * 4 = c by omega]
  | case3 a b =>
    simp only [List.forall_mem_cons] at hv
    obtain ⟨ha, hb, -⟩ := hv
    have hb16 : b % 16 = 0 := hs
    simp only [sextets, UInt8.toNat_ofNat_of_lt' (show a * 4 + b / 16 < 256 by omega)]
    rw [show (a * 4 + b / 16) / 4 = a by omega, show (a * 4 + b / 16) % 4 * 16 = b by omega]
  | case4 values h4 h3 h2 =>
    rcases values with _ | ⟨a, _ | ⟨b, _ | ⟨c, _ | ⟨d, r⟩⟩⟩⟩
    · rfl
    · exact absurd rfl hlen
    · exact (h2 a b rfl).elim
    · exact (h3 a b c rfl).elim
    · exact (h4 a b c d r rfl).elim

/-! ## What is read -/

theorem decodeBytes_sound {s bytes : List UInt8} (h : decodeBytes s = .ok bytes) :
    wrongByte 0 none s = none ∧ s.length % 4 = 0 := by
  unfold decodeBytes at h
  simp only at h
  split at h
  · cases h
  · split at h
    · cases h
    · rename_i hwrong
      split at h
      · cases h
      · rename_i hlen
        exact ⟨hwrong, by simpa using hlen⟩

/-- What is read as some bytes is what is written for them. -/
theorem utf8_encode_of_decodeBytes {s bytes : List UInt8} (h : decodeBytes s = .ok bytes) :
    s = utf8 (encode bytes) := by
  obtain ⟨hwrong, hlen⟩ := decodeBytes_sound h
  obtain ⟨values, pads, hv, rfl, hpads⟩ := written_of_wrongByte hwrong
  have hlen : (values.length + pads) % 4 = 0 := by simpa [written] using hlen
  rw [decodeBytes_written hv hlen (by omega)] at h
  split at h
  · cases h
  · rename_i hs
    obtain rfl : join values = bytes := Except.ok.inj h
    have hjoin := sextets_join hv (by omega) (Decidable.not_not.1 hs)
    have hcount := length_sextets (join values)
    rw [hjoin] at hcount
    have hp : padding (join values) = pads := by
      unfold padding
      omega
    rw [utf8_encode, hjoin, hp]

/-- A text is read as some bytes exactly if it is the one that is written for them. -/
theorem decode_ok {s : List Char} {bytes : List UInt8} :
    decode s = .ok bytes ↔ s = encode bytes := by
  constructor
  · intro h
    have he := congrArg decode? (utf8_encode_of_decodeBytes h)
    rw [decode?_utf8, decode?_utf8] at he
    exact Option.some.inj he
  · rintro rfl
    exact decode_encode bytes

end Base64

namespace EncodedFixture

/-- **Fixtures in base64 are canonical.** A fixture in base64 is decoded to some bytes exactly if
its text, without the blanks around it, is the base64 text of these bytes; if it is the text of no
bytes, the fixture is refused under its name. -/
theorem decode_canonical (name : String) (data : List Char) :
    (∀ bytes, (base64 name data).decode = .ok bytes ↔ Text.trim data = Base64.encode bytes) ∧
    ((∀ bytes, Text.trim data ≠ Base64.encode bytes) ↔
      ∃ f : Base64.Fault, (base64 name data).decode = .error (.fixtureBroken name f.message)) := by
  simp only [← Base64.decode_ok, decode, ne_eq]
  rcases Base64.decode (Text.trim data) with f | b
  · refine ⟨fun bytes => ⟨fun h => ?_, fun h => ?_⟩, fun _ => ⟨f, rfl⟩, fun _ bytes h => ?_⟩
    · cases h
    · cases h
    · cases h
  · refine ⟨fun bytes => ?_, fun h => absurd rfl (h b), fun h => ?_⟩
    · rw [Except.ok.injEq, Except.ok.injEq]
    · obtain ⟨f, hf⟩ := h
      cases hf

/-- Blanks around a text do not count, blanks in it do; nor may padding be left out, or bits of the
last symbol stand for no byte. -/
example : (base64 "a" " Zm8= \n".toList).decode.toOption = some [102, 111] ∧
    (base64 "a" "Zm 8=".toList).decode.toOption = none ∧
    (base64 "a" "Zm8".toList).decode.toOption = none ∧
    (base64 "a" "Zm9=".toList).decode.toOption = none := by
  decide +kernel

end EncodedFixture
end Rehearsal
