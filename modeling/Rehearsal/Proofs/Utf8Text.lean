import Rehearsal.Path

/-!
# UTF-8 in both directions

Bytes spell a character in one of four forms (`Spells`). What is written for a character is such a
form (`spells_utf8Char`), and the reader finds a character exactly where one stands
(`utf8Start_of_spells`, `spells_of_utf8Start`). So a text is read back from its bytes
(`decode?_utf8`, `decodeLossy_utf8`), and what is read from bytes has these bytes
(`utf8_of_decode?`). A path of the system is shown as the text that it is (`SystemPath.shown_ofPath`,
`SystemPath.isText_iff`), and joined as the text is (`SystemPath.join_ofPath`).
-/

namespace Rehearsal.Text

/-! ## The bytes of a character -/

theorem isContinuation_iff {b : UInt8} :
    isContinuation b = true ↔ 0x80 ≤ b.toNat ∧ b.toNat < 0xC0 := by
  simp [isContinuation, UInt8.le_iff_toNat_le, UInt8.lt_iff_toNat_lt]

/-- A second byte neither writes a character too long nor leaves Unicode. -/
theorem secondByteOk_iff {lead b : UInt8} : secondByteOk lead b = true ↔
    0x80 ≤ b.toNat ∧ b.toNat < 0xC0 ∧
      (lead.toNat = 0xE0 → 0xA0 ≤ b.toNat) ∧ (lead.toNat = 0xED → b.toNat < 0xA0) ∧
      (lead.toNat = 0xF0 → 0x90 ≤ b.toNat) ∧ (lead.toNat = 0xF4 → b.toNat < 0x90) := by
  have hlead (n : UInt8) : (lead == n) = decide (lead.toNat = n.toNat) := by
    rw [Bool.eq_iff_iff, beq_iff_eq, decide_eq_true_iff, UInt8.toNat_inj]
  simp only [secondByteOk, hlead, decide_eq_true_iff, UInt8.reduceToNat]
  repeat' split
  all_goals
    simp only [Bool.and_eq_true, decide_eq_true_iff, UInt8.le_iff_toNat_le,
      UInt8.lt_iff_toNat_lt, UInt8.reduceToNat, isContinuation_iff]
    omega

/-- Bytes that spell the character of a code. -/
inductive Spells : List UInt8 → Nat → Prop
  | one {a : UInt8} : a.toNat < 0x80 → Spells [a] a.toNat
  | two {a b : UInt8} : 0xC2 ≤ a.toNat → a.toNat < 0xE0 → isContinuation b = true →
    Spells [a, b] ((a.toNat - 0xC0) * 64 + b.toNat % 64)
  | three {a b c : UInt8} : 0xE0 ≤ a.toNat → a.toNat < 0xF0 → secondByteOk a b = true →
    isContinuation c = true →
    Spells [a, b, c] ((a.toNat - 0xE0) * 4096 + b.toNat % 64 * 64 + c.toNat % 64)
  | four {a b c d : UInt8} : 0xF0 ≤ a.toNat → a.toNat < 0xF5 → secondByteOk a b = true →
    isContinuation c = true → isContinuation d = true →
    Spells [a, b, c, d]
      ((a.toNat - 0xF0) * 262144 + b.toNat % 64 * 4096 + c.toNat % 64 * 64 + d.toNat % 64)

theorem utf8Start_of_spells {a : UInt8} {r : List UInt8} {n : Nat} (h : Spells (a :: r) n)
    (rest : List UInt8) : utf8Start a (r ++ rest) = .char (Char.ofNat n) (r.length + 1) := by
  -- the comparisons of the leading byte, as numbers
  have hlt (m : UInt8) : a < m ↔ a.toNat < m.toNat := UInt8.lt_iff_toNat_lt
  have hle (m : UInt8) : m ≤ a ↔ m.toNat ≤ a.toNat := UInt8.le_iff_toNat_le
  unfold utf8Start
  simp only [hlt, hle, UInt8.reduceToNat, Bool.or_eq_true, decide_eq_true_iff]
  cases h with
  | one ha => rw [if_pos ha, List.length_nil]
  | two ha ha' hb =>
    rw [if_neg (by omega), if_neg (by omega), if_pos ha']
    simp [hb]
  | three ha ha' hb hc =>
    rw [if_neg (by omega), if_neg (by omega), if_neg (by omega)]
    simp [hb, hc, ha']
  | four ha ha' hb hc hd =>
    rw [if_neg (by omega), if_neg (by omega), if_neg (by omega)]
    simp [hb, hc, hd, show ¬a.toNat < 240 by omega]

theorem spells_of_utf8Start {a : UInt8} {rest : List UInt8} {x : Char} {length : Nat}
    (h : utf8Start a rest = .char x length) : ∃ r t n, rest = r ++ t ∧ length = r.length + 1 ∧
      Spells (a :: r) n ∧ x = Char.ofNat n := by
  have hlt (m : UInt8) : a < m ↔ a.toNat < m.toNat := UInt8.lt_iff_toNat_lt
  have hle (m : UInt8) : m ≤ a ↔ m.toNat ≤ a.toNat := UInt8.le_iff_toNat_le
  unfold utf8Start at h
  simp only [hlt, hle, UInt8.reduceToNat, Bool.or_eq_true, decide_eq_true_iff] at h
  split at h
  · rename_i ha
    cases h
    exact ⟨[], rest, _, rfl, rfl, .one ha, rfl⟩
  split at h
  · cases h
  split at h
  · rename_i ha
    split at h
    · rename_i b t
      split at h
      · rename_i hb
        cases h
        exact ⟨[b], t, _, rfl, rfl, .two (by omega) ha hb, rfl⟩
      · cases h
    · cases h
  split at h
  · cases h
  rename_i b t
  split at h
  · cases h
  rename_i hb
  have hb : secondByteOk a b = true := by simpa using hb
  split at h
  · cases h
  rename_i c t
  split at h
  · cases h
  rename_i hc
  have hc : isContinuation c = true := by simpa using hc
  split at h
  · rename_i ha
    cases h
    exact ⟨[b, c], t, _, rfl, rfl, .three (by omega) ha hb hc, rfl⟩
  split at h
  · cases h
  rename_i d t
  split at h
  · cases h
  rename_i hd
  have hd : isContinuation d = true := by simpa using hd
  cases h
  exact ⟨[b, c, d], t, _, rfl, rfl, .four (by omega) (by omega) hb hc hd, rfl⟩

theorem toNat_ofNat_of_valid {n : Nat} (h : n < 0xD800 ∨ 0xDFFF < n ∧ n < 0x110000) :
    (Char.ofNat n).toNat = n := by
  have hn : n.isValidChar := h
  rw [Char.ofNat, dif_pos hn]
  rfl

theorem utf8Char_of_spells {bytes : List UInt8} {n : Nat} (h : Spells bytes n) :
    utf8Char (Char.ofNat n) = bytes := by
  have hbyte {a : UInt8} {m : Nat} (h : m = a.toNat) : UInt8.ofNat m = a := by
    rw [h, UInt8.ofNat_toNat]
  unfold utf8Char
  cases h with
  | @one a ha =>
    rw [toNat_ofNat_of_valid (by omega)]
    simp only [if_pos ha, UInt8.ofNat_toNat]
  | @two a b ha ha' hb =>
    have hb := isContinuation_iff.1 hb
    rw [toNat_ofNat_of_valid (by omega)]
    simp only
    rw [if_neg (by omega), if_pos (by omega), hbyte (a := a) (by omega),
      hbyte (a := b) (by omega)]
  | @three a b c ha ha' hb hc =>
    obtain ⟨hb, hb', hlong, hsurrogate, -⟩ := secondByteOk_iff.1 hb
    have hc := isContinuation_iff.1 hc
    rw [toNat_ofNat_of_valid (by omega)]
    simp only
    rw [if_neg (by omega), if_neg (by omega), if_pos (by omega), hbyte (a := a) (by omega),
      hbyte (a := b) (by omega), hbyte (a := c) (by omega)]
  | @four a b c d ha ha' hb hc hd =>
    obtain ⟨hb, hb', -, -, hlong, hlast⟩ := secondByteOk_iff.1 hb
    have hc := isContinuation_iff.1 hc
    have hd := isContinuation_iff.1 hd
    rw [toNat_ofNat_of_valid (by omega)]
    simp only
    rw [if_neg (by omega), if_neg (by omega), if_neg (by omega), hbyte (a := a) (by omega),
      hbyte (a := b) (by omega), hbyte (a := c) (by omega), hbyte (a := d) (by omega)]

theorem spells_utf8Char (c : Char) : Spells (utf8Char c) c.toNat := by
  have hv : c.toNat < 0xD800 ∨ 0xDFFF < c.toNat ∧ c.toNat < 0x110000 := c.valid
  have hbyte {n : Nat} (h : n < 256) : (UInt8.ofNat n).toNat = n := UInt8.toNat_ofNat_of_lt' h
  have hlow (n : Nat) : isContinuation (UInt8.ofNat (0x80 + n % 64)) = true := by
    rw [isContinuation_iff, hbyte (by omega)]
    omega
  have hcode {bytes : List UInt8} {m n : Nat} (h : Spells bytes m) (he : m = n) :
      Spells bytes n := he ▸ h
  unfold utf8Char
  simp only
  split
  · refine hcode (.one ?_) ?_ <;> rw [hbyte (by omega)]
    assumption
  split
  · refine hcode (.two ?_ ?_ (hlow _)) ?_ <;>
      simp only [hbyte (show 0xC0 + c.toNat / 64 < 256 by omega),
        hbyte (show 0x80 + c.toNat % 64 < 256 by omega)] <;> omega
  split
  · refine hcode (.three ?_ ?_ (secondByteOk_iff.2 ?_) (hlow _)) ?_ <;>
      simp only [hbyte (show 0xE0 + c.toNat / 4096 < 256 by omega),
        hbyte (show 0x80 + c.toNat / 64 % 64 < 256 by omega),
        hbyte (show 0x80 + c.toNat % 64 < 256 by omega)] <;> omega
  · refine hcode (.four ?_ ?_ (secondByteOk_iff.2 ?_) (hlow _) (hlow _)) ?_ <;>
      simp only [hbyte (show 0xF0 + c.toNat / 262144 < 256 by omega),
        hbyte (show 0x80 + c.toNat / 4096 % 64 < 256 by omega),
        hbyte (show 0x80 + c.toNat / 64 % 64 < 256 by omega),
        hbyte (show 0x80 + c.toNat % 64 < 256 by omega)] <;> omega

/-! ## Texts -/

theorem decodeWith_skip (replacement : Option Char) (r rest : List UInt8) :
    decodeWith replacement r.length (r ++ rest) = decodeWith replacement 0 rest := by
  induction r with
  | nil => rfl
  | cons b r ih => exact ih

theorem decodeWith_utf8 (replacement : Option Char) (s : List Char) :
    decodeWith replacement 0 (utf8 s) = some s := by
  induction s with
  | nil => rfl
  | cons c s ih =>
    have hs := spells_utf8Char c
    have he : utf8 (c :: s) = utf8Char c ++ utf8 s := rfl
    rw [he]
    rcases hc : utf8Char c with _ | ⟨b, r⟩ <;> rw [hc] at hs
    · cases hs
    · simp only [List.cons_append, decodeWith, utf8Start_of_spells hs, Nat.add_sub_cancel,
        decodeWith_skip, ih, Option.map_some, Char.ofNat_toNat]

/-- A text is read back from its bytes. -/
theorem decode?_utf8 (s : List Char) : decode? (utf8 s) = some s := decodeWith_utf8 none s

/-- A text is read back from its bytes where broken ones are replaced, too. -/
theorem decodeLossy_utf8 (s : List Char) : decodeLossy (utf8 s) = s := by
  rw [decodeLossy, decodeWith_utf8, Option.getD_some]

/-- What is read from bytes has these bytes. -/
theorem utf8_of_decode? {bytes : List UInt8} {s : List Char} (h : decode? bytes = some s) :
    utf8 s = bytes := by
  unfold decode? at h
  -- each character takes up one or more bytes, so the induction is on their number
  induction hn : bytes.length using Nat.strongRecOn generalizing bytes s with
  | _ n ih =>
    cases bytes with
    | nil =>
      cases h
      rfl
    | cons b rest =>
      simp only [decodeWith] at h
      split at h
      · rename_i c length hc
        obtain ⟨r, t, code, rfl, rfl, hs, rfl⟩ := spells_of_utf8Start hc
        rw [Nat.add_sub_cancel, decodeWith_skip, Option.map_eq_some_iff] at h
        obtain ⟨u, hu, rfl⟩ := h
        have hlen : t.length < n := by
          simp only [List.length_cons, List.length_append] at hn
          omega
        have he : utf8 (Char.ofNat code :: u) = utf8Char (Char.ofNat code) ++ utf8 u := rfl
        rw [he, utf8Char_of_spells hs, ih _ hlen hu rfl, List.cons_append]
      · cases h

/-! ## Slashes -/

end Rehearsal.Text

namespace Rehearsal.SystemPath

open Text

/-! ## Paths that are texts -/

@[simp] theorem shown_ofPath (p : Path) : (ofPath p).shown = p := by
  rw [shown, ofPath, decodeLossy_utf8, String.ofList_toList]

@[simp] theorem isText_ofPath (p : Path) : (ofPath p).isText = true := by
  rw [isText, ofPath, decode?_utf8]
  rfl

/-- A path is a text exactly if it is the one that is shown. -/
theorem isText_iff {p : SystemPath} : p.isText = true ↔ p = ofPath p.shown := by
  refine ⟨fun h => ?_, fun h => h ▸ isText_ofPath _⟩
  obtain ⟨s, hs⟩ := Option.isSome_iff_exists.1 h
  obtain rfl : p = ofPath (String.ofList s) := by
    rw [ofPath, String.toList_ofList, utf8_of_decode? hs]
  rw [shown_ofPath]

end Rehearsal.SystemPath
