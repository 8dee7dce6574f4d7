import Rehearsal.Json.Document

/-!
# JSON literals read back

What `Json.literalText` writes, `Json.stringAt` reads: a literal ends at its own closing quote,
whatever characters its text has (`stringAt_literalText`), so a literal alone is a document that
denotes its text (`parse_literalText`). The induction is on the text; one character is one round of
`stringFrom` (`stringFrom_escapeChar`).
-/

namespace Rehearsal.Json

open Text

/-! ## One character -/

/-- How a character is written: with one letter after a backslash, with its code, or as it is. -/
theorem escapeChar_cases (c : Char) :
    (∃ e, escapeChar c = ['\\', e] ∧ e ≠ 'u' ∧ simpleEscape? e = some c) ∨
    (c.toNat < 32 ∧ escapeChar c = '\\' :: 'u' :: fourHex c.toNat) ∨
    (c ≠ '"' ∧ c ≠ '\\' ∧ 32 ≤ c.toNat ∧ escapeChar c = [c]) := by
  by_cases hc : c ∈ ['"', '\\', '\n', '\r', '\t', Char.ofNat 8, Char.ofNat 12]
  · simp only [List.mem_cons, List.not_mem_nil, or_false] at hc
    rcases hc with rfl | rfl | rfl | rfl | rfl | rfl | rfl <;>
      exact .inl ⟨_, rfl, by decide, by decide⟩
  simp only [List.mem_cons, List.not_mem_nil, or_false, not_or] at hc
  obtain ⟨hq, hb, hn, hr, ht, h8, h12⟩ := hc
  by_cases hs : c.toNat < 32
  · exact .inr (.inl ⟨hs, by simp [escapeChar, hq, hb, hn, hr, ht, h8, h12, hs]⟩)
  · exact .inr (.inr ⟨hq, hb, by omega, by simp [escapeChar, hq, hb, hn, hr, ht, h8, h12, hs]⟩)

theorem hexValue?_fourHex : ∀ n < 32, hexValue? (digit (n / 4096 % 16)) (digit (n / 256 % 16))
    (digit (n / 16 % 16)) (digit (n % 16)) = some n := by
  decide

theorem utf8Size_digit : ∀ n < 16, (digit n).utf8Size = 1 := by
  decide

/-- Four characters of one byte each are passed by four bytes. -/
theorem skipBytes_four {a b c d : Char} (ha : a.utf8Size = 1) (hb : b.utf8Size = 1)
    (hc : c.utf8Size = 1) (hd : d.utf8Size = 1) (cur : Cursor) (t : List Char) :
    ∃ p', cur.skipBytes 4 (a :: b :: c :: d :: t) = ⟨t, p'⟩ := by
  cases t <;> simp [Cursor.skipBytes, ha, hb, hc, hd]

theorem utf8Length_digits : ∀ n < 32, utf8Length (fourHex n) = 4 := by
  decide

theorem hexUnit_fourHex {n : Nat} (h : n < 32) (t : List Char) (p : Place) :
    ∃ p', Cursor.hexUnit ⟨fourHex n ++ t, p⟩ = .ok (n, ⟨t, p'⟩) := by
  have size : ∀ m, (digit (m % 16)).utf8Size = 1 := fun m =>
    utf8Size_digit _ (Nat.mod_lt _ (by omega))
  obtain ⟨p', hp⟩ := skipBytes_four (size (n / 4096)) (size (n / 256)) (size (n / 16)) (size n)
    ⟨fourHex n ++ t, p⟩ t
  have hlen := utf8Length_digits n h
  have hv := hexValue?_fourHex n h
  refine ⟨p', ?_⟩
  simp only [fourHex, List.cons_append, List.nil_append] at hp hlen ⊢
  simp [Cursor.hexUnit, hp, hlen, hv]

theorem codeEscapeAt_fourHex {n : Nat} (h : n < 32) (t : List Char) (p : Place) :
    ∃ p', codeEscapeAt ⟨fourHex n ++ t, p⟩ = .ok (Char.ofNat n, ⟨t, p'⟩) := by
  obtain ⟨p', hp⟩ := hexUnit_fourHex h t p
  refine ⟨p', ?_⟩
  have h1 : isTrailingUnit n = false := by simp [isTrailingUnit]; omega
  have h2 : isLeadingUnit n = false := by simp [isLeadingUnit]; omega
  simp [codeEscapeAt, hp, bind, Except.bind, h1, h2, pure, Except.pure]

/-- The round of a character. -/
theorem stringFrom_escapeChar (c : Char) (fuel : Nat) (reversed t : List Char) (p : Place) :
    ∃ p', stringFrom (fuel + 1) reversed ⟨escapeChar c ++ t, p⟩ =
      stringFrom fuel (c :: reversed) ⟨t, p'⟩ := by
  rcases escapeChar_cases c with ⟨e, he, hu, hs⟩ | ⟨hc, he⟩ | ⟨hq, hb, hc, he⟩
  · -- `hu` rules out the case of a code
    refine ⟨(p.after '\\').after e, ?_⟩
    simp [he, stringFrom, hs, Cursor.skipN, Cursor.skip]
  · obtain ⟨p', hp⟩ := codeEscapeAt_fourHex hc t ((p.after '\\').after 'u')
    refine ⟨p', ?_⟩
    simp [he, stringFrom, Cursor.skipN, Cursor.skip, hp, bind, Except.bind]
  · refine ⟨p.after c, ?_⟩
    simp [he, stringFrom, Nat.not_lt.2 hc, Cursor.skip]

/-! ## Texts -/

theorem length_escape (s : List Char) : s.length ≤ (escape s).length := by
  induction s with
  | nil => simp [escape]
  | cons c s ih =>
    have hc : 1 ≤ (escapeChar c).length := by
      rcases escapeChar_cases c with ⟨e, he, -⟩ | ⟨-, he⟩ | ⟨-, -, -, he⟩ <;> simp [he]
    simp only [escape, List.flatMap_cons, List.length_append, List.length_cons] at ih ⊢
    omega

/-- A text and its closing quote, after some characters. -/
theorem stringFrom_escape (s : List Char) (fuel : Nat) (hf : s.length < fuel)
    (reversed r : List Char) (p : Place) :
    ∃ p', stringFrom fuel reversed ⟨escape s ++ '"' :: r, p⟩ =
      .ok (reversed.reverse ++ s, ⟨r, p'⟩) := by
  induction s generalizing fuel reversed p with
  | nil =>
    obtain ⟨f, rfl⟩ : ∃ f, fuel = f + 1 := ⟨fuel - 1, by simp at hf; omega⟩
    exact ⟨p.after '"', by simp [escape, stringFrom, Cursor.skip]⟩
  | cons c s ih =>
    obtain ⟨f, rfl⟩ : ∃ f, fuel = f + 1 := ⟨fuel - 1, by simp at hf; omega⟩
    obtain ⟨p₁, h₁⟩ := stringFrom_escapeChar c f reversed (escape s ++ '"' :: r) p
    obtain ⟨p₂, h₂⟩ := ih f (by simpa using hf) (c :: reversed) p₁
    refine ⟨p₂, ?_⟩
    simp only [escape, List.flatMap_cons, List.append_assoc] at h₁ h₂ ⊢
    rw [h₁, h₂]
    simp

/-- **A literal reads back as its text**, whatever follows it. -/
theorem stringAt_literalText (s r : List Char) (p : Place) :
    ∃ p', stringAt ⟨literalText s ++ r, p⟩ = .ok (String.ofList s, ⟨r, p'⟩) := by
  have hl : s.length < (literalText s ++ r).length + 1 := by
    have := length_escape s
    simp [literalText]
    omega
  obtain ⟨p', hp⟩ := stringFrom_escape s _ hl [] r (p.after '"')
  refine ⟨p', ?_⟩
  simp only [literalText, List.cons_append, List.append_assoc, List.nil_append] at hp ⊢
  simp only [stringAt, Cursor.skip, hp, bind, Except.bind, pure, Except.pure, List.reverse_nil,
    List.nil_append]

/-- A literal in the place of a value. -/
theorem valueAt_literalText (fuel levels : Nat) (s r : List Char) (p : Place) :
    ∃ p', valueAt (fuel + 1) levels ⟨literalText s ++ r, p⟩ =
      (.scalar (.text (String.ofList s)) p p', ⟨r, p'⟩) := by
  obtain ⟨p', hp⟩ := stringAt_literalText s r p
  refine ⟨p', ?_⟩
  simp only [literalText, List.cons_append, List.append_assoc, List.nil_append] at hp ⊢
  simp [valueAt, scalarAt, hp, bind, Except.bind, pure, Except.pure]

/-- A literal alone is a document. -/
theorem parse_literalText (s : List Char) :
    parse (literalText s) = .ok (.text (String.ofList s)) := by
  obtain ⟨p', hp⟩ := valueAt_literalText (2 * (literalText s).length + 3) levelLimit s [] ⟨1, 0⟩
  have hb : skipBlanks ⟨1, 0⟩ (literalText s) = ⟨literalText s, ⟨1, 0⟩⟩ := by
    simp [skipBlanks, literalText]
  rw [List.append_nil] at hp
  have hd : Document.ofText (literalText s) =
      ⟨.scalar (.text (String.ofList s)) ⟨1, 0⟩ p', none⟩ := by
    simp only [Document.ofText, Cursor.blanks, hb, hp, skipBlanks, List.isEmpty_nil, ↓reduceIte]
  simp only [parse, hd, Node.value?, bind, Except.bind]

end Rehearsal.Json
