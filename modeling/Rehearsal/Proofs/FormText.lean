import Rehearsal.Http.Request
import Rehearsal.Proofs.Utf8Text

/-!
# Forms

A form is written into the body of a request, and a server reads it there. `readForm` cuts a body at
its separators and replaces plus signs and escapes; it gives back the fields that were written
(`readForm_body`), whatever characters stand in them. The bytes are looked at one by one: each is
written as one character or as an escape (`formByte_cases`).
-/

namespace Rehearsal.Http

open Text

/-! ## Reading a form -/

/-- The character that stands for a blank in a form, replaced. -/
def blankOfPlus (c : Char) : Char := if c = '+' then ' ' else c

/-- The bytes of a part of a form: plus signs stand for blanks, and escapes for their bytes. -/
def formBytes (s : List Char) : List UInt8 := Url.decode (s.map blankOfPlus)

/-- The field that a part of a form is. -/
def readField? (part : List Char) : Option (String × String) :=
  (splitOnce '=' part).map fun (name, value) =>
    (String.ofList (decodeLossy (formBytes name)), String.ofList (decodeLossy (formBytes value)))

/-- The fields of a form. -/
def readForm (body : String) : List (String × String) :=
  (splitOn '&' body.toList).filterMap readField?

/-! ## One byte -/

/-- How a byte stands in a form. -/
def formByte (b : UInt8) : List Char :=
  let c := Char.ofNat b.toNat
  if b = 32 then ['+']
  else if c.isAlphanum && b < 128 || ['*', '-', '.', '_'].contains c then [c]
  else Url.escapeByte b

/-- A character that is not escaped is no separator, and it is read as its byte. -/
theorem unescaped_facts {b : UInt8} {c : Char} (hc : c = Char.ofNat b.toNat)
    (h : (c.isAlphanum && b < 128 || ['*', '-', '.', '_'].contains c) = true) :
    c ≠ '&' ∧ c ≠ '=' ∧ blankOfPlus c ≠ '%' ∧ utf8Char (blankOfPlus c) = [b] := by
  have hne : ∀ d, d.isAlphanum = false → ['*', '-', '.', '_'].contains d = false → c ≠ d := by
    rintro d hd hm rfl
    rw [hd, hm] at h
    cases h
  have hplus : blankOfPlus c = c := if_neg (hne '+' (by decide) (by decide))
  have hvalue : c.toNat = b.toNat := by
    have := b.toNat_lt
    rw [hc]
    exact toNat_ofNat_of_valid (by omega)
  have hlt : b.toNat < 128 := by
    have hmarks : (['*', '-', '.', '_'].all fun d => d.toNat < 128) = true := by decide
    rcases Bool.or_eq_true_iff.1 h with h | h
    · exact of_decide_eq_true (Bool.and_eq_true_iff.1 h).2
    · rw [← hvalue]
      exact of_decide_eq_true (List.all_eq_true.1 hmarks _ (List.contains_iff_mem.1 h))
  rw [hplus]
  refine ⟨hne '&' (by decide) (by decide), hne '=' (by decide) (by decide),
    hne '%' (by decide) (by decide), ?_⟩
  rw [utf8Char, hvalue, if_pos hlt, UInt8.ofNat_toNat]

/-- A byte is written as one character, which is read as that byte, or as an escape. -/
theorem formByte_cases (b : UInt8) : formByte b = Url.escapeByte b ∨
    ∃ c, formByte b = [c] ∧ c ≠ '&' ∧ c ≠ '=' ∧ blankOfPlus c ≠ '%' ∧
      utf8Char (blankOfPlus c) = [b] := by
  unfold formByte
  simp only
  split
  · rename_i hb
    subst hb
    exact .inr ⟨'+', rfl, by decide, by decide, by decide, by decide⟩
  · split
    · rename_i hc
      exact .inr ⟨_, rfl, unescaped_facts rfl hc⟩
    · exact .inl rfl

/-- The digits of an escape are read back, and none of them separates or stands for a blank. -/
theorem upperDigit_facts : ∀ n < 16, digitValue? (digit n).toUpper = some n ∧
    blankOfPlus (digit n).toUpper = (digit n).toUpper ∧ (digit n).toUpper ≠ '&' ∧
    (digit n).toUpper ≠ '=' := by
  decide

theorem decode_cons {c : Char} (h : c ≠ '%') (rest : List Char) :
    Url.decode (c :: rest) = utf8Char c ++ Url.decode rest := by
  rw [Url.decode]
  intro _ _ _ hc
  exact absurd hc h

theorem decode_escapeByte (b : UInt8) (rest : List Char) :
    Url.decode (Url.escapeByte b ++ rest) = b :: Url.decode rest := by
  have hlt := b.toNat_lt
  obtain ⟨hx, -⟩ := upperDigit_facts (b.toNat / 16) (by omega)
  obtain ⟨hy, -⟩ := upperDigit_facts (b.toNat % 16) (by omega)
  have hb : 16 * (b.toNat / 16) + b.toNat % 16 = b.toNat := by omega
  simp only [Url.escapeByte, Url.byteDigits, List.cons_append, List.nil_append, Url.decode, hx, hy]
  rw [if_pos (by omega), hb, UInt8.ofNat_toNat]

theorem escapeByte_facts (b : UInt8) : (Url.escapeByte b).map blankOfPlus = Url.escapeByte b ∧
    '&' ∉ Url.escapeByte b ∧ '=' ∉ Url.escapeByte b := by
  have hlt := b.toNat_lt
  obtain ⟨-, hx, hxa, hxe⟩ := upperDigit_facts (b.toNat / 16) (by omega)
  obtain ⟨-, hy, hya, hye⟩ := upperDigit_facts (b.toNat % 16) (by omega)
  have hp : blankOfPlus '%' = '%' := by decide
  simp [Url.escapeByte, Url.byteDigits, hp, hx, hy, hxa.symm, hxe.symm, hya.symm, hye.symm]

/-- A byte is read back, whatever follows. -/
theorem decode_formByte (b : UInt8) (rest : List Char) :
    Url.decode ((formByte b).map blankOfPlus ++ rest) = b :: Url.decode rest := by
  rcases formByte_cases b with hf | ⟨c, hf, -, -, hp, hc⟩ <;> rw [hf]
  · rw [(escapeByte_facts b).1, decode_escapeByte]
  · rw [List.map_singleton, List.singleton_append, decode_cons hp, hc, List.singleton_append]

/-! ## Fields -/

theorem formBytes_encodeForm (s : List Char) : formBytes (Url.encodeForm s) = utf8 s := by
  have h : ∀ bytes : List UInt8, formBytes (bytes.flatMap formByte) = bytes := by
    intro bytes
    induction bytes with
    | nil => rfl
    | cons b bytes ih =>
      rw [formBytes, List.flatMap_cons, List.map_append, decode_formByte]
      exact congrArg _ ih
  exact h (utf8 s)

/-- No separator stands in what is written. -/
theorem separators_not_mem_encodeForm (s : List Char) :
    '&' ∉ Url.encodeForm s ∧ '=' ∉ Url.encodeForm s := by
  have h : ∀ b, '&' ∉ formByte b ∧ '=' ∉ formByte b := by
    intro b
    rcases formByte_cases b with hf | ⟨c, hf, ha, he, -⟩ <;> rw [hf]
    · exact (escapeByte_facts b).2
    · simp [ha.symm, he.symm]
  have hs : Url.encodeForm s = (utf8 s).flatMap formByte := rfl
  rw [hs]
  constructor <;> intro hm <;> obtain ⟨b, -, hb⟩ := List.mem_flatMap.1 hm
  · exact (h b).1 hb
  · exact (h b).2 hb

/-- How a field stands in a form. -/
def formPair (f : String × String) : List Char :=
  Url.encodeForm f.1.toList ++ '=' :: Url.encodeForm f.2.toList

theorem readField?_pair (f : String × String) : readField? (formPair f) = some f := by
  rw [readField?, formPair,
    splitOnce_eq_some.2 ⟨(separators_not_mem_encodeForm f.1.toList).2, rfl⟩]
  simp [formBytes_encodeForm, decodeLossy_utf8]

theorem ampersand_not_mem_pair (f : String × String) : '&' ∉ formPair f := by
  simp [formPair, (separators_not_mem_encodeForm _).1]

/-- A server reads the fields that a form was written from. -/
theorem readForm_body (r : Request) (fields : List (String × String)) :
    (r.withForm fields).body.map readForm = some fields := by
  have hbody : (r.withForm fields).body =
      some (String.ofList (joinWith ['&'] (fields.map formPair))) := rfl
  rw [hbody, Option.map_some, readForm, String.toList_ofList]
  cases fields with
  | nil => rfl
  | cons f fields =>
    have hsplit : splitOn '&' (joinWith ['&'] ((f :: fields).map formPair)) =
        (f :: fields).map formPair := by
      rw [List.map_cons, splitOn_joinWith List.not_mem_nil, List.map_map]
      · rfl
      · rw [← List.map_cons (f := formPair)]
        intro x hx
        obtain ⟨g, -, rfl⟩ := List.mem_map.1 hx
        exact ampersand_not_mem_pair g
    rw [hsplit, List.filterMap_map]
    have hread : readField? ∘ formPair = some := funext readField?_pair
    rw [hread, List.filterMap_some]

end Rehearsal.Http
