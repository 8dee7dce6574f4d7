import Rehearsal.Browser.Script
import Rehearsal.Proofs.Literal

/-!
# Cutting a script's text at its literals

`cutCode` reads a text from left to right: a double quote opens a literal, a backslash in a literal
takes the next character with it, the next double quote closes the literal. It knows nothing of the
chunks from which a script was put together. `cutCode_render` says that it finds them again as long
as no code chunk holds a double quote (`Script.IsPlain`): the literals are those of the script
(`Script.cut_bodies`, `literalOf?_escape`), and what stands between them is what stands between
them in the script without its texts (`Script.cut_codes`).
-/

namespace Rehearsal

/-- A text cut at its literals: the code before the first one, and each literal, without its quotes,
with the code after it. -/
structure CutText where
  front : List Char
  literals : List (List Char × List Char)
  deriving DecidableEq

namespace CutText

/-- The code around the literals, in order. -/
def codes (t : CutText) : List (List Char) := t.front :: t.literals.map (·.2)

/-- The literals without their quotes, in order. -/
def bodies (t : CutText) : List (List Char) := t.literals.map (·.1)

/-- The text with an empty literal for each of its literals. -/
def erased (t : CutText) : List Char := t.front ++ t.literals.flatMap fun l => '"' :: '"' :: l.2

/-- A text with code in front. -/
def prepend (x : List Char) (t : CutText) : CutText := { t with front := x ++ t.front }

/-- A text after a literal. -/
def after (body : List Char) (t : CutText) : CutText := ⟨[], (body, t.front) :: t.literals⟩

end CutText

mutual

/-- A text outside of literals, cut at its literals; `none` if one of them does not end. -/
def cutCode : List Char → Option CutText
  | [] => some ⟨[], []⟩
  | c :: r => if c = '"' then cutLiteral [] r else (cutCode r).map (.prepend [c])

/-- A text inside a literal of which some characters were read, newest first. -/
def cutLiteral (reversed : List Char) : List Char → Option CutText
  | [] => none
  | c :: r =>
    if c = '"' then (cutCode r).map (.after reversed.reverse)
    else if c = '\\' then
      match r with
      | [] => none
      | e :: r => cutLiteral (e :: '\\' :: reversed) r
    else cutLiteral (c :: reversed) r

end

/-- The text that a literal without its quotes denotes. -/
def literalOf? (body : List Char) : Option String :=
  match Json.parse ('"' :: body ++ ['"']) with
  | .ok (.text s) => some s
  | _ => none

theorem literalOf?_escape (s : List Char) :
    literalOf? (Json.escape s) = some (String.ofList s) := by
  have h := Json.parse_literalText s
  simp only [Json.literalText] at h
  simp only [literalOf?, h]

/-! ## Code -/

theorem cutCode_append {x : List Char} (h : '"' ∉ x) (r : List Char) :
    cutCode (x ++ r) = (cutCode r).map (.prepend x) := by
  induction x with
  | nil => cases h' : cutCode r <;> simp [CutText.prepend, h']
  | cons c x ih =>
    simp only [List.mem_cons, not_or] at h
    simp only [List.cons_append, cutCode, if_neg (Ne.symm h.1), ih h.2, Option.map_map]
    rfl

/-! ## Literals -/

theorem cutLiteral_quote (reversed r : List Char) :
    cutLiteral reversed ('"' :: r) = (cutCode r).map (.after reversed.reverse) := by
  cases r <;> simp [cutLiteral]

theorem cutLiteral_escaped (reversed : List Char) (e : Char) (r : List Char) :
    cutLiteral reversed ('\\' :: e :: r) = cutLiteral (e :: '\\' :: reversed) r := by
  simp [cutLiteral]

theorem cutLiteral_other (reversed : List Char) {c : Char} (hq : c ≠ '"') (hb : c ≠ '\\')
    (r : List Char) : cutLiteral reversed (c :: r) = cutLiteral (c :: reversed) r := by
  cases r <;> simp [cutLiteral, hq, hb]

/-- No escape of a character holds a double quote that is not escaped, or ends with a backslash that
is not escaped. -/
theorem cutLiteral_escapeChar (c : Char) (reversed r : List Char) :
    cutLiteral reversed (Json.escapeChar c ++ r) =
      cutLiteral ((Json.escapeChar c).reverse ++ reversed) r := by
  rcases Json.escapeChar_cases c with ⟨e, he, -⟩ | ⟨-, he⟩ | ⟨hq, hb, -, he⟩ <;> rw [he]
  · exact cutLiteral_escaped _ _ _
  · have digits : ∀ m, Text.digit (m % 16) ≠ '"' ∧ Text.digit (m % 16) ≠ '\\' := fun m =>
      (by decide : ∀ n < 16, Text.digit n ≠ '"' ∧ Text.digit n ≠ '\\') _ (Nat.mod_lt _ (by omega))
    simp only [Json.fourHex, List.cons_append, List.nil_append, cutLiteral_escaped]
    rw [cutLiteral_other _ (digits _).1 (digits _).2, cutLiteral_other _ (digits _).1 (digits _).2,
      cutLiteral_other _ (digits _).1 (digits _).2, cutLiteral_other _ (digits _).1 (digits _).2]
    rfl
  · exact cutLiteral_other _ hq hb r

theorem cutLiteral_escape (s reversed r : List Char) :
    cutLiteral reversed (Json.escape s ++ '"' :: r) =
      (cutCode r).map (.after (reversed.reverse ++ Json.escape s)) := by
  induction s generalizing reversed with
  | nil => simp [Json.escape, cutLiteral_quote]
  | cons c s ih =>
    simp only [Json.escape, List.flatMap_cons, List.append_assoc] at ih ⊢
    rw [cutLiteral_escapeChar, ih]
    simp

theorem cutCode_literalText (s r : List Char) :
    cutCode (Json.literalText s ++ r) = (cutCode r).map (.after (Json.escape s)) := by
  have h := cutLiteral_escape s [] r
  simp only [List.reverse_nil, List.nil_append] at h
  simpa [Json.literalText, cutCode] using h

/-! ## Scripts -/

namespace Script

/-- A script cut at its literals. -/
def cut : Script → CutText
  | [] => ⟨[], []⟩
  | .code s :: r => (cut r).prepend s.toList
  | .literal s :: r => (cut r).after (Json.escape s.toList)

/-- The texts of the literals of a script, in order. -/
def texts (s : Script) : List String :=
  s.filterMap fun c => match c with
    | .code _ => none
    | .literal t => some t

/-- A script without its texts: every literal is empty. -/
def outline (s : Script) : Script :=
  s.map fun c => match c with
    | .code t => .code t
    | .literal _ => .literal ""

/-- All code of a script has a property. -/
def AllCode (P : List Char → Prop) (s : Script) : Prop := ∀ t, Chunk.code t ∈ s → P t.toList

/-- No code of a script holds a double quote. -/
abbrev IsPlain (s : Script) : Prop := s.AllCode ('"' ∉ ·)

@[simp] theorem texts_nil : texts [] = [] := rfl
@[simp] theorem texts_code (t : String) (s : Script) : texts (.code t :: s) = texts s := rfl
@[simp] theorem texts_literal (t : String) (s : Script) :
    texts (.literal t :: s) = t :: texts s := rfl
@[simp] theorem texts_append (s t : Script) : texts (s ++ t) = texts s ++ texts t :=
  List.filterMap_append

@[simp] theorem outline_nil : outline [] = [] := rfl
@[simp] theorem outline_code (t : String) (s : Script) :
    outline (.code t :: s) = .code t :: outline s := rfl
@[simp] theorem outline_literal (t : String) (s : Script) :
    outline (.literal t :: s) = .literal "" :: outline s := rfl
@[simp] theorem outline_append (s t : Script) : outline (s ++ t) = outline s ++ outline t :=
  List.map_append

section
variable {P : List Char → Prop}

@[simp] theorem allCode_nil : AllCode P [] := by simp [AllCode]
@[simp] theorem allCode_code {t : String} {s : Script} :
    AllCode P (.code t :: s) ↔ P t.toList ∧ AllCode P s := by
  simp [AllCode]
@[simp] theorem allCode_literal {t : String} {s : Script} :
    AllCode P (.literal t :: s) ↔ AllCode P s := by
  simp [AllCode]
@[simp] theorem allCode_append {s t : Script} :
    AllCode P (s ++ t) ↔ AllCode P s ∧ AllCode P t := by
  simp only [AllCode, List.mem_append]
  exact ⟨fun h => ⟨fun u hu => h u (.inl hu), fun u hu => h u (.inr hu)⟩,
    fun h u hu => hu.elim (h.1 u) (h.2 u)⟩

theorem allCode_separated {x : String} (hx : P x.toList) {ss : List Script}
    (h : ∀ s ∈ ss, s.AllCode P) : (separated x ss).AllCode P := by
  induction ss with
  | nil => exact allCode_nil
  | cons s ss ih =>
    cases ss with
    | nil => exact h s (by simp)
    | cons t r =>
      refine allCode_append.2 ⟨h s (by simp), allCode_code.2 ⟨hx, ih fun u hu => h u ?_⟩⟩
      exact List.mem_cons_of_mem _ hu

theorem AllCode.imp {Q : List Char → Prop} {s : Script} (h : s.AllCode P) (hq : ∀ x, P x → Q x) :
    s.AllCode Q := fun t ht => hq _ (h t ht)

end

/-- **The literals of a script are found again in its text**: nothing in a literal ends it, and no
code opens one. -/
theorem cutCode_render {s : Script} (h : s.IsPlain) : cutCode s.render.toList = some s.cut := by
  simp only [render, String.toList_ofList]
  induction s with
  | nil => rfl
  | cons c s ih =>
    cases c with
    | code t =>
      obtain ⟨ht, hs⟩ := allCode_code.1 h
      simp only [List.flatMap_cons, renderChunk, cutCode_append ht, ih hs]
      rfl
    | literal t =>
      simp only [List.flatMap_cons, renderChunk, cutCode_literalText, ih (allCode_literal.1 h)]
      rfl

example : cutCode ['f', '"', 'a', '\\', '"', 'b', '"', ';'] =
    some ⟨['f'], [(['a', '\\', '"', 'b'], [';'])]⟩ := by cbv

theorem cut_bodies (s : Script) : s.cut.bodies.map literalOf? = s.texts.map some := by
  induction s with
  | nil => rfl
  | cons c s ih =>
    cases c with
    | code t => exact ih
    | literal t =>
      simp only [cut, CutText.bodies, CutText.after, List.map_cons, texts_literal] at ih ⊢
      rw [ih, literalOf?_escape, String.ofList_toList]

theorem cut_codes (s : Script) : s.cut.codes = s.outline.cut.codes := by
  induction s with
  | nil => rfl
  | cons c s ih =>
    cases c with
    | code t =>
      simp only [cut, outline_code, CutText.codes, CutText.prepend, List.cons.injEq] at ih ⊢
      exact ⟨by rw [ih.1], ih.2⟩
    | literal t =>
      simp only [cut, outline_literal, CutText.codes, CutText.after, List.map_cons] at ih ⊢
      rw [ih]

theorem cut_erased (s : Script) : s.cut.erased = s.outline.flatMap renderChunk := by
  induction s with
  | nil => rfl
  | cons c s ih =>
    cases c with
    | code t =>
      simp only [cut, outline_code, List.flatMap_cons, renderChunk, ← ih]
      simp [CutText.erased, CutText.prepend]
    | literal t =>
      simp only [cut, outline_literal, List.flatMap_cons, renderChunk, ← ih]
      simp [CutText.erased, CutText.after, Json.literalText, Json.escape]

end Script
end Rehearsal
