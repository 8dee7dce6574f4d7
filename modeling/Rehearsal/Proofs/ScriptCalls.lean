import Rehearsal.Proofs.Occurrence
import Rehearsal.Proofs.ScriptCut

/-!
# The step calls of a script

A script calls its step function by `Script.stepCall`. Code is `Tidy` if it has no double quote and
adds no such call; a script of tidy code has no calls (`quiet_of_tidy`). Fixed code is tidy by a
look at its characters (`Tidy.fixed`), numbers by their digits (`tidy_number`).
-/

namespace Rehearsal.Script

open Text

/-- How the script calls the function that carries out a step and reports it. -/
def stepCall : List Char := ['a', 'w', 'a', 'i', 't', ' ', 's', 't', 'e', 'p', '(']

/-- Code without double quotes that adds no call of the step function. -/
structure Tidy (x : List Char) : Prop where
  plain : '"' ∉ x
  quiet : Quiet stepCall x

theorem Tidy.of_check {x : List Char} (h : (x.contains '"' || mayStart stepCall x) = false) :
    Tidy x := by
  simp only [Bool.or_eq_false_iff] at h
  exact ⟨by simpa using h.1, Quiet.of_not_mayStart h.2⟩

/-- Fixed text is tidy by a look at its characters. -/
theorem Tidy.fixed {l : List Char}
    (h : (l.contains '"' || mayStart stepCall l) = false := by decide +kernel) :
    Tidy (String.ofList l).toList := by
  rw [String.toList_ofList]
  exact Tidy.of_check h

theorem tidy_number (n : Nat) : Tidy (s!"{n}").toList := by
  rw [toList_number]
  exact ⟨fun h => absurd (isDigit_decimal h) (by decide),
    Quiet.of_not_mayStart
      (mayStart_of_not_mem fun h => absurd (isDigit_decimal h) (by decide))⟩

theorem quiet_of_tidy {s : Script} (h : s.AllCode Tidy) :
    Quiet stepCall (s.outline.flatMap renderChunk) := by
  induction s with
  | nil => exact Quiet.nil _
  | cons c s ih =>
    cases c with
    | code t =>
      obtain ⟨ht, hs⟩ := allCode_code.1 h
      exact ht.quiet.append (ih hs)
    | literal t =>
      have hq : Quiet stepCall (Json.literalText []) := Quiet.of_not_mayStart (by decide)
      exact hq.append (ih (allCode_literal.1 h))

end Rehearsal.Script
