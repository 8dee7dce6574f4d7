/-!
# Substitution

`replaceAll` puts a text for every occurrence of another, from left to right; occurrences do not
overlap and what was put in is not read again.
-/

namespace Rehearsal.Text

/-- The rest of a text after a beginning, if it has that beginning. -/
def dropBeginning? : List Char → List Char → Option (List Char)
  | [], s => some s
  | _ :: _, [] => none
  | p :: ps, c :: r => if p = c then dropBeginning? ps r else none

theorem dropBeginning?_eq_some {p s r : List Char} :
    dropBeginning? p s = some r ↔ s = p ++ r := by
  induction p generalizing s with
  | nil => simp [dropBeginning?, eq_comm]
  | cons a p ih =>
    cases s with
    | nil => simp [dropBeginning?]
    | cons c t =>
      by_cases h : a = c
      · simp [dropBeginning?, h, ih]
      · simp [dropBeginning?, h, Ne.symm h]

/-- The text with `new` for each occurrence of `old`, which is not empty; `skip` characters belong
to an occurrence that was already replaced. -/
def replaceFrom (old new : List Char) : Nat → List Char → List Char
  | _, [] => []
  | skip + 1, _ :: r => replaceFrom old new skip r
  | 0, c :: r =>
    match dropBeginning? old (c :: r) with
    | some _ => new ++ replaceFrom old new (old.length - 1) r
    | none => c :: replaceFrom old new 0 r

/-- The text with `new` for each occurrence of `old`. -/
def replaceAll (old new s : List Char) : List Char := replaceFrom old new 0 s

/-- `replaceAll` on strings. -/
def substitute (old new : String) (s : String) : String :=
  String.ofList (replaceAll old.toList new.toList s.toList)

end Rehearsal.Text
