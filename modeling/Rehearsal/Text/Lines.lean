/-!
# Lines and fields

Cutting a text at a character, and joining fields with a separator. Fields without the character are
cut out again as they were joined (`splitOn_joinWith`).
-/

namespace Rehearsal.Text

/-- The fields between the occurrences of a character; there is always at least one. -/
def splitOn (sep : Char) : List Char → List (List Char)
  | [] => [[]]
  | c :: r =>
    if c = sep then [] :: splitOn sep r
    else
      match splitOn sep r with
      | [] => [[c]]
      | f :: fs => (c :: f) :: fs

theorem splitOn_ne_nil (sep : Char) (s : List Char) : splitOn sep s ≠ [] := by
  cases s with
  | nil => simp [splitOn]
  | cons c r =>
    unfold splitOn
    split
    · simp
    · split <;> simp

theorem splitOn_of_not_mem {sep : Char} {f : List Char} (h : sep ∉ f) : splitOn sep f = [f] := by
  induction f with
  | nil => rfl
  | cons c r ih =>
    obtain ⟨hc, hr⟩ := not_or.1 (mt List.mem_cons.2 h)
    rw [splitOn, if_neg (Ne.symm hc), ih hr]

theorem splitOn_append {sep : Char} {f : List Char} (h : sep ∉ f) (r : List Char) :
    splitOn sep (f ++ sep :: r) = f :: splitOn sep r := by
  induction f with
  | nil => rw [List.nil_append, splitOn, if_pos rfl]
  | cons c f ih =>
    obtain ⟨hc, hf⟩ := not_or.1 (mt List.mem_cons.2 h)
    rw [List.cons_append, splitOn, if_neg (Ne.symm hc), ih hf]

/-- The first field of a text does not hold the character at which it was cut. -/
theorem splitOn_head {sep : Char} {s f : List Char} {fs : List (List Char)}
    (h : splitOn sep s = f :: fs) : sep ∉ f ∧ f <+: s := by
  induction s generalizing f fs with
  | nil =>
    cases h
    exact ⟨List.not_mem_nil, List.nil_prefix⟩
  | cons c r ih =>
    rw [splitOn] at h
    split at h
    · cases h
      exact ⟨List.not_mem_nil, List.nil_prefix⟩
    · rename_i hc
      split at h
      · rename_i he
        exact absurd he (splitOn_ne_nil sep r)
      · rename_i g gs he
        cases h
        obtain ⟨hg, hp⟩ := ih he
        exact ⟨fun hm => (List.mem_cons.1 hm).elim (fun e => hc e.symm) hg,
          List.cons_prefix_cons.2 ⟨rfl, hp⟩⟩

/-- The parts before and after the first occurrence of a character. -/
def splitOnce (sep : Char) : List Char → Option (List Char × List Char)
  | [] => none
  | c :: r =>
    if c = sep then some ([], r)
    else (splitOnce sep r).map fun (a, b) => (c :: a, b)

theorem splitOnce_eq_some {sep : Char} {s a b : List Char} :
    splitOnce sep s = some (a, b) ↔ sep ∉ a ∧ s = a ++ sep :: b := by
  induction s generalizing a with
  | nil => simp [splitOnce]
  | cons c r ih =>
    by_cases hc : c = sep
    · rw [splitOnce, if_pos hc]
      constructor
      · intro h
        cases h
        exact ⟨List.not_mem_nil, by rw [hc, List.nil_append]⟩
      · rintro ⟨ha, he⟩
        cases a with
        | nil => rw [(List.cons.inj he).2]
        | cons d a =>
          have hd := (List.cons.inj he).1
          exact absurd (by rw [← hc, hd]; exact List.mem_cons_self) ha
    · rw [splitOnce, if_neg hc, Option.map_eq_some_iff]
      constructor
      · rintro ⟨⟨x, y⟩, h, he⟩
        cases he
        obtain ⟨hx, rfl⟩ := ih.1 h
        exact ⟨fun hm => (List.mem_cons.1 hm).elim (fun e => hc e.symm) hx, rfl⟩
      · rintro ⟨ha, he⟩
        cases a with
        | nil => exact absurd (List.cons.inj he).1 hc
        | cons d a =>
          obtain ⟨rfl, rfl⟩ := List.cons.inj he
          exact ⟨(a, b), ih.2 ⟨fun hm => ha (List.mem_cons_of_mem _ hm), rfl⟩, rfl⟩

/-- A line without the carriage return at its end. -/
def dropReturn (line : List Char) : List Char :=
  if line.getLast? = some '\r' then line.dropLast else line

/-- The lines of a text: ended by a line feed, with an optional carriage return before it. A last
line need not be ended; without a line feed it keeps a carriage return. -/
def lines (s : List Char) : List (List Char) :=
  let fields := splitOn '\n' s
  let ended := fields.dropLast.map dropReturn
  match fields.getLast? with
  | some last => if last.isEmpty then ended else ended ++ [last]
  | none => ended

/-- The texts with a separator between neighbours. -/
def joinWith (sep : List Char) : List (List Char) → List Char
  | [] => []
  | [x] => x
  | x :: y :: r => x ++ sep ++ joinWith sep (y :: r)

theorem joinWith_append_cons (sep more x : List Char) (xs : List (List Char)) :
    joinWith sep ((more ++ x) :: xs) = more ++ joinWith sep (x :: xs) := by
  cases xs with
  | nil => rfl
  | cons y ys => simp only [joinWith, List.append_assoc]

/-- The fields that a text was joined from are cut out again, if the character that starts the
separator is nowhere else; what else there is of the separator stands before each further field. -/
theorem splitOn_joinWith {sep : Char} {more x : List Char} {xs : List (List Char)}
    (hm : sep ∉ more) (h : ∀ f ∈ x :: xs, sep ∉ f) :
    splitOn sep (joinWith (sep :: more) (x :: xs)) = x :: xs.map (more ++ ·) := by
  induction xs generalizing x with
  | nil => exact splitOn_of_not_mem (h x List.mem_cons_self)
  | cons y ys ih =>
    obtain ⟨hx, hy, hr⟩ : sep ∉ x ∧ sep ∉ y ∧ ∀ f ∈ ys, sep ∉ f := by
      simpa using h
    have he : joinWith (sep :: more) (x :: y :: ys) =
        x ++ sep :: joinWith (sep :: more) ((more ++ y) :: ys) := by
      rw [joinWith_append_cons, joinWith, List.append_assoc, List.cons_append]
    have hf : ∀ f ∈ (more ++ y) :: ys, sep ∉ f :=
      List.forall_mem_cons.2 ⟨by simp [hm, hy], hr⟩
    rw [he, splitOn_append hx, ih hf, List.map_cons]

end Rehearsal.Text
