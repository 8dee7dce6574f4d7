/-!
# Blank characters

The Unicode property White_Space, and texts without blanks at their ends. Main statements:
`trim` removes blanks only (`trimStart_eq_self_iff`), and a text that starts and ends with a
character that is not blank is its own trimming (`trim_eq_self`).
-/

namespace Rehearsal.Text

/-- The Unicode property White_Space. -/
def isBlank (c : Char) : Bool :=
  let n := c.toNat
  (9 ≤ n && n ≤ 13) || n == 0x20 || n == 0x85 || n == 0xA0 || n == 0x1680 ||
    (0x2000 ≤ n && n ≤ 0x200A) || n == 0x2028 || n == 0x2029 || n == 0x202F || n == 0x205F ||
    n == 0x3000

/-- The text from its first character that is not blank. -/
def trimStart (s : List Char) : List Char := s.dropWhile isBlank

/-- The text up to its last character that is not blank. -/
def trimEnd (s : List Char) : List Char := (s.reverse.dropWhile isBlank).reverse

/-- The text without the blanks at both of its ends. -/
def trim (s : List Char) : List Char := trimEnd (trimStart s)

theorem trimStart_eq_self_iff {s : List Char} :
    trimStart s = s ↔ ∀ c, s.head? = some c → isBlank c = false := by
  cases s with
  | nil => simp [trimStart]
  | cons c r =>
    by_cases h : isBlank c <;> simp [trimStart, List.dropWhile, h]
    intro e
    have := congrArg List.length e
    have hl := (List.dropWhile_sublist (l := r) isBlank).length_le
    simp at this
    omega

theorem trimEnd_eq_self {s : List Char} (h : ∀ c, s.getLast? = some c → isBlank c = false) :
    trimEnd s = s := by
  have : trimStart s.reverse = s.reverse :=
    trimStart_eq_self_iff.2 fun c hc => h c (by simpa using hc)
  unfold trimEnd
  unfold trimStart at this
  rw [this, List.reverse_reverse]

/-- A text whose ends are not blank is its own trimming. -/
theorem trim_eq_self {s : List Char} (h₁ : ∀ c, s.head? = some c → isBlank c = false)
    (h₂ : ∀ c, s.getLast? = some c → isBlank c = false) : trim s = s := by
  rw [trim, trimStart_eq_self_iff.2 h₁, trimEnd_eq_self h₂]

theorem isBlank_head_dropWhile {s : List Char} {c : Char}
    (h : (s.dropWhile isBlank).head? = some c) : isBlank c = false := by
  have := List.head?_dropWhile_not isBlank s
  rwa [h] at this

theorem prefix_trimEnd (s : List Char) : trimEnd s <+: s := by
  have h := List.reverse_prefix.2 (List.dropWhile_suffix (l := s.reverse) isBlank)
  rwa [List.reverse_reverse] at h

/-- A trimmed text does not start with a blank. -/
theorem isBlank_head_trim {s : List Char} {c : Char} (h : (trim s).head? = some c) :
    isBlank c = false := by
  obtain ⟨t, ht⟩ := prefix_trimEnd (trimStart s)
  obtain ⟨r, hr⟩ : ∃ r, trim s = c :: r := List.head?_eq_some_iff.1 h
  have hr : trimEnd (trimStart s) = c :: r := hr
  exact isBlank_head_dropWhile (s := s) (by rw [← trimStart, ← ht, hr]; rfl)

/-- A trimmed text does not end with a blank. -/
theorem isBlank_getLast_trim {s : List Char} {c : Char} (h : (trim s).getLast? = some c) :
    isBlank c = false := by
  rw [trim, trimEnd, List.getLast?_reverse] at h
  exact isBlank_head_dropWhile h

theorem trim_trim (s : List Char) : trim (trim s) = trim s :=
  trim_eq_self (fun _ h => isBlank_head_trim h) fun _ h => isBlank_getLast_trim h

theorem trim_cons_of_isBlank {c : Char} (h : isBlank c = true) (s : List Char) :
    trim (c :: s) = trim s := by
  rw [trim, trimStart, List.dropWhile_cons_of_pos h]
  rfl

theorem mem_of_mem_trim {s : List Char} {c : Char} (h : c ∈ trim s) : c ∈ s :=
  (List.dropWhile_sublist isBlank).subset ((prefix_trimEnd _).subset h)

/-- Only blanks: the condition under which a setting counts as not given. -/
def allBlank (s : List Char) : Bool := s.all isBlank

end Rehearsal.Text
