/-!
# Random draws

Draws from a finite supply of random words of 64 bits. A number below a bound is drawn by
multiplying a word with the bound and refusing the words that would favour some numbers; a draw is
`none` when the supply ends first. Main statements: what is drawn is below the bound (`below_lt`),
and a draw leaves fewer words than there were (`below_length`).
-/

namespace Rehearsal

/-- Random words, in the order in which they are used. -/
abbrev Words := List UInt64

/-- A value that is drawn, and the words left. -/
abbrev Draw (α : Type) := StateT Words Option α

namespace Draw

/-- The largest low half of a product of a word with a bound that is not refused. -/
def zone (bits bound : Nat) : Nat := bound * Nat.pow 2 (bits - (Nat.log2 bound + 1)) - 1

/-- A number below a bound, from the low bits of words. -/
def belowFrom (bits bound : Nat) : Words → Option (Nat × Words)
  | [] => none
  | w :: ws =>
    let product := w.toNat % Nat.pow 2 bits * bound
    if product % Nat.pow 2 bits ≤ zone bits bound then some (product / Nat.pow 2 bits, ws)
    else belowFrom bits bound ws

/-- A number below a bound, from the low bits of words. -/
def below (bits bound : Nat) : Draw Nat := belowFrom bits bound

/-- A letter from A to Z. -/
def letter : Draw Char := (fun n => Char.ofNat (65 + n)) <$> below 64 26

/-- So many letters from A to Z. -/
def letterList : Nat → Draw (List Char)
  | 0 => pure []
  | n + 1 => do
    let c ← letter
    let cs ← letterList n
    return c :: cs

/-- A text of so many letters from A to Z. -/
def letters (n : Nat) : Draw String := String.ofList <$> letterList n

/-- A number below a bound in decimal. -/
def numeral (bound : Nat) : Draw String := (fun n => s!"{n}") <$> below 32 bound

theorem belowFrom_length {bits bound n : Nat} {ws rest : Words}
    (h : belowFrom bits bound ws = some (n, rest)) : rest.length < ws.length := by
  induction ws with
  | nil => simp [belowFrom] at h
  | cons w ws ih =>
    simp only [belowFrom] at h
    split at h
    · simp only [Option.some.injEq, Prod.mk.injEq] at h
      simp [h.2]
    · have := ih h
      simp
      omega

/-- What is drawn is below the bound. -/
theorem belowFrom_lt {bits bound n : Nat} {ws rest : Words} (hb : 0 < bound)
    (h : belowFrom bits bound ws = some (n, rest)) : n < bound := by
  induction ws with
  | nil => simp [belowFrom] at h
  | cons w ws ih =>
    simp only [belowFrom] at h
    split at h
    · simp only [Option.some.injEq, Prod.mk.injEq] at h
      rw [← h.1]
      have hw : w.toNat % Nat.pow 2 bits < Nat.pow 2 bits := Nat.mod_lt _ (Nat.two_pow_pos bits)
      exact Nat.div_lt_of_lt_mul (by
        calc w.toNat % Nat.pow 2 bits * bound < Nat.pow 2 bits * bound := Nat.mul_lt_mul_of_pos_right hw hb
          _ = Nat.pow 2 bits * bound := rfl)
    · exact ih h

end Draw
end Rehearsal
