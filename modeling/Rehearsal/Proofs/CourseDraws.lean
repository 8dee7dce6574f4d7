import Rehearsal.Proofs.Runs

/-!
# Values drawn for courses

A candidate for a course is spelled out of a few values that are drawn from random words
(`CourseGenerator.candidate_eq`). The values that can be drawn are those that fit the settings
(`Drawn.fits_of_drawn`, `CourseSettings.drawn_reaches`), and they can be read off the course again
(`Drawn.course_inj`): numbers are written without zeros in front, and the letters before a number are
two. Each value of a draw is drawn from some words, since its share of all words is larger than the
part of it that is refused (`Draw.below_reaches`).
-/

namespace Rehearsal

open Text

/-! ## Values -/

/-- What is drawn for a candidate: the number in its name, the letters of its organization, the
letters and the number of its number, and the digit of its run. -/
@[ext]
structure Drawn where
  name : Nat
  org : List Char
  front : List Char
  back : Nat
  digit : Option Nat

/-- The letters that are drawn for an organization. -/
def OrgRule.drawn : OrgRule → Draw (List Char)
  | .random length => Draw.letterList length
  | .fixed _ => pure []

/-- The digit that is drawn for a run. -/
def RunRule.drawn : RunRule → Draw (Option Nat)
  | .year => pure none
  | .yearWithDigit => some <$> Draw.below 32 10

namespace CourseSettings

/-- The values that are drawn for a candidate. -/
def drawn (s : CourseSettings) : Draw Drawn := do
  let name ← Draw.below 32 100000
  let org ← s.org.drawn
  let front ← Draw.letterList 2
  let back ← Draw.below 32 1000
  let digit ← s.run.drawn
  return ⟨name, org, front, back, digit⟩

variable {s : CourseSettings} {d : Drawn} {words rest : Words}

/-- The values are drawn one after the other, each from the words that the ones before it leave. -/
theorem drawn_ok : s.drawn words = some (d, rest) ↔ ∃ words₁ words₂ words₃ words₄,
    Draw.below 32 100000 words = some (d.name, words₁) ∧
    s.org.drawn words₁ = some (d.org, words₂) ∧
    Draw.letterList 2 words₂ = some (d.front, words₃) ∧
    Draw.below 32 1000 words₃ = some (d.back, words₄) ∧
    s.run.drawn words₄ = some (d.digit, rest) := by
  constructor
  · intro h
    obtain ⟨name, words₁, hname, h⟩ := Draw.bind_ok.1 h
    obtain ⟨org, words₂, horg, h⟩ := Draw.bind_ok.1 h
    obtain ⟨front, words₃, hfront, h⟩ := Draw.bind_ok.1 h
    obtain ⟨back, words₄, hback, h⟩ := Draw.bind_ok.1 h
    obtain ⟨digit, words₅, hdigit, h⟩ := Draw.bind_ok.1 h
    obtain ⟨rfl, rfl⟩ := Draw.pure_ok.1 h
    exact ⟨words₁, words₂, words₃, words₄, hname, horg, hfront, hback, hdigit⟩
  · rintro ⟨words₁, words₂, words₃, words₄, hname, horg, hfront, hback, hdigit⟩
    exact Draw.bind_ok.2 ⟨_, _, hname, Draw.bind_ok.2 ⟨_, _, horg, Draw.bind_ok.2 ⟨_, _, hfront,
      Draw.bind_ok.2 ⟨_, _, hback, Draw.bind_ok.2 ⟨_, _, hdigit, rfl⟩⟩⟩⟩⟩

end CourseSettings

namespace Drawn

/-- The organization that some letters make. -/
def orgText (letters : List Char) : OrgRule → String
  | .random _ => String.ofList letters
  | .fixed value => value

/-- The run of a year that a digit makes, if there is one. -/
def runText (year : Int) : Option Nat → String
  | none => s!"{year}"
  | some digit => s!"{year}_{digit}"

/-- The course that drawn values make in a year. -/
def course (s : CourseSettings) (year : Int) (d : Drawn) : Course where
  name := s.namePrefix ++ s!"{d.name}"
  org := orgText d.org s.org
  number := String.ofList d.front ++ s!"{d.back}"
  run := runText year d.digit

/-- Values that can be drawn: the numbers are below their bounds, and there are as many letters from A
to Z as there have to be. -/
structure Fits (s : CourseSettings) (d : Drawn) : Prop where
  name : d.name < 100000
  org : match s.org with
    | .random length => d.org.length = length ∧ ∀ c ∈ d.org, c ∈ Draw.capitals
    | .fixed _ => d.org = []
  front : d.front.length = 2 ∧ ∀ c ∈ d.front, c ∈ Draw.capitals
  back : d.back < 1000
  digit : match s.run with
    | .year => d.digit = none
    | .yearWithDigit => ∃ k < 10, d.digit = some k

variable {s : CourseSettings} {d e : Drawn} {year : Int} {words rest : Words}

theorem fits_of_drawn (h : s.drawn words = some (d, rest)) : d.Fits s := by
  obtain ⟨_, _, _, _, hname, horg, hfront, hback, hdigit⟩ := CourseSettings.drawn_ok.1 h
  refine ⟨Draw.belowFrom_lt (by decide) hname, ?_, Draw.letterList_ok hfront,
    Draw.belowFrom_lt (by decide) hback, ?_⟩
  · rcases ho : s.org with length | value <;> rw [ho] at horg
    · exact Draw.letterList_ok horg
    · exact (Draw.pure_ok.1 horg).1.symm
  · rcases hr : s.run with _ | _ <;> rw [hr] at hdigit
    · exact (Draw.pure_ok.1 hdigit).1.symm
    · obtain ⟨k, hk, hd⟩ := Draw.map_ok.1 hdigit
      exact ⟨k, Draw.belowFrom_lt (by decide) hk, hd.symm⟩

theorem toList_runText (year : Int) (k : Nat) :
    (runText year (some k)).toList = (s!"{year}_").toList ++ decimal k := by
  have he : runText year (some k) = s!"{year}_" ++ s!"{k}" := rfl
  rw [he, String.toList_append, toList_number]

/-- The values are read off a course: its name and its run end in them, its organization is its
letters, and its number is two letters and then digits. -/
theorem course_inj (hd : d.Fits s) (he : e.Fits s) (h : d.course s year = e.course s year) :
    d = e := by
  obtain ⟨hname, horg, hnumber, hrun⟩ := Course.mk.inj h
  have hname : d.name = e.name := by
    have hdigits := congrArg String.toList hname
    rw [String.toList_append, String.toList_append, toList_number, toList_number] at hdigits
    exact decimal_inj.1 (List.append_cancel_left hdigits)
  have horg : d.org = e.org := by
    have hdo := hd.org
    have heo := he.org
    rcases ho : s.org with length | value <;> rw [ho] at hdo heo horg
    · exact String.ofList_injective horg
    · exact hdo.trans heo.symm
  have hnumber : d.front = e.front ∧ d.back = e.back := by
    have hparts := congrArg String.toList hnumber
    simp only [String.toList_append, String.toList_ofList, toList_number] at hparts
    obtain ⟨hfront, hback⟩ := List.append_inj hparts (hd.front.1.trans he.front.1.symm)
    exact ⟨hfront, decimal_inj.1 hback⟩
  have hdigit : d.digit = e.digit := by
    have hdd := hd.digit
    have hed := he.digit
    rcases hr : s.run with _ | _ <;> rw [hr] at hdd hed
    · exact hdd.trans hed.symm
    · obtain ⟨k, -, hk⟩ := hdd
      obtain ⟨m, -, hm⟩ := hed
      have hdigits := congrArg String.toList hrun
      rw [hk, hm, toList_runText, toList_runText] at hdigits
      rw [hk, hm, decimal_inj.1 (List.append_cancel_left hdigits)]
  exact Drawn.ext hname horg hnumber.1 hnumber.2 hdigit

end Drawn

/-! ## Words that are used up -/

theorem Draw.letterList_length {n : Nat} {letters : List Char} {words rest : Words}
    (h : letterList n words = some (letters, rest)) : rest.length ≤ words.length := by
  induction n generalizing words letters with
  | zero =>
    cases h
    exact Nat.le_refl _
  | succ n ih =>
    obtain ⟨c, mid, hc, h⟩ := bind_ok.1 h
    obtain ⟨cs, last, hcs, h⟩ := bind_ok.1 h
    obtain ⟨-, rfl⟩ := pure_ok.1 h
    obtain ⟨k, hk, -⟩ := map_ok.1 hc
    exact Nat.le_trans (ih hcs) (Nat.le_of_lt (belowFrom_length hk))

/-- A candidate takes a word for its name, whatever the other values take. -/
theorem CourseSettings.drawn_length {s : CourseSettings} {d : Drawn} {words rest : Words}
    (h : s.drawn words = some (d, rest)) : rest.length < words.length := by
  obtain ⟨words₁, words₂, words₃, words₄, hname, horg, hfront, hback, hdigit⟩ := drawn_ok.1 h
  have h₁ := Draw.belowFrom_length hname
  have h₂ : words₂.length ≤ words₁.length := by
    rcases ho : s.org with length | value <;> rw [ho] at horg
    · exact Draw.letterList_length horg
    · exact Nat.le_of_eq (congrArg List.length (Draw.pure_ok.1 horg).2.symm)
  have h₃ := Draw.letterList_length hfront
  have h₄ := Draw.belowFrom_length hback
  have h₅ : rest.length ≤ words₄.length := by
    rcases hr : s.run with _ | _ <;> rw [hr] at hdigit
    · exact Nat.le_of_eq (congrArg List.length (Draw.pure_ok.1 hdigit).2.symm)
    · obtain ⟨k, hk, -⟩ := Draw.map_ok.1 hdigit
      exact Nat.le_of_lt (Draw.belowFrom_length hk)
  omega

/-! ## Values that are reached -/

namespace Draw

/-- A value is drawn from some words, and these are all used up. -/
def Reaches {α : Type} (d : Draw α) (a : α) : Prop :=
  ∃ words, ∀ rest, d (words ++ rest) = some (a, rest)

variable {α β : Type} {d : Draw α} {f : α → Draw β} {a : α} {b : β}

theorem Reaches.pure (a : α) : (Pure.pure a : Draw α).Reaches a := ⟨[], fun _ => rfl⟩

theorem Reaches.bind (hd : d.Reaches a) (hf : (f a).Reaches b) : (d >>= f).Reaches b := by
  obtain ⟨words, hwords⟩ := hd
  obtain ⟨more, hmore⟩ := hf
  refine ⟨words ++ more, fun rest => bind_ok.2 ⟨a, more ++ rest, ?_, hmore rest⟩⟩
  rw [List.append_assoc]
  exact hwords (more ++ rest)

theorem Reaches.map (g : α → β) (hd : d.Reaches a) : (g <$> d).Reaches (g a) := by
  obtain ⟨words, hwords⟩ := hd
  exact ⟨words, fun rest => map_ok.2 ⟨a, hwords rest, rfl⟩⟩

/-- A word is taken if its product with the bound is less than the bound above a multiple of the
number of words, and the multiple is what is drawn. -/
theorem belowFrom_of_product {bits bound k e : Nat} {w : UInt64}
    (hw : w.toNat % Nat.pow 2 bits * bound = e + k * Nat.pow 2 bits) (he : e < bound)
    (hbound : bound ≤ Nat.pow 2 bits) (rest : Words) :
    belowFrom bits bound (w :: rest) = some (k, rest) := by
  have hlow : (e + k * Nat.pow 2 bits) % Nat.pow 2 bits = e := by
    rw [Nat.add_mul_mod_self_right, Nat.mod_eq_of_lt (by omega)]
  have hhigh : (e + k * Nat.pow 2 bits) / Nat.pow 2 bits = k := by
    rw [Nat.add_mul_div_right _ _ (by omega), Nat.div_eq_of_lt (by omega), Nat.zero_add]
  have hzone : e ≤ zone bits bound := by
    have := Nat.le_mul_of_pos_right bound (Nat.two_pow_pos (bits - (Nat.log2 bound + 1)))
    unfold zone
    show e ≤ bound * 2 ^ (bits - (Nat.log2 bound + 1)) - 1
    omega
  simp only [belowFrom]
  rw [hw, hlow, hhigh, if_pos hzone]

/-- For each value there is a word whose product with the bound is so. -/
theorem exists_product {size bound k : Nat} (hbound : bound ≤ size) (hk : k < bound) :
    ∃ v < size, ∃ e < bound, v * bound = e + k * size := by
  have hdiv := Nat.div_add_mod (k * size + (bound - 1)) bound
  have hmod := Nat.mod_lt (k * size + (bound - 1)) (Nat.zero_lt_of_lt hk)
  rw [Nat.mul_comm] at hdiv
  generalize (k * size + (bound - 1)) / bound = v at hdiv
  refine ⟨v, ?_, v * bound - k * size, by omega, by omega⟩
  by_contra hv
  have hlow : size * bound ≤ v * bound := Nat.mul_le_mul_right bound (Nat.le_of_not_lt hv)
  have hhigh : (k + 1) * size ≤ bound * size := Nat.mul_le_mul_right size hk
  rw [Nat.add_mul, Nat.one_mul, Nat.mul_comm bound] at hhigh
  omega

theorem below_reaches (bits : Nat) {bound k : Nat} (hbits : bits ≤ 64)
    (hbound : bound ≤ Nat.pow 2 bits) (hk : k < bound) : (below bits bound).Reaches k := by
  obtain ⟨v, hv, e, he, hproduct⟩ := exists_product hbound hk
  have hsize : Nat.pow 2 bits ≤ UInt64.size := Nat.pow_le_pow_right (by decide) hbits
  have hw : (UInt64.ofNat v).toNat % Nat.pow 2 bits * bound = e + k * Nat.pow 2 bits := by
    rw [UInt64.toNat_ofNat_of_lt' (Nat.lt_of_lt_of_le hv hsize), Nat.mod_eq_of_lt hv, hproduct]
  exact ⟨[UInt64.ofNat v], belowFrom_of_product hw he hbound⟩

theorem letter_reaches {c : Char} (h : c ∈ capitals) : letter.Reaches c := by
  have hcapitals : capitals = (List.range 26).map fun n => Char.ofNat (65 + n) := by decide
  rw [hcapitals] at h
  obtain ⟨n, hn, rfl⟩ := List.mem_map.1 h
  exact (below_reaches 64 (by decide) (by decide) (List.mem_range.1 hn)).map _

theorem letterList_reaches {letters : List Char} (h : ∀ c ∈ letters, c ∈ capitals) :
    (letterList letters.length).Reaches letters := by
  induction letters with
  | nil => exact .pure []
  | cons c letters ih =>
    obtain ⟨hc, hletters⟩ := List.forall_mem_cons.1 h
    exact (letter_reaches hc).bind ((ih hletters).bind (.pure _))

end Draw

/-- All values that fit are drawn for some candidate. -/
theorem CourseSettings.drawn_reaches {s : CourseSettings} {d : Drawn} (h : d.Fits s) :
    s.drawn.Reaches d := by
  have horg : s.org.drawn.Reaches d.org := by
    have horg := h.org
    rcases ho : s.org with length | value <;> rw [ho] at horg
    · obtain ⟨rfl, hletters⟩ := horg
      exact Draw.letterList_reaches hletters
    · rw [horg]
      exact .pure []
  have hfront : (Draw.letterList 2).Reaches d.front := by
    rw [← h.front.1]
    exact Draw.letterList_reaches h.front.2
  have hdigit : s.run.drawn.Reaches d.digit := by
    have hdigit := h.digit
    rcases hr : s.run with _ | _ <;> rw [hr] at hdigit
    · rw [hdigit]
      exact .pure none
    · obtain ⟨k, hk, hd⟩ := hdigit
      rw [hd]
      exact (Draw.below_reaches 32 (by decide) (by decide) hk).map some
  have hname := Draw.below_reaches 32 (by decide) (by decide) h.name
  have hback := Draw.below_reaches 32 (by decide) (by decide) h.back
  exact hname.bind (horg.bind (hfront.bind (hback.bind (hdigit.bind (.pure _)))))

/-! ## Candidates -/

namespace CourseGenerator

/-- The settings that a generator follows. -/
def rules (g : CourseGenerator) : CourseSettings :=
  { namePrefix := g.namePrefix, org := g.org, run := g.run }

theorem drawn_org (r : OrgRule) : r.draw = (Drawn.orgText · r) <$> r.drawn := by
  rcases r with length | value
  · rfl
  · exact (map_pure (f := Draw) (Drawn.orgText · (.fixed value)) []).symm

theorem drawn_run (year : Int) (r : RunRule) : r.draw year = Drawn.runText year <$> r.drawn := by
  rcases r with _ | _
  · exact (map_pure (f := Draw) _ _).symm
  · simp only [RunRule.draw, RunRule.drawn, Draw.numeral, Functor.map_map]
    rfl

/-- A candidate is drawn values, spelled out. -/
theorem candidate_eq (g : CourseGenerator) (year : Int) :
    g.candidate year = Drawn.course g.rules year <$> g.rules.drawn := by
  simp only [candidate, rules, CourseSettings.drawn, drawn_org, drawn_run, Draw.numeral,
    Draw.letters, bind_map_left, map_bind, map_pure]
  rfl

theorem candidate_iff {g : CourseGenerator} {year : Int} {c : Course} {words rest : Words} :
    g.candidate year words = some (c, rest) ↔
      ∃ d, g.rules.drawn words = some (d, rest) ∧ d.course g.rules year = c := by
  rw [candidate_eq, Draw.map_ok]

end CourseGenerator
end Rehearsal
