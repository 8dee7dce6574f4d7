import Rehearsal.Course.Basic
import Rehearsal.Course.Draw
import Rehearsal.Course.Settings

/-!
# Course generator

Courses with random names. A candidate is refused if its number is the last one that was handed
out, or if a course with its organization, number and run was handed out before; then the next one
is drawn.
-/

namespace Rehearsal

/-- An organization by a rule. -/
def OrgRule.draw : OrgRule → Draw String
  | .random length => Draw.letters length
  | .fixed value => pure value

/-- A run of a year by a rule. -/
def RunRule.draw (year : Int) : RunRule → Draw String
  | .year => pure s!"{year}"
  | .yearWithDigit => (fun d => s!"{year}_{d}") <$> Draw.numeral 10

/-- The rules for new courses, and what was handed out. -/
structure CourseGenerator where
  namePrefix : String
  org : OrgRule
  run : RunRule
  last : Option String
  issued : List (String × String × String)
  deriving DecidableEq

namespace CourseGenerator

/-- A generator that has handed out nothing. -/
def ofSettings (s : CourseSettings) : CourseGenerator := ⟨s.namePrefix, s.org, s.run, none, []⟩

/-- A candidate for a course in a year. -/
def candidate (g : CourseGenerator) (year : Int) : Draw Course := do
  let digits ← Draw.numeral 100000
  let org ← g.org.draw
  let front ← Draw.letters 2
  let back ← Draw.numeral 1000
  let run ← g.run.draw year
  return ⟨g.namePrefix ++ digits, org, front ++ back, run⟩

/-- Whether a candidate may be handed out. -/
def accepts (g : CourseGenerator) (c : Course) : Bool :=
  g.last ≠ some c.number && !g.issued.contains c.identity

/-- The generator after a course was handed out. -/
def issue (g : CourseGenerator) (c : Course) : CourseGenerator :=
  { g with last := some c.number, issued := c.identity :: g.issued }

/-- The first candidate that may be handed out, among so many. -/
def search (g : CourseGenerator) (year : Int) : Nat → Draw (Course × CourseGenerator)
  | 0 => failure
  | tries + 1 => do
    let c ← g.candidate year
    if g.accepts c then return (c, g.issue c) else g.search year tries

/-- The next course, and the generator after it. There are no more candidates than words. -/
def generate (g : CourseGenerator) (year : Int) : Draw (Course × CourseGenerator) := do
  g.search year (← get).length

/-- So many courses, each with the number of words left after it. -/
def generateMany (g : CourseGenerator) (year : Int) : Nat → Draw (List (Course × Nat))
  | 0 => pure []
  | n + 1 => do
    let (c, g) ← g.generate year
    let left := (← get).length
    let rest ← g.generateMany year n
    return (c, left) :: rest

end CourseGenerator
end Rehearsal
