import Rehearsal.Browser.Step
import Rehearsal.Setup
import Rehearsal.Text.Substitution

/-!
# Placeholders

Names in braces that stand for values of the setup or of the run. They are replaced one after the
other; a name without a value stays as it is. `Placeholders.expandStep` replaces them in the texts
of a browser step that select, address or compare something.
-/

namespace Rehearsal

/-- The values of placeholders. -/
structure Placeholders where
  lms : String
  cms : String
  staffEmail : String
  learnerEmail : String
  /-- Letters that no other run has. -/
  unique : String
  demoCourse : Option String
  mail : Option String
  /-- The key of the course that was created last. -/
  courseKey : Option String
  deriving DecidableEq

namespace Placeholders

/-- A text without the slashes at its end. -/
def trimSlashes (s : String) : String := String.ofList (trimTrailingSlashes s.toList)

/-- The values of a setup, before a course was created. -/
def ofSetup (s : Setup) (unique : String) : Placeholders where
  lms := trimSlashes s.lms
  cms := trimSlashes s.cms
  staffEmail := s.staff.email
  learnerEmail := s.learner.email
  unique := unique
  demoCourse := s.demoCourse
  mail := s.mail.map trimSlashes
  courseKey := none

/-- How a name is written as a placeholder. -/
def token (name : String) : List Char := '\x7b' :: name.toList ++ ['\x7d']

/-- The names in the order in which they are replaced, with their values. -/
def values (p : Placeholders) : List (String × Option String) :=
  [("lms", some p.lms), ("cms", some p.cms), ("staff_email", some p.staffEmail),
    ("learner_email", some p.learnerEmail), ("unique", some p.unique),
    ("demo_course_id", p.demoCourse), ("mail", p.mail), ("course_key", p.courseKey)]

/-- A text with the values put for the placeholders, one name after the other. -/
def expandText (p : Placeholders) (s : List Char) : List Char :=
  p.values.foldl (fun s (name, value) =>
    match value with
    | some v => Text.replaceAll (token name) v.toList s
    | none => s) s

/-- A text with the values put for the placeholders. -/
def expand (p : Placeholders) (s : String) : String := String.ofList (p.expandText s.toList)

/-- A step with the values put for the placeholders; keys, names of screenshots and messages stay
as they are. -/
def expandStep (p : Placeholders) : BrowserStep → BrowserStep
  | .navigate url waitFor => .navigate (p.expand url) (waitFor.map p.expand)
  | .click selector force timeout => .click (p.expand selector) force timeout
  | .fill selector value => .fill (p.expand selector) (p.expand value)
  | .type selector text delay => .type (p.expand selector) (p.expand text) delay
  | .select selector value => .select (p.expand selector) (p.expand value)
  | .wait selector timeout state => .wait (p.expand selector) timeout state
  | .urlContains fragment timeout => .urlContains (p.expand fragment) timeout
  | .assert selector visible text textContains count =>
    .assert (p.expand selector) visible (text.map p.expand) (textContains.map p.expand) count
  | .expectStatus url status => .expectStatus (p.expand url) status
  | s => s

end Placeholders
end Rehearsal
