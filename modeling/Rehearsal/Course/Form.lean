import Rehearsal.Browser.Step
import Rehearsal.Course.Basic
import Rehearsal.Setup

/-!
# Creating courses

The steps that create a course in the browser: open the form, fill it, save it, and wait until the
address shows the course.
-/

namespace Rehearsal

/-- A click that waits as long as any other. -/
def plainClick (selector : String) : BrowserStep := .click selector false none

/-- The steps that create a course. -/
def Course.creation (s : Setup) (c : Course) : List BrowserStep :=
  let form := s.course.selectors
  [.navigate (joinAddress s.cms s.course.landingPath) (some form.newCourseButton),
   plainClick form.newCourseButton,
   .fill form.name c.name,
   .fill form.org c.org,
   .fill form.number c.number,
   .fill form.run c.run,
   plainClick form.save,
   .urlContains s.course.createdUrlFragment s.course.createdTimeout]

/-- The steps that create a course, and go on to an address if one is given. -/
def Course.steps (s : Setup) (c : Course) (nextUrl : Option String) : List BrowserStep :=
  c.creation s ++ (nextUrl.map fun u => .navigate u none).toList

end Rehearsal
