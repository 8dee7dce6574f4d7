import Rehearsal.Decoder.Record

/-!
# Courses

A course is told from others by organization, number and run; its key joins the three.
-/

namespace Rehearsal

open Data

/-- What is typed into the form for a new course. -/
structure Course where
  name : String
  org : String
  number : String
  run : String
  deriving DecidableEq

namespace Course

/-- The key of a course. -/
def key (c : Course) : String := s!"course-v1:{c.org}+{c.number}+{c.run}"

/-- What tells a course from others. -/
def identity (c : Course) : String × String × String := (c.org, c.number, c.run)

/-- The decoder of courses. -/
def decoder : Decoder Course :=
  .record "struct CourseDescriptor" ⟨"", "", "", ""⟩
    [field "name" .required .text fun v c => { c with name := v },
     field "org" .required .text fun v c => { c with org := v },
     field "number" .required .text fun v c => { c with number := v },
     field "run" .required .text fun v c => { c with run := v }]

/-- A course as a dynamic value. -/
def toValue (c : Course) : Value :=
  .record [("name", .text c.name), ("org", .text c.org), ("number", .text c.number),
    ("run", .text c.run)]

end Course
end Rehearsal
