import Rehearsal.Decoder.Choice

/-!
# Course settings

How throwaway courses are named, and the form in which they are created.
-/

namespace Rehearsal

open Data

/-- How the organization of a course is chosen. -/
inductive OrgRule where
  | random (length : Nat)
  | fixed (value : String)
  deriving DecidableEq

/-- How the run of a course is chosen: the year, or the year with a digit. -/
inductive RunRule where
  | year
  | yearWithDigit
  deriving DecidableEq

/-- The selectors of the form in which a course is created. -/
structure FormSelectors where
  newCourseButton : String := ".nav-actions .new-course-button"
  name : String := "#new-course-name"
  org : String := "#new-course-org"
  number : String := "#new-course-number"
  run : String := "#new-course-run"
  save : String := ".new-course-save"
  deriving DecidableEq

/-- The settings of course creation. -/
structure CourseSettings where
  /-- The page that holds the button for a new course. -/
  landingPath : String := "/"
  namePrefix : String := "Test "
  org : OrgRule := .random 6
  run : RunRule := .year
  selectors : FormSelectors := {}
  /-- What the address contains once the course exists. -/
  createdUrlFragment : String := "/course/"
  /-- How many milliseconds to wait for that. -/
  createdTimeout : Nat := 30000
  deriving DecidableEq

/-- The bound of numbers of 64 bits. -/
def bound64 : Nat := Nat.pow 2 64

/-- A number of 64 bits. -/
def Decoder.nat64 : Decoder Nat := .nat bound64 "u64"

/-- A count. -/
def Decoder.count : Decoder Nat := .nat bound64 "usize"

/-- A number of 32 bits. -/
def Decoder.nat32 : Decoder Nat := .nat (Nat.pow 2 32) "u32"

/-- The decoder of organization rules. -/
def OrgRule.decoder : Decoder OrgRule :=
  .tagged "OrgStrategy" "kind"
    [.record "struct variant OrgStrategy::Random" "random" 0
      [field "length" .required .count fun n _ => n] .random,
     .record "struct variant OrgStrategy::Fixed" "fixed" ""
      [field "value" .required .text fun s _ => s] .fixed]

/-- The decoder of run rules. -/
def RunRule.decoder : Decoder RunRule := .choice [("year", .year), ("year_with_digit", .yearWithDigit)]

/-- The decoder of form selectors. -/
def FormSelectors.decoder : Decoder FormSelectors :=
  .record "struct CourseSelectors" {}
    [field "new_course_button" .free .text fun v s => { s with newCourseButton := v },
     field "name" .free .text fun v s => { s with name := v },
     field "org" .free .text fun v s => { s with org := v },
     field "number" .free .text fun v s => { s with number := v },
     field "run" .free .text fun v s => { s with run := v },
     field "save" .free .text fun v s => { s with save := v }]

/-- The decoder of course settings. -/
def CourseSettings.decoder : Decoder CourseSettings :=
  .record "struct CourseConfig" {}
    [field "landing_path" .free .text fun v s => { s with landingPath := v },
     field "name_prefix" .free .text fun v s => { s with namePrefix := v },
     field "org" .free OrgRule.decoder fun v s => { s with org := v },
     field "run" .free RunRule.decoder fun v s => { s with run := v },
     field "selectors" .free FormSelectors.decoder fun v s => { s with selectors := v },
     field "created_url_fragment" .free .text fun v s => { s with createdUrlFragment := v },
     field "created_timeout_ms" .free .nat64 fun v s => { s with createdTimeout := v }]

/-- An organization rule as a dynamic value. -/
def OrgRule.toValue : OrgRule → Value
  | .random length => .record [("kind", .text "random"), ("length", .nat length)]
  | .fixed value => .record [("kind", .text "fixed"), ("value", .text value)]

/-- The name of a run rule. -/
def RunRule.name : RunRule → String
  | .year => "year"
  | .yearWithDigit => "year_with_digit"

/-- Form selectors as a dynamic value. -/
def FormSelectors.toValue (s : FormSelectors) : Value :=
  .record [("new_course_button", .text s.newCourseButton), ("name", .text s.name), ("org", .text s.org),
    ("number", .text s.number), ("run", .text s.run), ("save", .text s.save)]

/-- Course settings as a dynamic value. -/
def CourseSettings.toValue (s : CourseSettings) : Value :=
  .record [("landing_path", .text s.landingPath), ("name_prefix", .text s.namePrefix),
    ("org", s.org.toValue), ("run", .text s.run.name), ("selectors", s.selectors.toValue),
    ("created_url_fragment", .text s.createdUrlFragment), ("created_timeout_ms", .nat s.createdTimeout)]

end Rehearsal
