import Rehearsal.Instant
import Rehearsal.Text.Substitution

/-!
# Dates in headers

A date as HTTP headers write it: a weekday, a day, a month by its name, a year and a time in GMT. The
parts stand in one of four formats, each with its own separators; the weekday has to be one, but need
not be that of the day.
-/

namespace Rehearsal.Http

open Text

namespace Date

/-- What is read from the beginning of a text, and the text after it. -/
abbrev Reading (α : Type) := StateT (List Char) Option α

/-- Reads a text. -/
def exactly (text : String) : Reading Unit := fun s => (dropBeginning? text.toList s).map ((), ·)

/-- Reads one of some names, and gives its number among them. -/
def oneOf (names : List String) : Reading Nat := fun s =>
  names.zipIdx.findSome? fun (name, i) => (dropBeginning? name.toList s).map (i, ·)

/-- Reads a number with so many digits, as many as there are. -/
def digits (least most : Nat) : Reading Nat := fun s =>
  let front := (s.take most).takeWhile isDigit
  if front.length < least then none
  else (natOfDigits? 10 front).map (·, s.drop front.length)

/-- The names of the days of a week. -/
def weekdays : List String :=
  ["Monday", "Tuesday", "Wednesday", "Thursday", "Friday", "Saturday", "Sunday"]

/-- The names of the months. -/
def months : List String :=
  ["Jan", "Feb", "Mar", "Apr", "May", "Jun", "Jul", "Aug", "Sep", "Oct", "Nov", "Dec"]

/-- Reads the first three letters of a weekday. -/
def weekday : Reading Unit := do
  let _ ← oneOf (weekdays.map fun name => String.ofList (name.toList.take 3))

/-- Reads a month by its name. -/
def month : Reading Nat := (· + 1) <$> oneOf months

/-- Reads a day of two digits; a blank may stand for the first one. -/
def paddedDay : Reading Nat := fun s =>
  match s with
  | ' ' :: r => digits 1 1 r
  | s => digits 2 2 s

/-- A year that is written without its hundreds is one of the hundred from 1969 on. -/
def century (year : Int) : Int :=
  if 0 ≤ year ∧ year ≤ 68 then year + 2000
  else if 69 ≤ year ∧ year ≤ 99 then year + 1900
  else year

/-- Reads a year of up to four digits, with a sign if there is one. -/
def year : Reading Int := fun s =>
  match s with
  | '-' :: r => (digits 1 4 r).map fun (n, r) => (century (-n), r)
  | '+' :: r => (digits 1 4 r).map fun (n, r) => (century n, r)
  | s => (digits 1 4 s).map fun (n, r) => (century n, r)

/-- Reads a time of the day, and gives its seconds. -/
def time : Reading Nat := do
  let hour ← digits 2 2
  exactly ":"
  let minute ← digits 2 2
  exactly ":"
  let second ← digits 2 2
  if hour < 24 ∧ minute < 60 ∧ second < 60 then return hour * 3600 + minute * 60 + second
  else failure

/-- A weekday, and then day, month, year and time, with a separator between the first three. -/
def dayFirst (weekday : Reading Unit) (separator : String) (year : Reading Int) :
    Reading (Day × Nat) := do
  weekday
  exactly ", "
  let day ← digits 2 2
  exactly separator
  let month ← month
  exactly separator
  let year ← year
  exactly " "
  let seconds ← time
  exactly " GMT"
  return (⟨year, month, day⟩, seconds)

/-- A weekday, and then month, day, time and year. -/
def monthFirst : Reading (Day × Nat) := do
  weekday
  exactly " "
  let month ← month
  exactly " "
  let day ← paddedDay
  exactly " "
  let seconds ← time
  exactly " "
  let year ← year
  return (⟨year, month, day⟩, seconds)

/-- The formats of a date, the one that is tried first in front. -/
def formats : List (Reading (Day × Nat)) :=
  [dayFirst weekday " " year,
   dayFirst (do let _ ← oneOf weekdays) "-" ((fun n => century n) <$> digits 2 2),
   monthFirst,
   dayFirst weekday "-" year]

/-- The instant of a date in some format. -/
def ofFormat? (format : Reading (Day × Nat)) (s : List Char) : Option Instant :=
  match format s with
  | some ((day, seconds), []) =>
    if day.isValid then some ⟨day.number * 86400 + seconds, 0⟩ else none
  | _ => none

/-- The instant of a date. -/
def parse? (s : List Char) : Option Instant := formats.findSome? fun format => ofFormat? format s

end Date
end Rehearsal.Http
