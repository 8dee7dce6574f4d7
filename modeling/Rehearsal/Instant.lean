import Rehearsal.Text.Blank
import Rehearsal.Text.Numeral
import Rehearsal.Text.Utf8

/-!
# Instants

A point of time in UTC, counted from the beginning of 1970, and its text. `Instant.parse` reads a
date, a time and an offset, with blanks between their parts; `Instant.text` writes the same
instant in the shortest form that keeps its fraction.
-/

namespace Rehearsal

open Text

/-! ## Days -/

/-- A day of the calendar. -/
structure Day where
  year : Int
  month : Nat
  day : Nat
  deriving DecidableEq

namespace Day

/-- Whether a year has a day more than others. -/
def isLeapYear (year : Int) : Bool :=
  year.fmod 4 = 0 && (year.fmod 100 ≠ 0 || year.fmod 400 = 0)

/-- The number of days of a month. -/
def monthLength (year : Int) (month : Nat) : Nat :=
  if month = 2 then if isLeapYear year then 29 else 28
  else if month = 4 ∨ month = 6 ∨ month = 9 ∨ month = 11 then 30
  else 31

/-- Whether a day is on the calendar. -/
def isValid (d : Day) : Bool :=
  1 ≤ d.month && d.month ≤ 12 && 1 ≤ d.day && d.day ≤ monthLength d.year d.month

/-- The number of days since the first one of 1970. Years are taken to begin in March, so that a
leap day is the last of its year. -/
def number (d : Day) : Int :=
  let year : Int := if d.month ≤ 2 then d.year - 1 else d.year
  let era := year.fdiv 400
  let ofEra := year - era * 400
  let month : Int := if d.month ≤ 2 then d.month + 9 else d.month - 3
  let ofYear := (153 * month + 2).fdiv 5 + d.day - 1
  era * 146097 + (ofEra * 365 + ofEra.fdiv 4 - ofEra.fdiv 100 + ofYear) - 719468

/-- The day of a number. -/
def ofNumber (n : Int) : Day :=
  let n := n + 719468
  let era := n.fdiv 146097
  let ofEra := n - era * 146097
  let year := (ofEra - ofEra.fdiv 1460 + ofEra.fdiv 36524 - ofEra.fdiv 146096).fdiv 365
  let ofYear := ofEra - (365 * year + year.fdiv 4 - year.fdiv 100)
  let month := (5 * ofYear + 2).fdiv 153
  let day := ofYear - (153 * month + 2).fdiv 5 + 1
  let month := if month < 10 then month + 3 else month - 9
  ⟨year + era * 400 + (if month ≤ 2 then 1 else 0), month.toNat, day.toNat⟩

/-- The first year that is kept. -/
def firstYear : Int := -262143

/-- The last year that is kept. -/
def lastYear : Int := 262142

/-- Whether the year of a day is kept. -/
def isKept (d : Day) : Bool := firstYear ≤ d.year && d.year ≤ lastYear

end Day

/-! ## Instants -/

/-- A point of time. -/
structure Instant where
  /-- The seconds since the beginning of 1970. -/
  seconds : Int
  /-- The nanoseconds after them; those of a leap second go on after a thousand million. -/
  nanoseconds : Nat
  deriving DecidableEq

/-- Why a text is no instant. -/
inductive InstantFault where
  | outOfRange
  | impossible
  | invalid
  | tooShort
  | tooLong
  deriving DecidableEq

/-- The wording of a fault. -/
def InstantFault.message : InstantFault → String
  | .outOfRange => "input is out of range"
  | .impossible => "no possible date and time matching input"
  | .invalid => "input contains invalid characters"
  | .tooShort => "premature end of input"
  | .tooLong => "trailing input"

namespace Instant

/-- The number of nanoseconds in a second. -/
def billion : Nat := 1000000000

/-! ### Reading -/

/-- What is read from the beginning of a text, and the text after it. -/
abbrev Taking (α : Type) := StateT (List Char) (Except InstantFault) α

/-- The blanks at the beginning are passed over. -/
def passBlanks : Taking Unit := modify trimStart

/-- The number of the digits at the beginning; no more than so many, if there is a bound. -/
def takeNumber (most : Option Nat) : Taking Nat := do
  let s ← get
  let run := (match most with | some n => s.take n | none => s).takeWhile isDigit
  if s.isEmpty then throw .tooShort
  else
    match natOfDigits? 10 run with
    | none => throw .invalid
    | some n =>
      if n < Nat.pow 2 63 then
        set (s.drop run.length)
        return n
      else throw .outOfRange

/-- A number after blanks, within bounds. -/
def takeField (least most : Nat) : Taking Nat := do
  passBlanks
  let n ← takeNumber (some 2)
  if least ≤ n ∧ n ≤ most then return n else throw .outOfRange

/-- The next character. -/
def takeChar : Taking Char := do
  match ← get with
  | [] => throw .tooShort
  | c :: s =>
    set s
    return c

/-- A mark after blanks. -/
def takeMark (mark : Char) : Taking Unit := do
  passBlanks
  let c ← takeChar
  if c = mark then return else throw .invalid

/-- A year after blanks; only one with a sign may have more than four digits. -/
def takeYear : Taking Int := do
  passBlanks
  let year : Int ←
    match ← get with
    | '-' :: s => do
      set s
      let n ← takeNumber none
      pure (-n)
    | '+' :: s => do
      set s
      let n ← takeNumber none
      pure n
    | _ => do
      let n ← takeNumber (some 4)
      pure n
  if -2147483648 ≤ year ∧ year ≤ 2147483647 then return year else throw .outOfRange

/-- The nanoseconds of a fraction, if there is one. -/
def takeFraction : Taking Nat := do
  match ← get with
  | '.' :: s =>
    set s
    let n ← takeNumber (some 9)
    let rest ← get
    set (rest.dropWhile isDigit)
    return n * Nat.pow 10 (9 - (s.length - rest.length))
  | _ => return 0

/-- A number of two digits. -/
def takePair : Taking Nat := do
  let s ← get
  if utf8Length s < 2 then throw .tooShort
  else
    match s with
    | a :: b :: s =>
      if isDigit a && isDigit b then
        set s
        return 10 * (a.toNat - 48) + (b.toNat - 48)
      else throw .invalid
    | _ => throw .invalid

/-- Hours and minutes of an offset, in seconds. -/
def takeHoursAndMinutes : Taking Nat := do
  let hours ← takePair
  modify fun s => s.dropWhile fun c => c = ':' || isBlank c
  let minutes ← takePair
  if minutes < 60 then return hours * 3600 + minutes * 60 else throw .outOfRange

/-- The seconds by which the time at some place is ahead. -/
def takeOffset : Taking Int := do
  let s ← get
  if (s.take 3).map Char.toUpper = "UTC".toList then
    set (s.drop 3)
    return 0
  let c ← takeChar
  if c = 'Z' ∨ c = 'z' then return 0
  else if c = '+' then
    let n ← takeHoursAndMinutes
    return n
  else if c = '-' ∨ c = Char.ofNat 0x2212 then
    let n ← takeHoursAndMinutes
    return -n
  else throw .invalid

/-- A day. -/
def takeDay : Taking Day := do
  let year ← takeYear
  takeMark '-'
  let month ← takeField 1 12
  takeMark '-'
  let day ← takeField 1 31
  return ⟨year, month, day⟩

/-- A time, as seconds of the day and nanoseconds; the second that ends a minute may be a leap
second. -/
def takeTime : Taking (Nat × Nat) := do
  let hour ← takeField 0 23
  takeMark ':'
  let minute ← takeField 0 59
  takeMark ':'
  let second ← takeField 0 60
  let nanoseconds ← takeFraction
  let early := hour * 3600 + minute * 60
  if second = 60 then return (early + 59, billion + nanoseconds)
  else return (early + second, nanoseconds)

/-- Date, time and offset, up to the end of a text. -/
def takeAll : Taking (Day × (Nat × Nat) × Int) := do
  let day ← takeDay
  let c ← takeChar
  if !(c = 'T' || c = 't' || c = ' ') then throw .invalid
  let time ← takeTime
  passBlanks
  let offset ← takeOffset
  passBlanks
  if (← get).isEmpty then return (day, time, offset) else throw .tooLong

/-- The instant that a text denotes. -/
def parse (s : List Char) : Except InstantFault Instant := do
  let (day, (seconds, nanoseconds), offset) ← takeAll.run' s
  if !(day.isValid && day.isKept) then throw .outOfRange
  if 86400 ≤ offset.natAbs then throw .outOfRange
  let instant : Instant := ⟨day.number * 86400 + seconds - offset, nanoseconds⟩
  if (Day.ofNumber (instant.seconds.fdiv 86400)).isKept then return instant else throw .impossible

/-! ### Writing -/

/-- The text of a year: four digits, and a sign if it needs more or is before the first one. -/
def yearText (year : Int) : List Char :=
  if 0 ≤ year ∧ year ≤ 9999 then paddedDecimal 4 year.natAbs
  else (if year < 0 then '-' else '+') :: paddedDecimal 4 year.natAbs

/-- The text of a fraction: three, six or nine digits, as many as it needs. -/
def fractionText (nanoseconds : Nat) : List Char :=
  if nanoseconds = 0 then []
  else if nanoseconds % 1000000 = 0 then '.' :: paddedDecimal 3 (nanoseconds / 1000000)
  else if nanoseconds % 1000 = 0 then '.' :: paddedDecimal 6 (nanoseconds / 1000)
  else '.' :: paddedDecimal 9 nanoseconds

/-- The text of an instant. -/
def text (t : Instant) : List Char :=
  let day := Day.ofNumber (t.seconds.fdiv 86400)
  let second := (t.seconds.fmod 86400).toNat
  let leap := t.nanoseconds / billion
  yearText day.year ++ '-' :: paddedDecimal 2 day.month ++ '-' :: paddedDecimal 2 day.day ++
    'T' :: paddedDecimal 2 (second / 3600) ++ ':' :: paddedDecimal 2 (second / 60 % 60) ++
    ':' :: paddedDecimal 2 (second % 60 + leap) ++ fractionText (t.nanoseconds % billion) ++ ['Z']

end Instant
end Rehearsal
