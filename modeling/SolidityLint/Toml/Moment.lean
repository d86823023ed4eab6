import SolidityLint.Text.Digit
import SolidityLint.Toml.Basic

/-!
# Dates and times

A date is written as year, month and day with hyphens, a time as hour, minute and second with
colons and perhaps a fraction, of which six digits count.  Both together, with a letter `T` or a
space between them, may be followed by the offset from universal time.
-/

namespace SolidityLint.Toml

/-- Takes a number of exactly `count` decimal digits. -/
def fixedDigits? (count : Nat) (s : Text) : Option (Nat × Text) :=
  let digits := s.take count
  if digits.length = count ∧ digits.all isDigit then some (Text.ofDigits 10 digits, s.drop count)
  else none

/-- The rest of a text after a given character. -/
def after? (c : Char) : Text → Option Text
  | d :: s => if d = c then some s else none
  | [] => none

/-- Takes a date, whether or not the calendar has it. -/
def date? (s : Text) : Option (Date × Text) := do
  let (year, s) ← fixedDigits? 4 s
  let (month, s) ← fixedDigits? 2 (← after? '-' s)
  let (day, s) ← fixedDigits? 2 (← after? '-' s)
  if 1 ≤ month ∧ month ≤ 12 ∧ 1 ≤ day ∧ day ≤ 31 then return (⟨year, month, day⟩, s) else none

/-- Takes an hour and a minute. -/
def hourMinute? (s : Text) : Option ((Nat × Nat) × Text) := do
  let (hour, s) ← fixedDigits? 2 s
  let (minute, s) ← fixedDigits? 2 (← after? ':' s)
  if hour < 24 ∧ minute < 60 then return ((hour, minute), s) else none

/-- Takes a fraction of a second, if there is one, in microseconds. -/
def microseconds : Text → Nat × Text
  | '.' :: c :: s =>
      if isDigit c then
        let digits := c :: s.takeWhile isDigit
        (Text.ofDigits 10 ((digits ++ List.replicate 6 '0').take 6), s.dropWhile isDigit)
      else (0, '.' :: c :: s)
  | s => (0, s)

/-- Takes a time of day. -/
def time? (s : Text) : Option (TimeOfDay × Text) := do
  let ((hour, minute), s) ← hourMinute? s
  let (second, s) ← fixedDigits? 2 (← after? ':' s)
  if second < 60 then
    let (microsecond, s) := microseconds s
    return (⟨hour, minute, second, microsecond⟩, s)
  else none

/-- Takes an offset from universal time, if there is one, in minutes. -/
def offset : Text → Option Int × Text
  | 'Z' :: s => (some 0, s)
  | 'z' :: s => (some 0, s)
  | c :: s =>
      if c = '+' ∨ c = '-' then
        match hourMinute? s with
        | some ((hour, minute), rest) =>
            let n : Int := 60 * hour + minute
            (some (if c = '-' then -n else n), rest)
        | none => (none, c :: s)
      else (none, c :: s)
  | [] => (none, [])

/-- Is a year a leap year? -/
def isLeapYear (year : Nat) : Bool :=
  year % 4 == 0 && (year % 100 != 0 || year % 400 == 0)

/-- The number of days of a month. -/
def daysOfMonth (year month : Nat) : Nat :=
  if month = 2 then if isLeapYear year then 29 else 28
  else if month = 4 ∨ month = 6 ∨ month = 9 ∨ month = 11 then 30
  else 31

/-- Does the calendar have a date?  It starts with the year 1. -/
def isCalendarDate (d : Date) : Bool :=
  decide (1 ≤ d.year) && decide (d.day ≤ daysOfMonth d.year d.month)

/-- Takes the time that follows a date, if one does. -/
def timeAfterDate? : Text → Option (TimeOfDay × Text)
  | c :: s => if c = 'T' ∨ c = 't' ∨ c = ' ' then time? s else none
  | [] => none

/-- Takes a date, a time or both, if the text starts with one. -/
def moment? (s : Text) : Except Fault (Option (Moment × Text)) :=
  match date? s with
  | some (d, rest) =>
      if isCalendarDate d then
        match timeAfterDate? rest with
        | some (t, rest) =>
            let (offset, rest) := offset rest
            .ok (some (.dateTime d t offset, rest))
        | none => .ok (some (.date d, rest))
      else refuse
  | none => .ok ((time? s).map fun r => (.time r.1, r.2))

end SolidityLint.Toml
