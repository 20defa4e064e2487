import MachineArgs.Text.Numeral

/-!
# Dates and times

A date is `1979-05-27`, a time of day `07:32`, with seconds `07:32:10` and with parts of a second
`07:32:10.5`. Both together are joined by `T` or a blank, and then an offset may follow: `Z` or
hours and minutes such as `-07:00`. Only whether text is one of these matters here: the days are
those of the month, a minute may have a leap second, and an offset is less than a day.
-/

namespace MachineArgs.Toml.Moment

/-- The number that exactly `count` digits stand for. -/
def readFixed (count : Nat) (cs : List Char) : Option Nat :=
  if cs.length = count then Text.readDigits cs else none

/-- Whether a year has a leap day. -/
def isLeapYear (year : Nat) : Bool :=
  year % 4 == 0 && (year % 100 != 0 || year % 400 == 0)

/-- The number of days of a month, or zero if there is no such month. -/
def daysOf (year month : Nat) : Nat :=
  if month = 2 then if isLeapYear year then 29 else 28
  else if month = 4 || month = 6 || month = 9 || month = 11 then 30
  else if 1 ≤ month && month ≤ 12 then 31
  else 0

/-- Whether text is a date. -/
def isDate (cs : List Char) : Bool :=
  match cs.splitOn '-' with
  | [year, month, day] =>
    match readFixed 4 year, readFixed 2 month, readFixed 2 day with
    | some year, some month, some day => 1 ≤ day && day ≤ daysOf year month
    | _, _, _ => false
  | _ => false

/-- Whether text is the hours and minutes of a day. -/
def isHourMinute (hour minute : List Char) : Bool :=
  match readFixed 2 hour, readFixed 2 minute with
  | some hour, some minute => hour ≤ 23 && minute ≤ 59
  | _, _ => false

/-- Whether text is seconds, with or without parts of a second. -/
def isSecond (cs : List Char) : Bool :=
  let isWhole (second : List Char) : Bool :=
    match readFixed 2 second with
    | some second => second ≤ 60
    | none => false
  match cs.splitOn '.' with
  | [second] => isWhole second
  | [second, part] => isWhole second && (Text.readDigits part).isSome
  | _ => false

/-- Whether text is a time of day. -/
def isTime (cs : List Char) : Bool :=
  match cs.splitOn ':' with
  | [hour, minute] => isHourMinute hour minute
  | [hour, minute, second] => isHourMinute hour minute && isSecond second
  | _ => false

/-- Whether text is the hours and minutes of an offset. -/
def isShift (cs : List Char) : Bool :=
  match cs.splitOn ':' with
  | [hours, minutes] => isHourMinute hours minutes
  | _ => false

/-- Whether a character starts an offset. -/
def startsOffset (c : Char) : Bool :=
  c == 'Z' || c == 'z' || c == '+' || c == '-'

/-- Whether text is an offset or nothing. -/
def isOffset : List Char → Bool
  | [] => true
  | c :: cs => if c == 'Z' || c == 'z' then cs.isEmpty else startsOffset c && isShift cs

/-- Whether text is a time of day with an offset or without. -/
def isZonedTime (cs : List Char) : Bool :=
  isTime (cs.takeWhile fun c ↦ !startsOffset c) &&
    isOffset (cs.dropWhile fun c ↦ !startsOffset c)

/-- The number of characters of a date. -/
def dateLength : Nat :=
  10

/-- Whether a character joins a date and a time. -/
def isJoint (c : Char) : Bool :=
  c == 'T' || c == 't' || c == ' '

/-- Whether text is a date, a time of day, or both. -/
def isMoment (cs : List Char) : Bool :=
  isTime cs || isDate cs ||
    match cs.drop dateLength with
    | joint :: time => isDate (cs.take dateLength) && isJoint joint && isZonedTime time
    | [] => false

end MachineArgs.Toml.Moment
