import Boilerplate.Toml.Digits

/-!
# Dates and times in TOML

A moment is a date, a time of day, or a date and a time with a separator between them; only then
an offset from universal time may follow. All numbers have to be in range, which for the day
depends on the month and the year. A minute may have a leap second, in whichever minute of the
day.

## Main definitions

* `Toml.Moment.isDate` — whether a word is a date
* `Toml.Moment.time?` — reads a time of day off the front of a word
* `Toml.Moment.isMoment` — whether a word is a date, a time, or both
-/

namespace Boilerplate.Toml.Moment

open Digits (number?)

/-- Whether characters are digits of a number between two bounds. -/
def within (cs : List Char) (low high : Nat) : Bool :=
  match number? 10 cs with
  | none => false
  | some n => low ≤ n && n ≤ high

/-- Whether a year has a leap day. -/
def isLeap (year : Nat) : Bool := year % 4 == 0 && (year % 100 != 0 || year % 400 == 0)

/-- The number of days of a month. -/
def daysIn (year month : Nat) : Nat :=
  if month == 2 then (if isLeap year then 29 else 28)
  else if month == 4 || month == 6 || month == 9 || month == 11 then 30
  else 31

/-- Whether a word is a date: four digits for the year, two for the month and two for the day. -/
def isDate : List Char → Bool
  | [y1, y2, y3, y4, '-', m1, m2, '-', d1, d2] =>
    match number? 10 [y1, y2, y3, y4], number? 10 [m1, m2] with
    | some year, some month =>
      1 ≤ month && month ≤ 12 && within [d1, d2] 1 (daysIn year month)
    | _, _ => false
  | _ => false

/-- Reads an optional fraction of a second, which has at least one digit, and returns what
follows. -/
def afterFraction : List Char → Option (List Char)
  | '.' :: cs =>
    match cs.takeWhile Char.isDigit with
    | [] => none
    | _ => some (cs.dropWhile Char.isDigit)
  | cs => some cs

/-- Reads a time of day with its seconds, and returns what follows. -/
def time? : List Char → Option (List Char)
  | h1 :: h2 :: ':' :: m1 :: m2 :: ':' :: s1 :: s2 :: rest =>
    if within [h1, h2] 0 23 && within [m1, m2] 0 59 && within [s1, s2] 0 60 then afterFraction rest
    else none
  | _ => none

/-- Whether a word is an offset from universal time. -/
def isOffset : List Char → Bool
  | ['Z'] => true
  | ['z'] => true
  | [sign, h1, h2, ':', m1, m2] =>
    (sign == '+' || sign == '-') && within [h1, h2] 0 23 && within [m1, m2] 0 59
  | _ => false

/-- Whether a character separates a date from a time. -/
def isSeparator (c : Char) : Bool := c == 'T' || c == 't' || c == ' '

/-- Whether a word is a date, a time of day, or both with an optional offset. -/
def isMoment (cs : List Char) : Bool :=
  time? cs == some [] ||
    isDate (cs.take 10) &&
      match cs.drop 10 with
      | [] => true
      | separator :: rest =>
        isSeparator separator &&
          match time? rest with
          | none => false
          | some offset => offset.isEmpty || isOffset offset

end Boilerplate.Toml.Moment
