import DiagnosticRelay.Text.Digits
import DiagnosticRelay.Toml.Basic

/-!
# Dates and times of TOML

A moment is a date, a time of day, or a date and a time with an optional distance from universal
time. A date must exist in the Gregorian calendar, which is continued back to the year zero. A
minute may have a leap second.
-/

namespace DiagnosticRelay.Toml

/-- A number of two digits. -/
def twoDigits? : List Char → Option (Nat × List Char)
  | a :: b :: rest =>
    if Text.isDigit 10 a && Text.isDigit 10 b then some (Text.digitsValue 10 [a, b], rest)
    else none
  | _ => none

/-- A number of four digits. -/
def fourDigits? (cs : List Char) : Option (Nat × List Char) :=
  match twoDigits? cs with
  | none => none
  | some (high, rest) => (twoDigits? rest).map fun (low, rest) => (high * 100 + low, rest)

/-- A character that has to be there, and what follows it. -/
def expect? (c : Char) : List Char → Option (List Char)
  | d :: rest => if d = c then some rest else none
  | [] => none

/-- Whether a year has a 29th of February. -/
def isLeapYear (year : Nat) : Bool :=
  year % 4 == 0 && (year % 100 != 0 || year % 400 == 0)

/-- How many days a month has; a number that is no month has none. -/
def daysIn (year month : Nat) : Nat :=
  if month = 2 then if isLeapYear year then 29 else 28
  else if month = 4 ∨ month = 6 ∨ month = 9 ∨ month = 11 then 30
  else if 1 ≤ month ∧ month ≤ 12 then 31
  else 0

/-- What follows a date, `year-month-day`. -/
def date? (cs : List Char) : Option (List Char) := do
  let (year, cs) ← fourDigits? cs
  let cs ← expect? '-' cs
  let (month, cs) ← twoDigits? cs
  let cs ← expect? '-' cs
  let (day, cs) ← twoDigits? cs
  if 1 ≤ day ∧ day ≤ daysIn year month then some cs else none

/-- What follows a fraction of a second, which may be left out. -/
def secondFraction? : List Char → Option (List Char)
  | '.' :: c :: rest =>
    if Text.isDigit 10 c then some (rest.dropWhile (Text.isDigit 10)) else none
  | '.' :: [] => none
  | cs => some cs

/-- What follows a time of day, `hour:minute:second`. -/
def time? (cs : List Char) : Option (List Char) := do
  let (hour, cs) ← twoDigits? cs
  let cs ← expect? ':' cs
  let (minute, cs) ← twoDigits? cs
  let cs ← expect? ':' cs
  let (second, cs) ← twoDigits? cs
  if hour ≤ 23 ∧ minute ≤ 59 ∧ second ≤ 60 then secondFraction? cs else none

/-- What follows a distance from universal time in hours and minutes, after its sign. -/
def distance? (cs : List Char) : Option (List Char) := do
  let (hour, cs) ← twoDigits? cs
  let cs ← expect? ':' cs
  let (minute, cs) ← twoDigits? cs
  if hour ≤ 23 ∧ minute ≤ 59 then some cs else none

/-- What follows a distance from universal time, which may be left out. -/
def zone? : List Char → Option (List Char)
  | 'Z' :: rest => some rest
  | 'z' :: rest => some rest
  | '+' :: rest => distance? rest
  | '-' :: rest => distance? rest
  | cs => some cs

/-- What follows the time after a date. A blank or a letter without a time after it is not part of
the moment. -/
def timeOfDate? : List Char → Option (List Char)
  | c :: rest =>
    if c == 'T' || c == 't' || c == ' ' then
      match time? rest with
      | some rest => zone? rest
      | none => some (c :: rest)
    else some (c :: rest)
  | [] => some []

/-- What follows a moment. -/
def moment? (cs : List Char) : Option (Toml × List Char) :=
  match date? cs with
  | some rest => (timeOfDate? rest).map (.moment, ·)
  | none => (time? cs).map (.moment, ·)

end DiagnosticRelay.Toml
