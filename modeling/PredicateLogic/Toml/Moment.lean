/-!
# Dates and times in TOML

A moment is a date, a time, or a date with a time and possibly an offset from
universal time. Only the form of moments and the ranges of their parts matter
here, not their values. The readers return the text behind what they read.
-/

namespace PredicateLogic.Toml

/-- Reads a number of exactly two digits. -/
def twoDigits? : List Char → Option (Nat × List Char)
  | a :: b :: cs =>
    if a.isDigit && b.isDigit then
      some (10 * (a.toNat - 0x30) + (b.toNat - 0x30), cs)
    else none
  | _ => none

/-- Reads a given character. -/
def mark? (mark : Char) : List Char → Option (List Char)
  | [] => none
  | c :: cs => if c == mark then some cs else none

/-- The number of days of a month. -/
def daysInMonth (year month : Nat) : Nat :=
  if month == 2 then
    if year % 4 == 0 && (year % 100 != 0 || year % 400 == 0) then 29 else 28
  else if month ∈ [4, 6, 9, 11] then 30
  else 31

/-- Reads a date. -/
def date? (cs : List Char) : Option (List Char) := do
  let (century, cs) ← twoDigits? cs
  let (year, cs) ← twoDigits? cs
  let (month, cs) ← twoDigits? (← mark? '-' cs)
  let (day, cs) ← twoDigits? (← mark? '-' cs)
  if 1 ≤ month && month ≤ 12 && 1 ≤ day &&
      day ≤ daysInMonth (100 * century + year) month then
    some cs
  else none

/-- Reads hours and minutes. -/
def hourAndMinute? (cs : List Char) : Option (List Char) := do
  let (hour, cs) ← twoDigits? cs
  let (minute, cs) ← twoDigits? (← mark? ':' cs)
  if hour ≤ 23 && minute ≤ 59 then some cs else none

/-- Reads the fraction of a second, if there is one. -/
def fraction? : List Char → Option (List Char)
  | '.' :: cs =>
    if (cs.head?).any Char.isDigit then some (cs.dropWhile Char.isDigit)
    else none
  | cs => some cs

/-- Reads a time. The second may be 60, for a leap second. -/
def time? (cs : List Char) : Option (List Char) := do
  let cs ← hourAndMinute? cs
  let (second, cs) ← twoDigits? (← mark? ':' cs)
  if second ≤ 60 then fraction? cs else none

/-- Reads an offset from universal time, if there is one. -/
def offset? : List Char → Option (List Char)
  | [] => some []
  | c :: cs =>
    if c == 'Z' || c == 'z' then some cs
    else if c == '+' || c == '-' then hourAndMinute? cs
    else some (c :: cs)

/-- Whether a text is a time, possibly with an offset. -/
def isClock (cs : List Char) : Bool :=
  (time? cs >>= offset?) == some []

/-- Whether a text is a date alone. -/
def isDate (cs : List Char) : Bool :=
  date? cs == some []

/-- Whether a text is a time, or a date joined to a time by a letter. -/
def isMoment (cs : List Char) : Bool :=
  time? cs == some [] ||
    match date? cs with
    | some (c :: clock) => (c == 'T' || c == 't') && isClock clock
    | _ => false

end PredicateLogic.Toml
