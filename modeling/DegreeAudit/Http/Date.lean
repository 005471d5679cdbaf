/-!
# Dates of cookies

A date is read from its parts in whatever order they come: a time with two colons, a day, a month by
its first three letters, and a year. Everything else in it is passed over. It is an instant, counted
in seconds from the beginning of 1970.
-/

namespace DegreeAudit.Http

abbrev Instant := Int

namespace Date

def isDelimiter (c : Char) : Bool :=
  let n := c.toNat
  n == 0x09 || (0x20 ≤ n && n ≤ 0x2F) || (0x3B ≤ n && n ≤ 0x40) || (0x5B ≤ n && n ≤ 0x60) ||
    (0x7B ≤ n && n ≤ 0x7E)

/-- The number at the front of a text, if it has from so many to so many digits, and the rest. -/
def number? (least most : Nat) (s : List Char) : Option (Nat × List Char) :=
  let digits := s.takeWhile Char.isDigit
  if digits.length < least ∨ most < digits.length then none
  else
    some (digits.foldl (fun n c => 10 * n + (c.toNat - '0'.toNat)) 0, s.dropWhile Char.isDigit)

def time? (s : List Char) : Option (Nat × Nat × Nat) :=
  (number? 1 2 s).bind fun (hours, s) =>
  (if s.head? = some ':' then number? 1 2 s.tail else none).bind fun (minutes, s) =>
  (if s.head? = some ':' then number? 1 2 s.tail else none).map fun (seconds, _) =>
  (hours, minutes, seconds)

def months : List String :=
  ["jan", "feb", "mar", "apr", "may", "jun", "jul", "aug", "sep", "oct", "nov", "dec"]

/-- The month that a text names, counted from one. -/
def month? (s : List Char) : Option Nat :=
  (months.findIdx? (· == (String.ofList (s.take 3)).toLower)).map (· + 1)

/-- The parts of a date that have been found. -/
structure Parts where
  time : Option (Nat × Nat × Nat)
  day : Option Nat
  month : Option Nat
  year : Option Nat

/-- What a piece of text adds: the first kind that is still missing and that it can be. -/
def Parts.add (p : Parts) (s : List Char) : Parts :=
  match p.time, time? s with
  | none, some time => { p with time := some time }
  | _, _ =>
    match p.day, number? 1 2 s with
    | none, some (day, _) => { p with day := some day }
    | _, _ =>
      match p.month, month? s with
      | none, some month => { p with month := some month }
      | _, _ =>
        match p.year, number? 2 4 s with
        | none, some (year, _) => { p with year := some year }
        | _, _ => p

/-- A year of two digits lies between 1970 and 2069. -/
def fullYear (year : Nat) : Nat :=
  if year < 70 then year + 2000 else if year < 100 then year + 1900 else year

def isLeap (year : Nat) : Bool := year % 4 == 0 && (year % 100 != 0 || year % 400 == 0)

def daysIn (year month : Nat) : Nat :=
  if month = 2 then (if isLeap year then 29 else 28)
  else if [4, 6, 9, 11].contains month then 30 else 31

/-- How many days lie before a year, counted from the year one. -/
def daysBefore (year : Nat) : Nat :=
  365 * (year - 1) + (year - 1) / 4 - (year - 1) / 100 + (year - 1) / 400

def instant (year month day hours minutes seconds : Nat) : Instant :=
  let inMonths := (List.range (month - 1)).foldl (fun days m => days + daysIn year (m + 1)) 0
  let days := daysBefore year + inMonths + (day - 1)
  ((days : Int) - (daysBefore 1970 : Int)) * 86400 + (hours * 3600 + minutes * 60 + seconds : Nat)

/-- The instant that parts make up, if none is missing and there is such a day and time. -/
def Parts.instant? (p : Parts) : Option Instant :=
  match p with
  | ⟨some (hours, minutes, seconds), some day, some month, some year⟩ =>
    let year := fullYear year
    if day < 1 ∨ daysIn year month < day ∨ year < 1601 ∨ 23 < hours ∨ 59 < minutes ∨
        59 < seconds then
      none
    else some (instant year month day hours minutes seconds)
  | _ => none

def read? (text : String) : Option Instant :=
  ((text.toList.splitOnP isDelimiter).foldl Parts.add ⟨none, none, none, none⟩).instant?

end Date

end DegreeAudit.Http
