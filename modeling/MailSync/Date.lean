import MailSync.Text.Number

/-!
# Dates

The Gregorian calendar, the date header of a message, and the text of an
instant. Instants are whole seconds counted from 1970-01-01T00:00:00Z.
-/

namespace MailSync

namespace Calendar

def isLeap (year : Nat) : Bool := year % 4 = 0 && (year % 100 ≠ 0 || year % 400 = 0)

/-- The number of days in a month, months being counted from 0. -/
def daysInMonth (year month : Nat) : Nat :=
  match month with
  | 1 => if isLeap year then 29 else 28
  | 3 | 5 | 8 | 10 => 30
  | _ => 31

/-- The days from 0001-01-01 to the first day of a year. -/
def daysBeforeYear (year : Nat) : Nat :=
  let y := year - 1
  365 * y + y / 4 - y / 100 + y / 400

/-- The days from the first day of a year to the first day of a month. -/
def daysBeforeMonth (year month : Nat) : Nat :=
  (List.range month).foldr (daysInMonth year · + ·) 0

/-- The year and the day of the year, from 0, of a day counted from 0001-01-01. -/
def yearOfDays (days : Nat) : Nat × Nat :=
  let quads := days / 146097
  let r := days % 146097
  let centuries := min (r / 36524) 3
  let r := r - centuries * 36524
  let fours := r / 1461
  let r := r % 1461
  let ones := min (r / 365) 3
  (400 * quads + 100 * centuries + 4 * fours + ones + 1, r - ones * 365)

/-- The month and the day of the month, both from 0, of a day of the year;
`left` months come after `month`. -/
def monthOfDay (year : Nat) : (left month day : Nat) → Nat × Nat
  | 0, month, day => (month, day)
  | left + 1, month, day =>
    if day < daysInMonth year month then (month, day)
    else monthOfDay year left (month + 1) (day - daysInMonth year month)

end Calendar

/-- Seconds since the beginning of 1970 in universal time. -/
abbrev Instant := Int

namespace Instant

/-- A number with zeros in front, `width` digits at least. -/
def padded (width n : Nat) : String :=
  let digits := toString n
  String.ofList (List.replicate (width - digits.length) '0') ++ digits

/-- The day counted from 0001-01-01, and the second of that day. -/
def split (t : Instant) : Nat × Nat :=
  ((Calendar.daysBeforeYear 1970 + t.fdiv 86400).toNat, (t.fmod 86400).toNat)

/-- A year of five digits or more is written with a plus sign. -/
def yearText (year : Nat) : String :=
  if year ≤ 9999 then padded 4 year else "+" ++ toString year

/-- Date and time in universal time, as in `2024-02-29T23:59:59Z`. -/
def text (t : Instant) : String :=
  let (days, second) := t.split
  let (year, dayOfYear) := Calendar.yearOfDays days
  let (month, day) := Calendar.monthOfDay year 11 0 dayOfYear
  yearText year ++ "-" ++ padded 2 (month + 1) ++ "-" ++ padded 2 (day + 1) ++ "T" ++
    padded 2 (second / 3600) ++ ":" ++ padded 2 (second / 60 % 60) ++ ":" ++
    padded 2 (second % 60) ++ "Z"

/-- The last second of the year 262142, the last year a date can have. -/
def latest : Instant := (Calendar.daysBeforeYear 262143 - Calendar.daysBeforeYear 1970) * 86400 - 1

end Instant

namespace MailDate

/-- The runs between spaces and colons. -/
def tokens (value : String) : List String :=
  ((value.toList.splitBy fun a b => isSeparator a = isSeparator b).filter
    fun run => run.head?.any (!isSeparator ·)).map String.ofList
where isSeparator (c : Char) : Bool := c = ' ' || c = ':'

/-- Upper-cases the characters whose upper-case form is made of the letters `A`–`Z`. -/
def upperLetters (s : String) : String :=
  String.ofList (s.toList.flatMap fun c =>
    match c with
    | 'ı' => ['I']
    | 'ſ' => ['S']
    | 'ß' => ['S', 'S']
    | 'ﬀ' => ['F', 'F']
    | 'ﬁ' => ['F', 'I']
    | 'ﬂ' => ['F', 'L']
    | 'ﬃ' => ['F', 'F', 'I']
    | 'ﬄ' => ['F', 'F', 'L']
    | 'ﬅ' | 'ﬆ' => ['S', 'T']
    | c => [c.toUpper])

/-- The month of a name, from 0. -/
def month? (name : String) : Option Nat :=
  match upperLetters name with
  | "JAN" | "JANUARY" => some 0
  | "FEB" | "FEBRUARY" => some 1
  | "MAR" | "MARCH" => some 2
  | "APR" | "APRIL" => some 3
  | "MAY" => some 4
  | "JUN" | "JUNE" => some 5
  | "JUL" | "JULY" => some 6
  | "AUG" | "AUGUST" => some 7
  | "SEP" | "SEPTEMBER" => some 8
  | "OCT" | "OCTOBER" => some 9
  | "NOV" | "NOVEMBER" => some 10
  | "DEC" | "DECEMBER" => some 11
  | _ => none

/-- The year meant by a number; two digits mean one from 1970 to 2069. -/
def year? (n : Nat) : Option Nat :=
  if n < 70 then some (2000 + n)
  else if n < 100 then some (1900 + n)
  else if n < 1970 then none
  else some n

/-- The offset of a named zone, as hours and minutes in four digits. -/
def namedZone? (name : String) : Option Int :=
  match upperLetters name with
  | "UTC" | "UT" | "GMT" | "Z" => some 0
  | "EDT" => some (-400)
  | "EST" | "CDT" => some (-500)
  | "CST" | "MDT" => some (-600)
  | "MST" | "PDT" => some (-700)
  | "PST" => some (-800)
  | "A" => some (-100)
  | "M" => some (-1200)
  | "N" => some 100
  | "Y" => some 1200
  | _ => none

/-- The seconds a zone is ahead of universal time. -/
def zone? (token : String) : Option Int := do
  let n ← match Number.integer (UInt32.size / 2) (UInt32.size / 2 - 1) token with
    | .ok n => if -2400 ≤ n ∧ n ≤ 2400 then some n else none
    | .error _ => namedZone? token
  return n.tdiv 100 * 3600 + n.tmod 100 * 60

/-- A number of at most 255. -/
def small? (token : String) : Option Nat := (Number.natural 255 token).toOption

/-- The seconds added by hour, minute, second and zone, of which the last may be missing. -/
def time? : List String → Option Int
  | [] => some 0
  | hour :: rest => do
    let h ← small? hour
    let h : Int := 3600 * h
    match rest with
    | [] => return h
    | minute :: rest =>
      let m ← small? minute
      let m : Int := 60 * m
      match rest with
      | [] => return h + m
      | second :: rest =>
        let s ← small? second
        match rest with
        | [] => return h + m + s
        | zone :: _ => return h + m + s - (← zone? zone)

/-- Reads a date header. What comes before the day of the month is passed
over, and a date that breaks off before its year is the beginning of 1970. -/
def parse? (value : String) : Option Instant :=
  match (tokens value).dropWhile (small? · |>.isNone) with
  | [] => some 0
  | day :: rest => do
    let d ← small? day
    guard (1 ≤ d ∧ d ≤ 31)
    match rest with
    | [] => return 0
    | month :: rest =>
      let m ← month? month
      match rest with
      | [] => return 0
      | year :: rest =>
        let y ← (Number.natural (UInt32.size - 1) year).toOption >>= year?
        let days : Int := Calendar.daysBeforeYear y - Calendar.daysBeforeYear 1970 +
          Calendar.daysBeforeMonth y m + (d - 1 : Nat)
        return days * 86400 + (← time? rest)

/-- The instant of a date header, as far as dates reach. -/
def instant? (value : String) : Option Instant :=
  (parse? value).filter (· ≤ Instant.latest)

end MailDate

end MailSync
