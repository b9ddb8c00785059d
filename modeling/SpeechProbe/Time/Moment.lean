import SpeechProbe.Number.Decimal
import SpeechProbe.Text.Blank

/-!
# Moments

Points in time by the Gregorian calendar, in universal time.  Their text is a date and
a time with `Z`; a text with another offset is read as the moment it stands for.
-/

namespace SpeechProbe

/-- A day of the calendar. -/
structure Day where
  year : Int
  /-- From 1 to 12. -/
  month : Nat
  /-- From 1 to the length of the month. -/
  day : Nat
  deriving DecidableEq, Repr, Inhabited

namespace Day

/-- Every fourth year, save the full centuries not divisible by four hundred. -/
def isLeapYear (year : Int) : Bool :=
  year % 4 = 0 && (year % 100 ≠ 0 || year % 400 = 0)

/-- The number of days of a month. -/
def monthLength (year : Int) (month : Nat) : Nat :=
  if month = 2 then if isLeapYear year then 29 else 28
  else if month = 4 ∨ month = 6 ∨ month = 9 ∨ month = 11 then 30
  else 31

/-- The first and the last year that a day may have. -/
def firstYear : Int := -262143
def lastYear : Int := 262142

/-- The day of a year, month and day, if there is one. -/
def of? (year : Int) (month day : Nat) : Option Day :=
  if firstYear ≤ year ∧ year ≤ lastYear ∧ 1 ≤ month ∧ month ≤ 12 ∧
      1 ≤ day ∧ day ≤ monthLength year month then
    some ⟨year, month, day⟩
  else none

def next? (d : Day) : Option Day :=
  if d.day < monthLength d.year d.month then some { d with day := d.day + 1 }
  else if d.month < 12 then some ⟨d.year, d.month + 1, 1⟩
  else of? (d.year + 1) 1 1

def previous? (d : Day) : Option Day :=
  if 1 < d.day then some { d with day := d.day - 1 }
  else if 1 < d.month then some ⟨d.year, d.month - 1, monthLength d.year (d.month - 1)⟩
  else of? (d.year - 1) 12 31

end Day

/-- A point in time. -/
structure Moment where
  date : Day
  hour : Nat
  minute : Nat
  /-- Up to 60, for a leap second. -/
  second : Nat
  /-- Billionths of a second. -/
  fraction : Nat
  deriving DecidableEq, Repr, Inhabited

namespace Moment

def minutesPerDay : Int := 1440

/-- The moment as a clock shows it that is a number of minutes behind. -/
def back? (m : Moment) (minutes : Int) : Option Moment := do
  let total : Int := (m.hour * 60 + m.minute : Nat) - minutes
  let date ←
    if total < 0 then m.date.previous?
    else if minutesPerDay ≤ total then m.date.next?
    else some m.date
  let inDay := (total % minutesPerDay).toNat
  return { m with date := date, hour := inDay / 60, minute := inDay % 60 }

/-! ## Writing -/

/-- A number with at least so many digits. -/
def padded (width n : Nat) : List Char :=
  let digits := Decimal.digits n
  List.replicate (width - digits.length) '0' ++ digits

/-- A year of four digits, or a signed one outside the years from 0 to 9999. -/
def yearChars (year : Int) : List Char :=
  if 0 ≤ year ∧ year ≤ 9999 then padded 4 year.toNat
  else (if year < 0 then '-' else '+') :: padded 4 year.natAbs

/-- A fraction of a second with three, six or nine places, or none for a whole one. -/
def fractionChars (billionths : Nat) : List Char :=
  if billionths = 0 then []
  else if billionths % 1000000 = 0 then '.' :: padded 3 (billionths / 1000000)
  else if billionths % 1000 = 0 then '.' :: padded 6 (billionths / 1000)
  else '.' :: padded 9 billionths

/-- The text of a moment: `2024-01-02T03:04:05Z`. -/
def text (m : Moment) : String :=
  String.ofList <|
    yearChars m.date.year ++ '-' :: padded 2 m.date.month ++ '-' :: padded 2 m.date.day ++
    'T' :: padded 2 m.hour ++ ':' :: padded 2 m.minute ++ ':' :: padded 2 m.second ++
    fractionChars m.fraction ++ ['Z']

/-! ## Reading

Blanks may stand before every part. -/

def skipBlanks (chars : List Char) : List Char := chars.dropWhile Text.isBlank

/-- A number at the front with one digit at least and `width` at most. -/
def number? (width : Nat) (chars : List Char) : Option (Nat × List Char) :=
  let run := (chars.take width).takeWhile Char.isDigit
  if run.isEmpty then none else some (Decimal.ofDigits run, chars.drop run.length)

/-- A number of at most two digits after blanks. -/
def part? (chars : List Char) : Option (Nat × List Char) := number? 2 (skipBlanks chars)

/-- A given character after blanks. -/
def mark? (c : Char) (chars : List Char) : Option (List Char) :=
  match skipBlanks chars with
  | d :: rest => if c = d then some rest else none
  | [] => none

/-- A year: at most four digits, or a sign and any number of them. -/
def year? (chars : List Char) : Option (Int × List Char) :=
  match skipBlanks chars with
  | '-' :: rest => (number? rest.length rest).map fun (n, left) => (-(n : Int), left)
  | '+' :: rest => (number? rest.length rest).map fun (n, left) => ((n : Int), left)
  | rest => (number? 4 rest).map fun (n, left) => ((n : Int), left)

/-- The billionths of a second at the front; from the tenth place on digits do not
count. -/
def fraction? : List Char → Option (Nat × List Char)
  | '.' :: rest =>
    let (run, left) := Decimal.spanDigits rest
    let places := run.take 9
    if run.isEmpty then none
    else some (Decimal.ofDigits (places ++ List.replicate (9 - places.length) '0'), left)
  | rest => some (0, rest)

/-- The sign of an offset; the minus sign may be the typographic one. -/
def offsetSign? (c : Char) : Option Int :=
  if c = '+' then some 1
  else if c = '-' ∨ c = '\u2212' then some (-1)
  else none

/-- Two digits at the front. -/
def twoDigits? : List Char → Option (Nat × List Char)
  | a :: b :: rest =>
    if a.isDigit ∧ b.isDigit then
      some (10 * Decimal.digitValue a + Decimal.digitValue b, rest)
    else none
  | _ => none

/-- The offset from universal time at the front, in minutes: `Z`, `UTC`, or hours and
minutes with a sign. -/
def offset? (chars : List Char) : Option (Int × List Char) :=
  match chars with
  | [] => none
  | c :: rest =>
    if c = 'Z' ∨ c = 'z' then some (0, rest)
    else if (chars.take 3).map Char.toUpper = ['U', 'T', 'C'] then some (0, chars.drop 3)
    else do
      let sign ← offsetSign? c
      let (hours, rest) ← twoDigits? rest
      let (minutes, rest) ← twoDigits? (rest.dropWhile fun c => c == ':' || Text.isBlank c)
      if hours < 24 ∧ minutes < 60 then some (sign * (60 * hours + minutes : Nat), rest) else none

/-- The moment of a text: a date, one `T` or blank, a time and an offset. -/
def read? (text : String) : Option Moment := do
  let (year, rest) ← year? text.toList
  let (month, rest) ← part? (← mark? '-' rest)
  let (day, rest) ← part? (← mark? '-' rest)
  let date ← Day.of? year month day
  let rest ← match rest with
    | c :: rest => if c = 'T' ∨ c = 't' ∨ c = ' ' then some rest else none
    | [] => none
  let (hour, rest) ← part? rest
  let (minute, rest) ← part? (← mark? ':' rest)
  let (second, rest) ← part? (← mark? ':' rest)
  let (fraction, rest) ← fraction? rest
  let (offset, rest) ← offset? (skipBlanks rest)
  if hour < 24 ∧ minute < 60 ∧ second ≤ 60 ∧ (skipBlanks rest).isEmpty then
    back? ⟨date, hour, minute, second, fraction⟩ offset
  else none

end Moment
end SpeechProbe
