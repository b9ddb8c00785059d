import SpeechProbe.Number.Decimal

/-!
# Dates of TOML

A settings file may hold dates and times.  They are kept as text: the parts as
written, a `T` before the time, a fraction without zeros at its end, and `Z` or
`+hh:mm` for the zone.
-/

namespace SpeechProbe.Toml.Date

/-- Two digits at the front with their number. -/
def two : List Char → Option (Nat × List Char)
  | a :: b :: rest =>
    if a.isDigit ∧ b.isDigit then
      some (10 * Decimal.digitValue a + Decimal.digitValue b, rest)
    else none
  | _ => none

/-- A given character at the front. -/
def skip (c : Char) : List Char → Option (List Char)
  | d :: rest => if c = d then some rest else none
  | [] => none

/-- A number below a hundred with two digits. -/
def pad (n : Nat) : List Char := [Decimal.digitChar (n / 10), Decimal.digitChar (n % 10)]

/-- `yyyy-mm-dd` at the front. -/
def day (chars : List Char) : Option (List Char × List Char) := do
  let (century, rest) ← two chars
  let (year, rest) ← two rest
  let (month, rest) ← two (← skip '-' rest)
  let (day, rest) ← two (← skip '-' rest)
  if 1 ≤ month ∧ month ≤ 12 ∧ 1 ≤ day ∧ day ≤ 31 then
    some (pad century ++ pad year ++ '-' :: pad month ++ '-' :: pad day, rest)
  else none

/-- The fraction of a second at the front.  Nine places count. -/
def fraction : List Char → Option (List Char × List Char)
  | '.' :: rest =>
    match Decimal.spanDigits rest with
    | ([], _) => none
    | (run, rest) =>
      match ((run.take 9).reverse.dropWhile (· == '0')).reverse with
      | [] => some ([], rest)
      | places => some ('.' :: places, rest)
  | rest => some ([], rest)

/-- `hh:mm:ss` with an optional fraction at the front. -/
def time (chars : List Char) : Option (List Char × List Char) := do
  let (hour, rest) ← two chars
  let (minute, rest) ← two (← skip ':' rest)
  let (second, rest) ← two (← skip ':' rest)
  let (places, rest) ← fraction rest
  if hour ≤ 24 ∧ minute ≤ 59 ∧ second ≤ 59 then
    some (pad hour ++ ':' :: pad minute ++ ':' :: pad second ++ places, rest)
  else none

/-- The zone at the end of a text. -/
def zone : List Char → Option (List Char)
  | [] => some []
  | [c] => if c = 'Z' ∨ c = 'z' then some ['Z'] else none
  | sign :: rest => do
    let (hours, rest) ← two rest
    let (minutes, rest) ← two (← skip ':' rest)
    if rest ≠ [] then none
    else if sign = '+' ∨ (sign = '-' ∧ hours = 0) then
      some ('+' :: pad hours ++ ':' :: pad minutes)
    else if sign = '-' then some ('-' :: pad hours ++ ':' :: pad minutes)
    else none

/-- Whether a text is a time without a day. -/
def isTimeOnly : List Char → Bool
  | _ :: _ :: c :: _ => c == ':'
  | _ => false

/-- The time at the front, if there is one, with the `T` before it. -/
def timeAfterDay : List Char → Option (List Char × List Char)
  | c :: rest =>
    if c = 'T' ∨ c = 't' ∨ c = ' ' then
      (time rest).map fun (text, rest) => ('T' :: text, rest)
    else some ([], c :: rest)
  | [] => some ([], [])

/-- The text of a day, a day with a time, or a time.  A zone may stand behind a day
with or without a time, but not behind a time alone. -/
def read? (chars : List Char) : Option String :=
  if isTimeOnly chars then
    match time chars with
    | some (text, []) => some (String.ofList text)
    | _ => none
  else do
    let (date, rest) ← day chars
    let (clock, rest) ← timeAfterDay rest
    return String.ofList (date ++ clock ++ (← zone rest))

end SpeechProbe.Toml.Date
