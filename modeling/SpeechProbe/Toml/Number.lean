import SpeechProbe.Number.Decimal
import SpeechProbe.Settings.Tree
import SpeechProbe.Toml.Token

/-!
# Numbers of TOML

Digits may be grouped by single underscores between them.  Decimal numbers have no
leading zeros; floats are finite unless they are written as `inf` or `nan`.
-/

namespace SpeechProbe.Toml

/-- Whether a character is a digit of a number system. -/
def isDigitOf (radix : Nat) (c : Char) : Bool :=
  match hexValue? c with
  | some d => d < radix
  | none => false

/-- A run of digits after its first `first` characters: the run without underscores,
and the rest.  `leadingZero` says that the run began with a zero and must stay one
digit long; `underscore` that the last character was one. -/
def digitsFrom (radix : Nat) (first leadingZero underscore : Bool) :
    List Char → Option (List Char × List Char)
  | [] => if first || underscore then none else some ([], [])
  | c :: rest =>
    if isDigitOf radix c then
      if leadingZero && !first then none
      else
        (digitsFrom radix false (leadingZero && first && c == '0') false rest).map
          fun (run, left) => (c :: run, left)
    else if c = '_' then
      if first || underscore then none
      else digitsFrom radix false leadingZero true rest
    else if first || underscore then none
    else some ([], c :: rest)

/-- A run of decimal digits at the front; `zeros` says whether it may begin with
zeros. -/
def decimalRun (zeros : Bool) (chars : List Char) : Option (List Char × List Char) :=
  digitsFrom 10 true (!zeros) false chars

/-- A sign at the front. -/
def takeSign : List Char → Bool × List Char
  | '-' :: rest => (true, rest)
  | chars => (false, chars)

/-- The number that digits of a number system stand for. -/
def numberOf (radix : Nat) (digits : List Char) : Nat :=
  digits.foldl (fun n c => radix * n + (hexValue? c).getD 0) 0

/-- An integer that fits a signed word. -/
def wordInteger (negative : Bool) (size : Nat) : Option Tree :=
  if negative then
    if size ≤ 9223372036854775808 then some (.int (-(size : Int))) else none
  else if size < 9223372036854775808 then some (.int size) else none

/-- An integer of another number system than the decimal. -/
def radixInteger (radix : Nat) (chars : List Char) : Option Tree :=
  match digitsFrom radix true false false chars with
  | some (run, []) => wordInteger false (numberOf radix run)
  | _ => none

/-- A decimal integer. -/
def decimalInteger (chars : List Char) : Option Tree :=
  let (negative, digits) := takeSign chars
  match decimalRun false digits with
  | some (run, []) => wordInteger negative (numberOf 10 run)
  | _ => none

/-- A finite float of the given parts. -/
def finiteFloat (negative : Bool) (numeral : Decimal.Numeral) : Option Tree :=
  let x := (Decimal.Reading.finite negative numeral).toDouble
  if x.isFinite then some (.real x) else none

/-- An exponent that is a whole word, with its sign if it may have one. -/
def exponentRun (signed : Bool) (chars : List Char) : Option (Bool × List Char) :=
  let (negative, digits) := if signed then takeSign chars else (false, chars)
  match decimalRun true digits with
  | some (run, []) => some (negative, run)
  | _ => none

/-- The end of a float: nothing, or an exponent.  An exponent with a plus sign takes
two more tokens. -/
def floatEnd (negative : Bool) (whole fraction suffix : List Char) (rest : List Token) :
    Option (Tree × List Token) :=
  let finish (exponent : Option (Bool × List Char)) (rest : List Token) :
      Option (Tree × List Token) := do
    let (minus, run) ← exponent
    return (← finiteFloat negative ⟨whole, fraction, minus, run⟩, rest)
  match suffix with
  | [] => finish (some (false, [])) rest
  | e :: more =>
    if e = 'e' ∨ e = 'E' then
      match more, rest with
      | [], .mark '+' :: .word digits :: rest => finish (exponentRun false digits) rest
      | [], .word digits :: rest => finish (exponentRun false digits) rest
      | [], _ => none
      | more, rest => finish (exponentRun true more) rest
    else none

/-- A float whose part before the point is a word; `fraction` is the word after the
point. -/
def float (chars : List Char) (fraction : Option (List Char)) (rest : List Token) :
    Option (Tree × List Token) := do
  let (negative, digits) := takeSign chars
  let (whole, suffix) ← decimalRun false digits
  match fraction with
  | none => floatEnd negative whole [] suffix rest
  | some after =>
    if suffix.isEmpty then
      let (fraction, suffix) ← decimalRun true after
      floatEnd negative whole fraction suffix rest
    else none

/-- A number that begins with a word. -/
def number (chars : List Char) (rest : List Token) : Option (Tree × List Token) :=
  match chars with
  | '0' :: 'x' :: digits => (radixInteger 16 digits).map (·, rest)
  | '0' :: 'o' :: digits => (radixInteger 8 digits).map (·, rest)
  | '0' :: 'b' :: digits => (radixInteger 2 digits).map (·, rest)
  | _ =>
    if chars.contains 'e' || chars.contains 'E' then float chars none rest
    else
      match rest with
      | .mark '.' :: .word after :: rest => float chars (some after) rest
      | .mark '.' :: _ => none
      | _ =>
        match String.ofList chars with
        | "inf" => some (.real Double.infinity, rest)
        | "-inf" => some (.real Double.infinity.neg, rest)
        | "nan" | "-nan" => some (.real Double.nan, rest)
        | _ => (decimalInteger chars).map (·, rest)

end SpeechProbe.Toml
