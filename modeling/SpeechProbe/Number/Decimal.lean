import SpeechProbe.Number.Binary

/-!
# Decimal numerals

Digits of natural numbers, exact decimals `mantissa * 10 ^ exponent`, and the
numerals that people and settings files write for floating point numbers.
-/

namespace SpeechProbe.Decimal

/-! ## Digits -/

/-- The character of a digit below ten. -/
def digitChar (d : Nat) : Char := Char.ofNat (48 + d)

/-- The value of a digit character. -/
def digitValue (c : Char) : Nat := c.toNat - 48

/-- The digits of a number, most significant first; zero has one. -/
def digits (n : Nat) : List Char :=
  if n < 10 then [digitChar n] else digits (n / 10) ++ [digitChar (n % 10)]
termination_by n
decreasing_by omega

/-- The number a run of digits stands for; an empty run stands for zero. -/
def ofDigits (chars : List Char) : Nat :=
  chars.foldl (fun n c => 10 * n + digitValue c) 0

/-- The decimal text of an integer. -/
def ofInt (i : Int) : List Char :=
  if i < 0 then '-' :: digits i.natAbs else digits i.natAbs

/-- The longest run of digits at the front, and what follows it. -/
def spanDigits : List Char → List Char × List Char
  | c :: rest =>
    if c.isDigit then
      let (run, after) := spanDigits rest
      (c :: run, after)
    else ([], c :: rest)
  | [] => ([], [])

/-! ## Exact decimals -/

/-- Ten to a power, on rationals. -/
def tenTo (exponent : Int) : Rat := (10 : Rat) ^ exponent

/-- How far a decimal's leading digit may lie from the point before it is out of
range of every floating point format in use. -/
def reach : Int := 420

/-- The pattern nearest to `mantissa * 10 ^ exponent`.  Numerals far out of range
are settled by the place of their leading digit, without computing the power. -/
def nearest (format : BinaryFormat) (mantissa : Nat) (exponent : Int) : Nat :=
  let leading := exponent + (digits mantissa).length
  if mantissa = 0 ∨ leading < -reach then 0
  else if reach < leading then format.infinity
  else format.magnitude ((mantissa : Rat) * tenTo exponent)

/-! ## Numerals -/

/-- An unsigned decimal numeral, by its parts. -/
structure Numeral where
  /-- The digits before the point. -/
  whole : List Char
  /-- The digits after the point. -/
  fraction : List Char
  /-- Whether the exponent is negative. -/
  exponentNegative : Bool
  /-- The digits of the exponent. -/
  exponentDigits : List Char
  deriving DecidableEq, Repr

namespace Numeral

/-- All digits before the exponent, as one number. -/
def mantissa (numeral : Numeral) : Nat :=
  ofDigits (numeral.whole ++ numeral.fraction)

/-- The exponent as written. -/
def writtenExponent (numeral : Numeral) : Int :=
  let size : Int := ofDigits numeral.exponentDigits
  if numeral.exponentNegative then -size else size

/-- The exponent of the mantissa's last digit. -/
def exponent (numeral : Numeral) : Int :=
  numeral.writtenExponent - numeral.fraction.length

end Numeral

/-- The exponent at the front of a text: a letter, an optional sign and at least
one digit.  Its sign, its digits and the rest. -/
def readExponent? : List Char → Option (Bool × List Char × List Char)
  | e :: rest =>
    if e = 'e' ∨ e = 'E' then
      let (negative, rest) := match rest with
        | '-' :: r => (true, r)
        | '+' :: r => (false, r)
        | r => (false, r)
      match spanDigits rest with
      | ([], _) => none
      | (run, after) => some (negative, run, after)
    else none
  | [] => none

/-- An unsigned numeral that is the whole text: digits on at least one side of an
optional point, then an optional exponent. -/
def readNumeral? (chars : List Char) : Option Numeral :=
  let (whole, rest) := spanDigits chars
  let (fraction, rest) := match rest with
    | '.' :: r => spanDigits r
    | r => ([], r)
  if whole.isEmpty && fraction.isEmpty then none
  else
    match rest with
    | [] => some ⟨whole, fraction, false, []⟩
    | _ =>
      match readExponent? rest with
      | some (negative, run, []) => some ⟨whole, fraction, negative, run⟩
      | _ => none

/-- What a floating point text stands for. -/
inductive Reading where
  | finite (negative : Bool) (numeral : Numeral)
  | infinite (negative : Bool)
  | notANumber
  deriving DecidableEq, Repr

/-- The whole text as a floating point number: an optional sign, then a numeral,
or `inf`, `infinity` or `nan` in any case. -/
def read? (text : String) : Option Reading :=
  let (negative, rest) := match text.toList with
    | '-' :: r => (true, r)
    | '+' :: r => (false, r)
    | r => (false, r)
  match String.ofList (rest.map Char.toLower) with
  | "inf" | "infinity" => some (.infinite negative)
  | "nan" => some .notANumber
  | _ => (readNumeral? rest).map (.finite negative)

namespace Reading

/-- The nearest pattern in a format; `quiet` stands for not-a-number. -/
def bits (format : BinaryFormat) (quiet : Nat) : Reading → Nat
  | finite negative numeral =>
    let size := nearest format numeral.mantissa numeral.exponent
    if negative then format.signBit + size else size
  | infinite negative =>
    if negative then format.signBit + format.infinity else format.infinity
  | notANumber => quiet

/-- The nearest 64-bit number. -/
def toDouble (reading : Reading) : Double :=
  ⟨UInt64.ofNat (reading.bits .double 0x7ff8000000000000)⟩

/-- The nearest 32-bit number. -/
def toSingle (reading : Reading) : Single :=
  ⟨UInt32.ofNat (reading.bits .single 0x7fc00000)⟩

end Reading
end SpeechProbe.Decimal
