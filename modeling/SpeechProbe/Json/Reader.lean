import SpeechProbe.Json.Value
import SpeechProbe.Number.Decimal

/-!
# Reading JSON

No comments and no trailing commas.  What is well written but stands for no value, a
number beyond the range of 64-bit floats or a string with half a surrogate pair, is
read as `unread`.  A strict reading allows none of it, and at most 127 containers
inside one another; a loose reading leaves it to those who look at the value.  Every
function takes the characters still to be read and returns what it leaves over.
-/

namespace SpeechProbe.Json

/-! ## Blanks and literals -/

/-- The four characters JSON allows between tokens. -/
def isSpace (c : Char) : Bool :=
  c == ' ' || c == '\n' || c == '\t' || c == '\r'

def skipSpace : List Char → List Char
  | c :: rest => if isSpace c then skipSpace rest else c :: rest
  | [] => []

/-- What follows a given beginning. -/
def after? : List Char → List Char → Option (List Char)
  | [], rest => some rest
  | c :: word, d :: rest => if c = d then after? word rest else none
  | _ :: _, [] => none

/-! ## Strings -/

/-- The value of a hexadecimal digit. -/
def hexValue? (c : Char) : Option Nat :=
  if c.isDigit then some (c.toNat - 48)
  else if 'a' ≤ c ∧ c ≤ 'f' then some (c.toNat - 87)
  else if 'A' ≤ c ∧ c ≤ 'F' then some (c.toNat - 55)
  else none

/-- The number of four hexadecimal digits. -/
def hex4? (a b c d : Char) : Option Nat := do
  return ((← hexValue? a) * 16 + (← hexValue? b)) * 256 +
    ((← hexValue? c) * 16 + (← hexValue? d))

/-- The character of a one-letter escape. -/
def escape? : Char → Option Char
  | '"' => some '"'
  | '\\' => some '\\'
  | '/' => some '/'
  | 'b' => some '\x08'
  | 'f' => some '\x0c'
  | 'n' => some '\n'
  | 'r' => some '\r'
  | 't' => some '\t'
  | _ => none

/-- Whether a 16-bit unit opens a surrogate pair. -/
def isHighSurrogate (n : Nat) : Bool := 0xd800 ≤ n && n ≤ 0xdbff

/-- Whether a 16-bit unit closes a surrogate pair. -/
def isLowSurrogate (n : Nat) : Bool := 0xdc00 ≤ n && n ≤ 0xdfff

/-- The body of a string, up to and without its closing quote. -/
def stringBody : List Char → Option (List Char × List Char)
  | '"' :: rest => some ([], rest)
  | '\\' :: 'u' :: a :: b :: c :: d :: rest =>
    match hex4? a b c d with
    | none => none
    | some n =>
      if isLowSurrogate n then none
      else if isHighSurrogate n then
        match rest with
        | '\\' :: 'u' :: e :: f :: g :: h :: rest' =>
          match hex4? e f g h with
          | none => none
          | some m =>
            if isLowSurrogate m then
              (stringBody rest').map fun (body, left) =>
                (Char.ofNat (0x10000 + (n - 0xd800) * 1024 + (m - 0xdc00)) :: body, left)
            else none
        | _ => none
      else (stringBody rest).map fun (body, left) => (Char.ofNat n :: body, left)
  | '\\' :: c :: rest =>
    match escape? c with
    | none => none
    | some x => (stringBody rest).map fun (body, left) => (x :: body, left)
  | c :: rest =>
    if c.toNat < 0x20 ∨ c = '\\' then none
    else (stringBody rest).map fun (body, left) => (c :: body, left)
  | [] => none

/-- What follows a string whose body is given, whatever its escapes stand for. -/
def afterString : List Char → Option (List Char)
  | '"' :: rest => some rest
  | '\\' :: 'u' :: a :: b :: c :: d :: rest =>
    match hex4? a b c d with
    | none => none
    | some _ => afterString rest
  | '\\' :: c :: rest =>
    match escape? c with
    | none => none
    | some _ => afterString rest
  | c :: rest => if c.toNat < 0x20 ∨ c = '\\' then none else afterString rest
  | [] => none

/-- The text of a string after its opening quote; no text when an escape is half a
surrogate pair. -/
def string (chars : List Char) : Option (Option String × List Char) :=
  match stringBody chars with
  | some (body, left) => some (some (String.ofList body), left)
  | none => (afterString chars).map (none, ·)

/-! ## Numbers -/

/-- Digits gathered into a 64-bit significand.  From the first digit that would
not fit on, digits are only counted: the significand and how many were left out. -/
def gather (significand : Nat) : List Char → Nat × Nat
  | [] => (significand, 0)
  | c :: rest =>
    let next := 10 * significand + Decimal.digitValue c
    if next < UInt64.size then gather next rest else (significand, rest.length + 1)

/-- `x` times ten to a power, the power and the result each rounded.  Nothing when
the result is too large; below the table of powers `x` is first divided by the
largest. -/
def scale : Nat → Double → Int → Option Double
  | 0, _, _ => some Double.zero
  | fuel + 1, x, exponent =>
    if x = Double.zero then some x
    else if 308 < exponent then none
    else if 0 ≤ exponent then
      let product := Double.ofRat (x.toRat * (Double.ofRat (Decimal.tenTo exponent)).toRat)
      if product.isFinite then some product else none
    else if -308 ≤ exponent then
      some (Double.ofRat (x.toRat / (Double.ofRat (Decimal.tenTo (-exponent))).toRat))
    else
      scale fuel (Double.ofRat (x.toRat / (Double.ofRat (Decimal.tenTo 308)).toRat))
        (exponent + 308)

/-- The value of a numeral with a point or an exponent, or of one whose digits do
not fit 64 bits.  An exponent that 32 bits do not hold settles the value alone. -/
def realValue? (numeral : Decimal.Numeral) : Option Double :=
  let (whole, dropped) := gather 0 numeral.whole
  let (significand, ignored) := gather whole numeral.fraction
  let places : Int := (dropped : Int) - ((numeral.fraction.length : Int) - ignored)
  let size := Decimal.ofDigits numeral.exponentDigits
  if 2147483647 < size then
    if significand ≠ 0 ∧ !numeral.exponentNegative then none else some Double.zero
  else scale 4 (Double.ofRat significand) (places + numeral.writtenExponent)

/-- The sign put on a number's size. -/
def signed (negative : Bool) (x : Double) : Double := if negative then x.neg else x

/-- The value of an integer numeral.  Minus zero is a real, and so is every integer
out of range. -/
def intValue? (negative : Bool) (numeral : Decimal.Numeral) : Option Json :=
  let n := Decimal.ofDigits numeral.whole
  if !negative && n < UInt64.size then some (.int n)
  else if negative && 0 < n && n ≤ 9223372036854775808 then some (.int (-(n : Int)))
  else if n < UInt64.size then some (.real (signed negative (Double.ofRat n)))
  else (realValue? numeral).map fun x => .real (signed negative x)

/-- A number as it is written. -/
structure Written where
  negative : Bool
  whole : List Char
  /-- The digits after a point. -/
  fraction : Option (List Char)
  /-- The sign and the digits of an exponent. -/
  exponent : Option (Bool × List Char)
  deriving DecidableEq, Repr

/-- The value of a number. -/
def Written.value? (written : Written) : Option Json :=
  let (minus, digits) := written.exponent.getD (false, [])
  let numeral : Decimal.Numeral := ⟨written.whole, written.fraction.getD [], minus, digits⟩
  if written.fraction.isNone && written.exponent.isNone then intValue? written.negative numeral
  else (realValue? numeral).map fun x => .real (signed written.negative x)

/-- The digits after a point at the front, if there is one: at least one digit. -/
def fraction : List Char → Option (Option (List Char) × List Char)
  | '.' :: rest =>
    match Decimal.spanDigits rest with
    | ([], _) => none
    | (digits, left) => some (some digits, left)
  | rest => some (none, rest)

/-- The exponent at the front, if there is one: at least one digit. -/
def exponent (chars : List Char) : Option (Option (Bool × List Char) × List Char) :=
  match chars with
  | 'e' :: _ | 'E' :: _ =>
    (Decimal.readExponent? chars).map fun (minus, digits, left) => (some (minus, digits), left)
  | _ => some (none, chars)

/-- What is written of a number after its sign: no leading zeros. -/
def unsigned (negative : Bool) (chars : List Char) : Option (Written × List Char) :=
  match Decimal.spanDigits chars with
  | ([], _) => none
  | ('0' :: _ :: _, _) => none
  | (whole, rest) =>
    match fraction rest with
    | none => none
    | some (afterPoint, rest) =>
      (exponent rest).map fun (power, left) => (⟨negative, whole, afterPoint, power⟩, left)

/-- What is written of a number at the front. -/
def written : List Char → Option (Written × List Char)
  | '-' :: rest => unsigned true rest
  | chars => unsigned false chars

/-- A number at the front. -/
def number (chars : List Char) : Option (Json × List Char) :=
  (written chars).map fun (found, left) => (found.value?.getD .unread, left)

/-! ## Values -/

/-- How many containers may lie inside one another. -/
def depthLimit : Nat := 127

/-- An object of members; one whose names are not all texts is no value. -/
def ofNamed (members : List (Option String × Json)) : Json :=
  match members.mapM fun (name, value) => name.map (·, value) with
  | some named => .obj named
  | none => .unread

mutual

/-- A value at the front, after blanks.  `depth` is how many more containers may be
opened; every step spends a unit of `fuel`. -/
def value (fuel depth : Nat) (chars : List Char) : Option (Json × List Char) :=
  match fuel with
  | 0 => none
  | fuel + 1 =>
    match skipSpace chars with
    | '"' :: rest =>
      (string rest).map fun (text, left) => ((text.map Json.str).getD .unread, left)
    | '[' :: rest =>
      match depth with
      | 0 => none
      | depth + 1 =>
        match skipSpace rest with
        | ']' :: left => some (.arr [], left)
        | rest =>
          match value fuel depth rest with
          | none => none
          | some (item, rest) =>
            (itemsAfter fuel depth rest).map fun (items, left) => (.arr (item :: items), left)
    | '{' :: rest =>
      match depth with
      | 0 => none
      | depth + 1 =>
        match skipSpace rest with
        | '}' :: left => some (.obj [], left)
        | rest =>
          match member fuel depth rest with
          | none => none
          | some (first, rest) =>
            (membersAfter fuel depth rest).map fun (members, left) =>
              (ofNamed (first :: members), left)
    | 'n' :: rest => (after? ['u', 'l', 'l'] rest).map (.null, ·)
    | 't' :: rest => (after? ['r', 'u', 'e'] rest).map (.bool true, ·)
    | 'f' :: rest => (after? ['a', 'l', 's', 'e'] rest).map (.bool false, ·)
    | chars => number chars

/-- What follows an item of an array, up to and with the closing bracket. -/
def itemsAfter (fuel depth : Nat) (chars : List Char) : Option (List Json × List Char) :=
  match fuel with
  | 0 => none
  | fuel + 1 =>
    match skipSpace chars with
    | ']' :: left => some ([], left)
    | ',' :: rest =>
      match value fuel depth rest with
      | none => none
      | some (item, rest) =>
        (itemsAfter fuel depth rest).map fun (items, left) => (item :: items, left)
    | _ => none

/-- A member of an object: a name, a colon and a value. -/
def member (fuel depth : Nat) (chars : List Char) :
    Option ((Option String × Json) × List Char) :=
  match fuel with
  | 0 => none
  | fuel + 1 =>
    match skipSpace chars with
    | '"' :: rest =>
      match string rest with
      | none => none
      | some (name, rest) =>
        match skipSpace rest with
        | ':' :: rest => (value fuel depth rest).map fun (found, left) => ((name, found), left)
        | _ => none
    | _ => none

/-- What follows a member of an object, up to and with the closing brace. -/
def membersAfter (fuel depth : Nat) (chars : List Char) :
    Option (List (Option String × Json) × List Char) :=
  match fuel with
  | 0 => none
  | fuel + 1 =>
    match skipSpace chars with
    | '}' :: left => some ([], left)
    | ',' :: rest =>
      match member fuel depth rest with
      | none => none
      | some (first, rest) =>
        (membersAfter fuel depth rest).map fun (members, left) => (first :: members, left)
    | _ => none

end

/-- The one value of a text with at most `depth` containers inside one another.  Each
step of the reader consumes a character or descends from one that did, so twice the
length is fuel enough. -/
def readWithin? (depth : Nat) (chars : List Char) : Option Json :=
  match value (2 * chars.length + 2) depth chars with
  | some (found, rest) => if (skipSpace rest).isEmpty then some found else none
  | none => none

/-- The value of a text, all of it read. -/
def parse? (text : String) : Option Json :=
  (readWithin? depthLimit text.toList).filter isWhole

/-- The value of a text, parts of which may stay unread. -/
def parseLoosely? (text : String) : Option Json :=
  readWithin? text.length text.toList

end SpeechProbe.Json
