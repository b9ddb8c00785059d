import SpeechProbe.Json.Value
import SpeechProbe.Number.Shortest

/-!
# Writing JSON

Compact text: no blanks, members in their order, and only the escapes that JSON
requires.
-/

namespace SpeechProbe.Json

/-- 64-bit numbers: plain from `1e-5` up to below `1e16`, a whole number ends in `.0`,
and an exponent carries its sign. -/
def realLayout : NumberLayout := ⟨some (-5, 16), true, .toEven⟩

/-- 32-bit numbers: the same, but plain from `1e-6` up to below `1e13`. -/
def singleLayout : NumberLayout := ⟨some (-6, 13), true, .toEven⟩

/-- A lower-case hexadecimal digit. -/
def hexDigit (d : Nat) : Char :=
  if d < 10 then Char.ofNat (48 + d) else Char.ofNat (87 + d)

/-- A character inside a string: quotes, backslashes and controls are escaped. -/
def escaped (c : Char) : List Char :=
  if c = '"' then ['\\', '"']
  else if c = '\\' then ['\\', '\\']
  else if c = '\x08' then ['\\', 'b']
  else if c = '\x0c' then ['\\', 'f']
  else if c = '\n' then ['\\', 'n']
  else if c = '\r' then ['\\', 'r']
  else if c = '\t' then ['\\', 't']
  else if c.toNat < 0x20 then
    ['\\', 'u', '0', '0', hexDigit (c.toNat / 16), hexDigit (c.toNat % 16)]
  else [c]

/-- A string with its quotes. -/
def stringChars (text : String) : List Char :=
  '"' :: text.toList.flatMap escaped ++ ['"']

/-- A 64-bit number; one that is not finite is `null`. -/
def realChars (x : Double) : List Char :=
  if x.isFinite then realLayout.chars .double x.bits.toNat else ['n', 'u', 'l', 'l']

/-- A 32-bit number; one that is not finite is `null`. -/
def singleChars (x : Single) : List Char :=
  if x.isFinite then singleLayout.chars .single x.bits.toNat else ['n', 'u', 'l', 'l']

mutual

/-- The text of a value; of what is unread, `null`. -/
def chars : Json → List Char
  | null | unread => ['n', 'u', 'l', 'l']
  | bool true => ['t', 'r', 'u', 'e']
  | bool false => ['f', 'a', 'l', 's', 'e']
  | int i => Decimal.ofInt i
  | real x => realChars x
  | single x => singleChars x
  | str s => stringChars s
  | arr [] => ['[', ']']
  | arr (item :: items) => '[' :: (chars item ++ itemsChars items)
  | obj [] => ['{', '}']
  | obj ((name, value) :: members) =>
    '{' :: (stringChars name ++ ':' :: (chars value ++ membersChars members))

/-- What follows the first item of an array. -/
def itemsChars : List Json → List Char
  | [] => [']']
  | item :: items => ',' :: (chars item ++ itemsChars items)

/-- What follows the first member of an object. -/
def membersChars : List (String × Json) → List Char
  | [] => ['}']
  | (name, value) :: members =>
    ',' :: (stringChars name ++ ':' :: (chars value ++ membersChars members))

end

/-- The text of a value. -/
def render (value : Json) : String := String.ofList (chars value)

end SpeechProbe.Json
