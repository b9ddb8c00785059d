import SpeechProbe.Number.Shortest
import SpeechProbe.Settings.Tree
import SpeechProbe.Text.Blank

/-!
# Settings of an expected type

Sources disagree on types: the environment knows only text, and people write `yes`
for a flag.  So a value is converted to the type its setting has, where the
conversion makes sense.
-/

namespace SpeechProbe.Tree

/-- Words for a flag that is on. -/
def onWords : List String := ["true", "on", "yes"]

/-- Words for a flag that is off. -/
def offWords : List String := ["false", "off", "no"]

/-- A float in plain decimals, without an exponent and without a point that nothing
follows. -/
def plainLayout : NumberLayout := ⟨none, false, .up⟩

/-- The text of a float. -/
def realText (x : Double) : String :=
  if x.isNaN then "NaN"
  else if x.isFinite then String.ofList (plainLayout.chars .double x.bits.toNat)
  else if x.isNegative then "-inf" else "inf"

/-- A text setting; numbers and flags are written out. -/
def asText? : Tree → Option String
  | text s => some s
  | flag b => some (if b then "true" else "false")
  | int i => some (String.ofList (Decimal.ofInt i))
  | real x => some (realText x)
  | null | list _ | table _ => none

/-- A flag; any number but zero turns it on. -/
def asFlag? : Tree → Option Bool
  | flag b => some b
  | int i => some (i != 0)
  | real x => some (x.isNaN || BinaryFormat.double.unsigned x.bits.toNat != 0)
  | text s =>
    let word := Text.lowerAscii s
    if word = "1" ∨ onWords.contains word then some true
    else if word = "0" ∨ offWords.contains word then some false
    else none
  | null | list _ | table _ => none

/-- An unsigned integer of 64 bits written in decimal digits, with an optional plus. -/
def readUnsigned? (s : String) : Option UInt64 :=
  let digits := match s.toList with
    | '+' :: rest => rest
    | chars => chars
  if digits.isEmpty ∨ digits.any (!·.isDigit) then none
  else
    let n := Decimal.ofDigits digits
    if n < UInt64.size then some (UInt64.ofNat n) else none

/-- An unsigned integer of 64 bits.  A float is rounded and clamped. -/
def asUInt64? : Tree → Option UInt64
  | int i => if 0 ≤ i then some (UInt64.ofNat i.toNat) else none
  | flag b => some (if b then 1 else 0)
  | real x => some x.toUInt64
  | text s =>
    let word := Text.lowerAscii s
    if onWords.contains word then some 1
    else if offWords.contains word then some 0
    else readUnsigned? s
  | null | list _ | table _ => none

/-- An unsigned integer of 32 bits: the low half of one of 64. -/
def asUInt32? (tree : Tree) : Option UInt32 := (·.toUInt32) <$> tree.asUInt64?

/-- A float. -/
def asDouble? : Tree → Option Double
  | real x => some x
  | int i => some (Double.ofRat i)
  | flag b => some (Double.ofRat (if b then 1 else 0))
  | text s =>
    let word := Text.lowerAscii s
    if onWords.contains word then some (Double.ofRat 1)
    else if offWords.contains word then some Double.zero
    else (·.toDouble) <$> Decimal.read? s
  | null | list _ | table _ => none

/-- A float of 32 bits, rounded once more. -/
def asSingle? (tree : Tree) : Option Single := (·.toSingle) <$> tree.asDouble?

/-- A value or nothing. -/
def orNull? {α : Type} (read : Tree → Option α) : Tree → Option (Option α)
  | null => some none
  | tree => some <$> read tree

/-! ## Sections -/

/-- The entries of a section by name and number.  A list gives them in order; what it
leaves out, or has beyond them, does not matter. -/
def section? : Tree → Option (String → Nat → Option Tree)
  | table entries => some fun name _ => entries.lookup name
  | list items => some fun _ index => items[index]?
  | _ => none

/-- An entry that is read if it is there and keeps its default otherwise. -/
def orDefault {α : Type} (entry : Option Tree) (read : Tree → Option α) (default : α) :
    Option α :=
  match entry with
  | none => some default
  | some tree => read tree

end SpeechProbe.Tree
