import SpeechProbe.Number.Decimal
import SpeechProbe.Settings.Path
import SpeechProbe.Text.Blank

/-!
# Settings from the environment

A variable `HARNESS__SESSION__LANGUAGE` sets `session.language`; case does not matter
in its name.  A value is read as a flag, an integer or a float if it looks like one,
and is text otherwise.
-/

namespace SpeechProbe.Environment

/-- A name in small letters.  The Kelvin sign is the one other character with a small
letter of ASCII. -/
def lowerName (name : String) : List Char :=
  name.toList.map fun c => if c = '\u212a' then 'k' else c.toLower

/-- What follows a given beginning. -/
def after? : List Char → List Char → Option (List Char)
  | [], rest => some rest
  | c :: word, d :: rest => if c = d then after? word rest else none
  | _ :: _, [] => none

/-- Two underscores become a point. -/
def pointed : List Char → List Char
  | '_' :: '_' :: rest => '.' :: pointed rest
  | c :: rest => c :: pointed rest
  | [] => []

/-- The path of the setting that a variable is for, if it is for one. -/
def path? (name : String) : Option Path :=
  (after? "harness__".toList (lowerName name)).map fun rest =>
    Path.ofKey (String.ofList (pointed rest))

/-- A signed integer of 64 bits in decimal digits. -/
def readInt? (value : String) : Option Int :=
  let (negative, digits) := match value.toList with
    | '-' :: rest => (true, rest)
    | '+' :: rest => (false, rest)
    | chars => (false, chars)
  if digits.isEmpty ∨ digits.any (!·.isDigit) then none
  else
    let size : Int := Decimal.ofDigits digits
    let i := if negative then -size else size
    if -9223372036854775808 ≤ i ∧ i < 9223372036854775808 then some i else none

/-- What the value of a variable stands for. -/
def readValue (value : String) : Tree :=
  match Text.lowerAscii value with
  | "true" => .flag true
  | "false" => .flag false
  | _ =>
    match readInt? value with
    | some i => .int i
    | none =>
      match Decimal.read? value with
      | some reading => .real reading.toDouble
      | none => .text value

/-- The settings that variables make, over those of a tree; nothing when a path has no
place. -/
def overlay? (tree : Tree) (environment : List (String × String)) : Option Tree :=
  environment.foldlM
    (fun tree (name, value) =>
      match path? name with
      | some path => path.set? (readValue value) tree
      | none => some tree)
    tree

end SpeechProbe.Environment
