import SpeechProbe.Json.Writer
import SpeechProbe.Text.Quoted

/-!
# JSON values of an expected type

Readers that turn a value into text, a flag or a number, and say what is wrong when
they cannot.  Members are looked up by name; of repeated ones the last counts.
-/

namespace SpeechProbe

/-- Why a value is not what was expected. -/
inductive Mismatch where
  /-- A required member is absent. -/
  | missing (name : String)
  /-- The value is of another type. -/
  | wrongType (found : Json) (expected : String)
  /-- The integer does not fit. -/
  | outOfRange (value : Int) (expected : String)
  /-- The array has too many items. -/
  | tooLong (found expected : Nat)
  deriving Repr

namespace Mismatch

/-- The name of a value in a complaint about its type. -/
def describe : Json → String
  | .null | .unread => "null"
  | .bool true => "boolean `true`"
  | .bool false => "boolean `false`"
  | .int i => "integer `" ++ String.ofList (Decimal.ofInt i) ++ "`"
  | .real x => "floating point `" ++ String.ofList (Json.realChars x) ++ "`"
  | .single x => "floating point `" ++ String.ofList (Json.singleChars x) ++ "`"
  | .str s => "string " ++ Text.quoted s
  | .arr _ => "sequence"
  | .obj _ => "map"

def message : Mismatch → String
  | missing name => "missing field `" ++ name ++ "`"
  | wrongType found expected =>
    "invalid type: " ++ describe found ++ ", expected " ++ expected
  | outOfRange value expected =>
    "invalid value: integer `" ++ String.ofList (Decimal.ofInt value) ++ "`, expected " ++ expected
  | tooLong found expected =>
    "invalid length " ++ found.repr ++ ", expected " ++ expected.repr ++ " elements in sequence"

end Mismatch

namespace Json

def asText : Json → Except Mismatch String
  | str s => .ok s
  | found => .error (.wrongType found "a string")

def asFlag : Json → Except Mismatch Bool
  | bool b => .ok b
  | found => .error (.wrongType found "a boolean")

/-- A signed 64-bit integer. -/
def asInt64 : Json → Except Mismatch Int
  | int i =>
    if -9223372036854775808 ≤ i ∧ i < 9223372036854775808 then .ok i
    else .error (.outOfRange i "i64")
  | found => .error (.wrongType found "i64")

/-- An unsigned 32-bit integer. -/
def asUInt32 : Json → Except Mismatch UInt32
  | int i =>
    if 0 ≤ i ∧ i < 4294967296 then .ok (UInt32.ofNat i.toNat)
    else .error (.outOfRange i "u32")
  | found => .error (.wrongType found "u32")

/-- Any number, as the nearest 32-bit float. -/
def asSingle : Json → Except Mismatch Single
  | int i => .ok (Single.ofRat i)
  | real x => .ok x.toSingle
  | single x => .ok x
  | found => .error (.wrongType found "f32")

/-- A value or `null`. -/
def orNull {α : Type} (read : Json → Except Mismatch α) : Json → Except Mismatch (Option α)
  | null => .ok none
  | value => some <$> read value

/-- The member of a name, if there is one. -/
def field? {α : Type} (members : List (String × Json)) (name : String)
    (read : Json → Except Mismatch α) : Except Mismatch (Option α) :=
  match last? name members with
  | none => .ok none
  | some value => some <$> read value

/-- The member of a name; it may be absent or `null`. -/
def optional {α : Type} (members : List (String × Json)) (name : String)
    (read : Json → Except Mismatch α) : Except Mismatch (Option α) :=
  Option.join <$> field? members name (orNull read)

/-- A member that has to be there. -/
def present {α : Type} (name : String) : Option α → Except Mismatch α
  | some value => .ok value
  | none => .error (.missing name)

end Json
end SpeechProbe
