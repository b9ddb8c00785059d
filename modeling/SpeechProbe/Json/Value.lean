import SpeechProbe.Number.Binary

/-!
# JSON values

A value keeps the members of an object in the order they were written, repeated
names included, so that each reader can settle repetition by its own rule.
-/

namespace SpeechProbe

/-- A JSON value. -/
inductive Json where
  | null
  | bool (value : Bool)
  /-- An integer from `-2^63` up to below `2^64`. -/
  | int (value : Int)
  /-- Any other number. -/
  | real (value : Double)
  /-- A 32-bit number to be written with the digits such a number needs.  A reader
  makes none. -/
  | single (value : Single)
  | str (value : String)
  | arr (items : List Json)
  | obj (members : List (String × Json))
  /-- Well written, but standing for no value.  It is of no type that anyone expects,
  so it can only be passed over. -/
  | unread
  deriving Repr, Inhabited

namespace Json

mutual

/-- Whether nothing in a value is unread. -/
def isWhole : Json → Bool
  | unread => false
  | arr items => wholeItems items
  | obj members => wholeMembers members
  | _ => true

def wholeItems : List Json → Bool
  | [] => true
  | item :: items => isWhole item && wholeItems items

def wholeMembers : List (String × Json) → Bool
  | [] => true
  | (_, value) :: members => isWhole value && wholeMembers members

end

/-- The value of the last member with a name. -/
def last? (name : String) : List (String × Json) → Option Json
  | [] => none
  | (key, value) :: rest =>
    match last? name rest with
    | some found => some found
    | none => if key = name then some value else none

/-- The members of an object; nothing else has any. -/
def members? : Json → Option (List (String × Json))
  | obj members => some members
  | _ => none

/-- The characters of a string value. -/
def str? : Json → Option String
  | str value => some value
  | _ => none

end Json
end SpeechProbe
