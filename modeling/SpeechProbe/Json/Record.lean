import SpeechProbe.Json.Typed

/-!
# Records and choices as JSON

A record is an object that names its fields, or an array of its fields in their order.
An object names no field twice; members that are no field are passed over.  A choice
is the name of an alternative, or an object whose one member is the alternative with
what belongs to it.
-/

namespace SpeechProbe.Json

/-! ## Values -/

/-- A natural number below a limit. -/
def asNatBelow? (limit : Nat) : Json → Option Nat
  | int i => if 0 ≤ i ∧ i.toNat < limit then some i.toNat else none
  | _ => none

/-- Any number, as the nearest 64-bit float. -/
def asDouble? : Json → Option Double
  | int i => some (Double.ofRat i)
  | real x => some x
  | _ => none

/-- A value or `null`. -/
def ofOption {α : Type} (write : α → Json) : Option α → Json
  | some value => write value
  | none => null

/-! ## Fields -/

/-- What a record says about one of its fields. -/
inductive Slot where
  | given (value : Json)
  /-- The record is an object without the field. -/
  | omitted
  /-- The record is an array that ends before the field. -/
  | cut
  deriving Repr

namespace Slot

/-- A field that has to be there. -/
def required {α : Type} (read : Json → Option α) : Slot → Option α
  | given value => read value
  | omitted | cut => none

/-- A field that may be `null`, and that an object may leave out. -/
def nullable {α : Type} (read : Json → Option α) : Slot → Option (Option α)
  | given null => some none
  | given value => some <$> read value
  | omitted => some none
  | cut => none

/-- A field with a value of its own when it is left out. -/
def orElse {α : Type} (default : α) (read : Json → Option α) : Slot → Option α
  | given value => read value
  | omitted | cut => some default

/-- A field that may be `null` or left out. -/
def optional {α : Type} (read : Json → Option α) : Slot → Option (Option α)
  | given null => some none
  | given value => some <$> read value
  | omitted | cut => some none

end Slot

/-- The fields of a record, by their names. -/
def slots? (names : List String) : Json → Option (String → Slot)
  | obj members =>
    if names.all fun name => members.countP (·.1 == name) ≤ 1 then
      some fun name => match last? name members with
        | some value => .given value
        | none => .omitted
    else none
  | arr items =>
    if items.length ≤ names.length then
      some fun name => match items[names.idxOf name]? with
        | some value => .given value
        | none => .cut
    else none
  | _ => none

/-- The fields of a record whose object has no other members. -/
def exactSlots? (names : List String) (value : Json) : Option (String → Slot) :=
  if (value.members?.getD []).all fun member => names.contains member.1 then slots? names value
  else none

/-! ## Alternatives -/

/-- A record that tells its kind: in its member `type`, or as the first item of an
array.  The kind, and the record without it. -/
def tagged? : Json → Option (String × Json)
  | obj members =>
    match members.filter (·.1 == "type") with
    | [(_, str kind)] => some (kind, obj (members.filter (·.1 != "type")))
    | _ => none
  | arr (str kind :: items) => some (kind, arr items)
  | _ => none

/-- An alternative with what belongs to it; an alternative named alone has `null`. -/
def choice? : Json → Option (String × Option Json)
  | str name => some (name, none)
  | obj [(name, value)] => some (name, some value)
  | _ => none

/-- The name of an alternative to which nothing belongs. -/
def plainChoice? (value : Json) : Option String :=
  match choice? value with
  | some (name, none) | some (name, some null) => some name
  | _ => none

end SpeechProbe.Json
