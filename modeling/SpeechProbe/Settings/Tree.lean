import SpeechProbe.Json.Value

/-!
# Trees of settings

What a settings file or the environment says, before it is known which setting is
meant.  Two trees merge key by key: tables are joined, and of any other two values
the later one stands.
-/

namespace SpeechProbe

/-- A value in a settings source. -/
inductive Tree where
  | null
  | flag (value : Bool)
  /-- A signed 64-bit integer. -/
  | int (value : Int)
  | real (value : Double)
  | text (value : String)
  | list (items : List Tree)
  | table (entries : List (String × Tree))
  deriving Repr, Inhabited

namespace Tree

/-- The entry of a name in a table. -/
def entry? (name : String) : Tree → Option Tree
  | table entries => entries.lookup name
  | _ => none

/-- Change the entry of a name, which may be absent, or add one at the end. -/
def alterEntry (name : String) (f : Option Tree → Tree) :
    List (String × Tree) → List (String × Tree)
  | [] => [(name, f none)]
  | (key, value) :: rest =>
    if key = name then (key, f (some value)) :: rest else (key, value) :: alterEntry name f rest

/-- Change the entry of a name.  Anything but a table becomes one. -/
def alter (name : String) (f : Option Tree → Tree) : Tree → Tree
  | table entries => table (alterEntry name f entries)
  | _ => table [(name, f none)]

mutual

/-- A later value over an earlier one, which may be absent. -/
def laidOver : Option Tree → Tree → Tree
  | earlier, table entries => overEntries (earlier.getD (table [])) entries
  | _, value => value

/-- Later entries over an earlier value. -/
def overEntries : Tree → List (String × Tree) → Tree
  | earlier, [] => earlier
  | earlier, (name, value) :: rest =>
    overEntries (earlier.alter name fun old => laidOver old value) rest

end

/-! ## Settings from JSON -/

mutual

/-- A JSON value as a settings tree.  Of repeated members the last counts; an
integer too large for a signed word is a float. -/
def ofJson : Json → Tree
  | .null | .unread => null
  | .bool b => flag b
  | .int i => if i < 9223372036854775808 then int i else real (Double.ofRat i)
  | .real x => real x
  | .single x => real (Double.ofRat x.toRat)
  | .str s => text s
  | .arr items => list (ofItems items)
  | .obj members => table (ofMembers members)

def ofItems : List Json → List Tree
  | [] => []
  | item :: items => ofJson item :: ofItems items

def ofMembers : List (String × Json) → List (String × Tree)
  | [] => []
  | (name, value) :: members =>
    let rest := ofMembers members
    if (rest.lookup name).isSome then rest else (name, ofJson value) :: rest

end

end Tree
end SpeechProbe
