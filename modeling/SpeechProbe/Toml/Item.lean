import SpeechProbe.Settings.Tree
import SpeechProbe.Toml.Date

/-!
# Values of a TOML file as they are written

A date is kept as its characters and a repeated key beside the first one, until it is
known whether anyone looks at them: a table whose first key is the date key stands for
the date of that entry, and its other entries count for nothing.
-/

namespace SpeechProbe.Toml

/-- A value as it is written. -/
inductive Item where
  /-- Text, a flag or a number. -/
  | leaf (tree : Tree)
  /-- A date or a time. -/
  | date (chars : List Char)
  | list (items : List Item)
  /-- A table in braces. -/
  | inline (entries : List (String × Item))
  /-- A table made by dotted keys. -/
  | dotted (entries : List (String × Item))
  deriving Inhabited

/-- The key that makes a table a date. -/
def dateKey : String := "$__toml_private_datetime"

namespace Item

/-- Add an item under a dotted key.  A table made by dotted keys only grows by dotted
keys; nothing else on the way gives room for more. -/
def add? (item : Item) : List String → List (String × Item) → Option (List (String × Item))
  | [], _ => none
  | [name], entries => some (entries ++ [(name, item)])
  | name :: more, [] => (add? item more []).map fun inner => [(name, dotted inner)]
  | name :: more, (key, old) :: rest =>
    if key = name then
      match old with
      | dotted inner => (add? item more inner).map fun inner => (key, dotted inner) :: rest
      | _ => none
    else (add? item (name :: more) rest).map ((key, old) :: ·)

/-- The date that a text stands for. -/
def dateOfText? : Item → Option Tree
  | leaf (.text text) => (Date.read? text.toList).map .text
  | _ => none

/-- The settings of a table: of its entries, or of the date it stands for. -/
def table? (entries : List (String × Item)) (trees : Option (List (String × Tree))) :
    Option Tree :=
  match entries with
  | (key, item) :: _ => if key = dateKey then item.dateOfText? else trees.map .table
  | [] => trees.map .table

mutual

/-- The settings of an item, if its dates are dates and no key stands twice. -/
def tree? : Item → Option Tree
  | leaf tree => some tree
  | date chars => (Date.read? chars).map .text
  | list items => (trees? items).map .list
  | inline entries => table? entries (entries? entries)
  | dotted entries => table? entries (entries? entries)

def trees? : List Item → Option (List Tree)
  | [] => some []
  | item :: items => do return (← tree? item) :: (← trees? items)

/-- The settings of entries, each under a key of its own. -/
def entries? : List (String × Item) → Option (List (String × Tree))
  | [] => some []
  | (key, item) :: rest => do
    let tree ← tree? item
    let trees ← entries? rest
    if (trees.lookup key).isSome then none else some ((key, tree) :: trees)

end

end Item
end SpeechProbe.Toml
