import SpeechProbe.Toml.Item

/-!
# Documents under construction

The headers of a TOML file say where the entries below them go.  Each table remembers
how it came to be, because that decides what may still be added to it: a table may be
opened by its own header once, an array of tables grows by its last table, and a
value, a date that a table stands for included, never changes.
-/

namespace SpeechProbe.Toml

/-- An entry of a document. -/
inductive Node where
  | value (tree : Tree)
  /-- A table made by headers; `opened` says whether by a header of its own. -/
  | table (opened : Bool) (entries : List (String × Node))
  /-- An array of tables, the last one first. -/
  | tables (last : Node) (earlier : List Node)
  deriving Inhabited

/-- A header with the entries below it. -/
structure Block where
  /-- Whether the header adds to an array of tables. -/
  isArray : Bool
  keys : List String
  entries : List (String × Item)
  deriving Inhabited

namespace Node

/-- Settings as entries that never change. -/
def values (trees : List (String × Tree)) : List (String × Node) :=
  trees.map fun (name, tree) => (name, .value tree)

/-- What a header makes of its entries where nothing is yet. -/
def new? (entries : List (String × Item)) : Option Node := do
  match ← Item.table? entries (Item.entries? entries) with
  | .table trees => some (.table true (values trees))
  | date => some (.value date)

/-- What a header makes of its entries in a table that others made on their way. -/
def opened? (inner : List (String × Node)) (entries : List (String × Item)) : Option Node := do
  let trees ← Item.entries? entries
  if trees.any fun (name, _) => (inner.lookup name).isSome then none
  else some (.table true (inner ++ values trees))

/-- Change the entry of a name, which may be absent, or add one at the end. -/
def alter? (name : String) (f : Option Node → Option Node) :
    List (String × Node) → Option (List (String × Node))
  | [] => do return [(name, ← f none)]
  | (key, node) :: rest =>
    if key = name then do return (key, ← f (some node)) :: rest
    else do return (key, node) :: (← alter? name f rest)

/-- The same, but the date key may not come first: a table is not the text of a date. -/
def enter? (name : String) (f : Option Node → Option Node) (entries : List (String × Node)) :
    Option (List (String × Node)) :=
  if entries.isEmpty ∧ name = dateKey then none else alter? name f entries

/-- Put the entries of a header where its keys say. -/
def add? (isArray : Bool) (found : List (String × Item)) :
    List String → List (String × Node) → Option (List (String × Node))
  | [], _ => none
  | [name], entries => enter? name (fun
      | none => if isArray then (new? found).map (tables · []) else new? found
      | some (table false inner) => if isArray then none else opened? inner found
      | some (tables last earlier) =>
        if isArray then (new? found).map (tables · (last :: earlier)) else none
      | some _ => none) entries
  | name :: more, entries => enter? name (fun
      | none => (add? isArray found more []).map (table false)
      | some (table opened inner) => (add? isArray found more inner).map (table opened)
      | some (tables (table opened inner) earlier) =>
        (add? isArray found more inner).map fun inner => tables (table opened inner) earlier
      | some _ => none) entries

mutual

/-- The settings an entry holds. -/
def toTree : Node → Tree
  | value tree => tree
  | table _ entries => .table (toTrees entries)
  | tables last earlier => .list ((toTree last :: toItems earlier).reverse)

def toTrees : List (String × Node) → List (String × Tree)
  | [] => []
  | (name, node) :: rest => (name, toTree node) :: toTrees rest

def toItems : List Node → List Tree
  | [] => []
  | node :: rest => toTree node :: toItems rest

end

end Node

/-- The settings of a document: the entries above all headers, and the headers.  One
that stands for a date holds nothing else. -/
def document? (top : List (String × Item)) (blocks : List Block) : Option Tree := do
  match ← Node.new? top with
  | .table _ entries =>
    let entries ← blocks.foldlM
      (fun entries block => Node.add? block.isArray block.entries block.keys entries) entries
    return .table (Node.toTrees entries)
  | date => return date.toTree

end SpeechProbe.Toml
