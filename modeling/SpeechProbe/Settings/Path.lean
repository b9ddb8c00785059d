import SpeechProbe.Number.Decimal
import SpeechProbe.Settings.Tree

/-!
# Paths to settings

The keys at the top of a settings source are paths: `a.b` is the entry `b` of the
table `a`, and `a[2]` the third item of the list `a`.  A key that is no path stands
for itself.  A path makes the tables and lists on its way, but an item before the first
of a list has no place.
-/

namespace SpeechProbe

/-- A step into a tree. -/
inductive PathStep where
  | entry (name : String)
  /-- An item of a list; a negative number counts from the end. -/
  | item (index : Int)
  deriving DecidableEq, Repr

/-- A nonempty path: the name of a top entry and further steps. -/
structure Path where
  top : String
  steps : List PathStep
  deriving DecidableEq, Repr

namespace Path

/-- The characters of a name in a path. -/
def isNameChar (c : Char) : Bool :=
  c.isAlphanum || c == ' ' || c == '_' || c == '-'

/-- A nonempty name at the front, and the rest. -/
def takeName (chars : List Char) : Option (String × List Char) :=
  match chars.takeWhile isNameChar with
  | [] => none
  | name => some (String.ofList name, chars.dropWhile isNameChar)

def skipBlanks (chars : List Char) : List Char :=
  chars.dropWhile fun c => c == ' ' || c == '\t'

/-- A bracketed number after its opening bracket, and the rest. -/
def takeIndex (chars : List Char) : Option (Int × List Char) :=
  let (negative, chars) := match skipBlanks chars with
    | '-' :: rest => (true, rest)
    | rest => (false, rest)
  match Decimal.spanDigits chars with
  | ([], _) => none
  | (digits, rest) =>
    let size : Int := Decimal.ofDigits digits
    match skipBlanks rest with
    | ']' :: rest =>
      let index := if negative then -size else size
      if -9223372036854775808 ≤ index ∧ index < 9223372036854775808 then some (index, rest)
      else none
    | _ => none

/-- The steps after the first name. -/
def takeSteps : Nat → List Char → Option (List PathStep)
  | _, [] => some []
  | 0, _ => none
  | fuel + 1, '.' :: rest => do
    let (name, rest) ← takeName rest
    return .entry name :: (← takeSteps fuel rest)
  | fuel + 1, '[' :: rest => do
    let (index, rest) ← takeIndex rest
    return .item index :: (← takeSteps fuel rest)
  | _ + 1, _ => none

/-- The path a key is, if it is one. -/
def read? (key : String) : Option Path := do
  let chars := key.toList
  let (top, rest) ← takeName chars
  return ⟨top, ← takeSteps chars.length rest⟩

/-- The path a key stands for. -/
def ofKey (key : String) : Path := (read? key).getD ⟨key, []⟩

/-- How many items a subscript may stretch a list to; more do not fit into memory. -/
def capacity : Nat := 134217728

/-- The place in a list of some length that an index stands for: not before its first
item, and not beyond what memory holds. -/
def place? (index : Int) (length : Nat) : Option Nat :=
  if 0 ≤ index then
    if index < capacity then some index.toNat else none
  else if index.natAbs ≤ length then some (length - index.natAbs)
  else none

/-- The list with an item at a place; a list that is too short is filled up with
nulls. -/
def setItem (value : Tree) (place : Nat) (items : List Tree) : List Tree :=
  if place < items.length then items.set place value
  else items ++ List.replicate (place - items.length) Tree.null ++ [value]

/-- A value put at the end of some steps from a place in a tree, which may hold
nothing yet.  Whatever is in the way gives way; entries merge, items do not.  Nothing
when a step has no place in its list. -/
def put? (value : Tree) : List PathStep → Option Tree → Option Tree
  | [], earlier => some (Tree.laidOver earlier value)
  | .entry name :: steps, earlier => do
    let inner ← put? value steps (earlier.bind (Tree.entry? name))
    return (earlier.getD .null).alter name fun _ => inner
  | .item index :: steps, earlier => do
    let items := match earlier with
      | some (.list items) => items
      | _ => []
    let place ← place? index items.length
    let inner ← match steps with
      | [] => some value
      | _ => put? value steps (some (items.getD place .null))
    return .list (setItem inner place items)

/-- A tree with a value put at a path. -/
def set? (path : Path) (value : Tree) (tree : Tree) : Option Tree := do
  let inner ← put? value path.steps (tree.entry? path.top)
  return tree.alter path.top fun _ => inner

end Path
end SpeechProbe
