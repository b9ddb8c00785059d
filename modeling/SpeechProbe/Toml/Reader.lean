import SpeechProbe.Toml.Document
import SpeechProbe.Toml.Number

/-!
# Reading TOML

Lines of a file are headers, which say where the entries below them go, and entries.
Every function takes the tokens still to be read and returns what it leaves over.
-/

namespace SpeechProbe.Toml

def skipBlanks : List Token → List Token
  | .blanks _ :: rest => rest
  | tokens => tokens

/-- Blanks, comments and line ends, which may stand between the items of an array. -/
def skipLines : List Token → List Token
  | .blanks _ :: rest => skipLines rest
  | .newline :: rest => skipLines rest
  | .comment :: rest => skipLines rest
  | tokens => tokens

/-- A given mark at the front. -/
def takeMark (c : Char) : List Token → Option (List Token)
  | .mark d :: rest => if c = d then some rest else none
  | _ => none

/-- The end of a line: blanks and a comment, if any, then a line end or nothing. -/
def endLine (tokens : List Token) : Option (List Token) :=
  let rest := match skipBlanks tokens with
    | .comment :: rest => rest
    | rest => rest
  match rest with
  | [] => some []
  | .newline :: rest => some rest
  | _ => none

/-! ## Keys -/

/-- One key: a word or a string on one line. -/
def takeKey : List Token → Option (String × List Token)
  | .word chars :: rest => some (String.ofList chars, rest)
  | .string value false :: rest => some (String.ofList value, rest)
  | _ => none

/-- The keys after the first, each behind a point; blanks may stand around it. -/
def takeKeysAfter : Nat → List Token → Option (List String × List Token)
  | 0, _ => none
  | fuel + 1, tokens =>
    match skipBlanks tokens with
    | .mark '.' :: rest => do
      let (key, rest) ← takeKey (skipBlanks rest)
      let (keys, rest) ← takeKeysAfter fuel rest
      return (key :: keys, rest)
    | rest => some ([], rest)

/-- A dotted key. -/
def takeKeys (fuel : Nat) (tokens : List Token) : Option (List String × List Token) := do
  let (key, rest) ← takeKey tokens
  let (keys, rest) ← takeKeysAfter fuel rest
  return (key :: keys, rest)

/-! ## Dates -/

/-- Whether a word can only be the beginning of a date. -/
def beginsDate (chars : List Char) : Bool :=
  chars.contains 'T' || chars.contains 't' ||
    ((chars.drop 1).contains '-' && !(["e-", "E-"].any fun s =>
      (List.range chars.length).any fun i => (chars.drop i).take 2 == s.toList))

/-- A word at the front, if a given mark stands before it. -/
def markedWord (c : Char) : List Token → Option (List Char × List Token)
  | .mark d :: .word chars :: rest => if c = d then some (c :: chars, rest) else none
  | _ => none

/-- An optional part of a date: a mark and a word, or nothing where the mark is
absent. -/
def optionalPart (c : Char) (tokens : List Token) : Option (List Char × List Token) :=
  match tokens with
  | .mark d :: _ => if c = d then markedWord c tokens else some ([], tokens)
  | _ => some ([], tokens)

/-- A date or a time that begins with a word.  The day and the time may be parted by
one blank. -/
def date (chars : List Char) (tokens : List Token) : Option (Item × List Token) := do
  let (gap, tokens) := match tokens with
    | .blanks [' '] :: .word hour :: rest => (' ' :: hour, rest)
    | rest => ([], rest)
  let (clock, tokens) ←
    match tokens with
    | .mark ':' :: _ => do
      let (minutes, rest) ← markedWord ':' tokens
      let (seconds, rest) ← markedWord ':' rest
      let (places, rest) ← optionalPart '.' rest
      let (zone, rest) ← optionalPart '+' rest
      let (zoneMinutes, rest) ← optionalPart ':' rest
      some (minutes ++ seconds ++ places ++ zone ++ zoneMinutes, rest)
    | rest => some ([], rest)
  return (.date (chars ++ gap ++ clock), tokens)

/-! ## Values -/

/-- A number that begins with a word. -/
def numberItem (chars : List Char) (rest : List Token) : Option (Item × List Token) :=
  (number chars rest).map fun (tree, left) => (.leaf tree, left)

/-- A value that begins with a word: a flag, a number or a date. -/
def wordValue (chars : List Char) (rest : List Token) : Option (Item × List Token) :=
  match String.ofList chars with
  | "true" => some (.leaf (.flag true), rest)
  | "false" => some (.leaf (.flag false), rest)
  | "inf" | "nan" => numberItem chars rest
  | _ =>
    match chars with
    | [] => none
    | c :: _ =>
      if c.isDigit ∨ c = '-' then
        match beginsDate chars, rest with
        | true, _ => date chars rest
        | false, .mark ':' :: _ => date chars rest
        | false, _ => numberItem chars rest
      else none

mutual

/-- A value at the front. -/
def value (fuel : Nat) (tokens : List Token) : Option (Item × List Token) :=
  match fuel with
  | 0 => none
  | fuel + 1 =>
    match tokens with
    | .string chars _ :: rest => some (.leaf (.text (String.ofList chars)), rest)
    | .word chars :: rest => wordValue chars rest
    | .mark '+' :: .word chars :: rest => numberItem chars rest
    | .mark '[' :: rest => (items fuel rest).map fun (found, left) => (.list found, left)
    | .mark '\x7b' :: rest =>
      match skipBlanks rest with
      | .mark '\x7d' :: left => some (.inline [], left)
      | rest => (inlineEntries fuel rest []).map fun (entries, left) => (.inline entries, left)
    | _ => none

/-- The items of an array up to its closing bracket; a comma may follow the last. -/
def items (fuel : Nat) (tokens : List Token) : Option (List Item × List Token) :=
  match fuel with
  | 0 => none
  | fuel + 1 =>
    match skipLines tokens with
    | .mark ']' :: rest => some ([], rest)
    | rest =>
      match value fuel rest with
      | none => none
      | some (item, rest) =>
        match skipLines rest with
        | .mark ']' :: rest => some ([item], rest)
        | .mark ',' :: rest => (items fuel rest).map fun (more, left) => (item :: more, left)
        | _ => none

/-- The entries of an inline table up to its closing brace. -/
def inlineEntries (fuel : Nat) (tokens : List Token) (entries : List (String × Item)) :
    Option (List (String × Item) × List Token) :=
  match fuel with
  | 0 => none
  | fuel + 1 =>
    match takeKeys fuel tokens with
    | none => none
    | some (keys, rest) =>
      match takeMark '=' (skipBlanks rest) with
      | none => none
      | some rest =>
        match value fuel (skipBlanks rest) with
        | none => none
        | some (found, rest) =>
          match found.add? keys entries with
          | none => none
          | some entries =>
            match skipBlanks rest with
            | .mark '\x7d' :: left => some (entries, left)
            | .mark ',' :: rest => inlineEntries fuel (skipBlanks rest) entries
            | _ => none

end

/-! ## Lines -/

/-- A header after its opening bracket: whether it adds to an array of tables, the
keys, and the rest after the line's end. -/
def header (fuel : Nat) (tokens : List Token) : Option (Bool × List String × List Token) := do
  let (isArray, tokens) := match tokens with
    | .mark '[' :: rest => (true, rest)
    | rest => (false, rest)
  let (keys, rest) ← takeKeys fuel (skipBlanks tokens)
  let rest ← takeMark ']' (skipBlanks rest)
  let rest ← if isArray then takeMark ']' rest else some rest
  return (isArray, keys, ← endLine rest)

/-- An entry on a line of its own: the keys, the value, and the rest after the
line's end. -/
def entry (fuel : Nat) (tokens : List Token) : Option (List String × Item × List Token) := do
  let (keys, rest) ← takeKeys fuel tokens
  let rest ← takeMark '=' (skipBlanks rest)
  let (found, rest) ← value fuel (skipBlanks rest)
  return (keys, found, ← endLine rest)

/-- The entries up to the next header, added to those above them. -/
def entryLines : Nat → List (String × Item) → List Token →
    Option (List (String × Item) × List Token)
  | 0, _, _ => none
  | fuel + 1, entries, tokens =>
    match skipLines tokens with
    | [] => some (entries, [])
    | .mark '[' :: rest => some (entries, .mark '[' :: rest)
    | tokens => do
      let (keys, found, rest) ← entry fuel tokens
      entryLines fuel (← found.add? keys entries) rest

/-- The headers with the entries below each. -/
def blocks : Nat → List Token → Option (List Block)
  | fuel + 1, .mark '[' :: rest => do
    let (isArray, keys, rest) ← header fuel rest
    let (entries, rest) ← entryLines fuel [] rest
    return ⟨isArray, keys, entries⟩ :: (← blocks fuel rest)
  | _, [] => some []
  | _, _ => none

/-- The settings of a file.  Every line and every value takes a token, so their number
is fuel enough. -/
def read? (text : String) : Option Tree := do
  let tokens ← tokens? text
  let fuel := 2 * tokens.length + 2
  let (top, rest) ← entryLines fuel [] tokens
  document? top (← blocks fuel rest)

end SpeechProbe.Toml
