/-!
# Tokens of TOML

A TOML text as words, strings, marks, blanks, comments and line ends.  A line ends in
a line feed, with or without a carriage return before it.
-/

namespace SpeechProbe.Toml

/-- A piece of a TOML text. -/
inductive Token where
  /-- A run of spaces and tabs. -/
  | blanks (run : List Char)
  | newline
  | comment
  /-- One of the characters that structure a text. -/
  | mark (char : Char)
  /-- A run of letters, digits, dashes and underscores. -/
  | word (chars : List Char)
  | string (value : List Char) (multiline : Bool)
  deriving DecidableEq, Repr

/-- The carriage returns before line feeds are dropped. -/
def joinLines : List Char → List Char
  | '\r' :: '\n' :: rest => '\n' :: joinLines rest
  | c :: rest => c :: joinLines rest
  | [] => []

def isBlank (c : Char) : Bool := c == ' ' || c == '\t'

/-- The characters that structure a text. -/
def isMark (c : Char) : Bool :=
  ['=', '.', ',', ':', '+', '\x7b', '\x7d', '[', ']'].contains c

/-- The characters of bare keys, numbers and dates. -/
def isWordChar (c : Char) : Bool := c.isAlphanum || c == '-' || c == '_'

/-- Tabs and everything from the space on. -/
def isCommentChar (c : Char) : Bool := c == '\t' || 0x20 ≤ c.toNat

/-- The characters a string may hold as they are. -/
def isStringChar (c : Char) : Bool := isCommentChar c && c.toNat != 0x7f

/-! ## Strings -/

/-- The quote of literal strings. -/
def single : Char := '\x27'

/-- The quote of strings with escapes. -/
def double : Char := '"'

/-- Up to two quotes right before the closing ones belong to the text. -/
def extraQuotes (quote : Char) : List Char → List Char × List Char
  | a :: b :: rest =>
    if a = quote then
      if b = quote then ([quote, quote], rest) else ([quote], b :: rest)
    else ([], a :: b :: rest)
  | [a] => if a = quote then ([quote], []) else ([], [a])
  | [] => ([], [])

/-- Whether three quotes in a row begin with the one just read. -/
def closesLines (quote : Char) : List Char → Bool
  | a :: b :: _ => a == quote && b == quote
  | _ => false

/-- The text of a literal string up to its closing quote or quotes. -/
def literalBody (multiline : Bool) : List Char → Option (List Char × List Char)
  | [] => none
  | c :: rest =>
    if c = single ∧ !multiline then some ([], rest)
    else if c = single ∧ closesLines single rest then some (extraQuotes single (rest.drop 2))
    else if isStringChar c ∨ (c = '\n' ∧ multiline) then
      (literalBody multiline rest).map fun (body, left) => (c :: body, left)
    else none

/-- The value of a hexadecimal digit. -/
def hexValue? (c : Char) : Option Nat :=
  if c.isDigit then some (c.toNat - 48)
  else if 'a' ≤ c ∧ c ≤ 'f' then some (c.toNat - 87)
  else if 'A' ≤ c ∧ c ≤ 'F' then some (c.toNat - 55)
  else none

/-- The character whose number is written in hexadecimal digits. -/
def hexChar? (digits : List Char) : Option Char := do
  let values ← digits.mapM hexValue?
  let n := values.foldl (fun n d => 16 * n + d) 0
  if n < 0xd800 ∨ (0xdfff < n ∧ n < 0x110000) then some (Char.ofNat n) else none

/-- The character of a one-letter escape. -/
def escape? : Char → Option Char
  | '"' => some '"'
  | '\\' => some '\\'
  | 'b' => some '\x08'
  | 'f' => some '\x0c'
  | 'n' => some '\n'
  | 'r' => some '\r'
  | 't' => some '\t'
  | _ => none

/-- Whether blanks are being skipped after a backslash at the end of a line. -/
inductive Skipping where
  | no
  /-- Up to the end of the line, which has to come before anything else. -/
  | toLineEnd
  /-- Further blanks and empty lines. -/
  | past
  deriving DecidableEq

/-- The text of a string with escapes up to its closing quote or quotes. -/
def basicBody (multiline : Bool) : Skipping → List Char → Option (List Char × List Char)
  | .toLineEnd, c :: rest =>
    if isBlank c then basicBody multiline .toLineEnd rest
    else if c = '\n' then basicBody multiline .past rest
    else none
  | skipping, c :: rest =>
    if skipping = .past ∧ (isBlank c ∨ c = '\n') then basicBody multiline .past rest
    else if c = double ∧ !multiline then some ([], rest)
    else if c = double ∧ closesLines double rest then some (extraQuotes double (rest.drop 2))
    else if c = '\\' then
      match rest with
      | 'u' :: d₁ :: d₂ :: d₃ :: d₄ :: left =>
        match hexChar? [d₁, d₂, d₃, d₄] with
        | none => none
        | some x => (basicBody multiline .no left).map fun (body, left) => (x :: body, left)
      | 'U' :: d₁ :: d₂ :: d₃ :: d₄ :: d₅ :: d₆ :: d₇ :: d₈ :: left =>
        match hexChar? [d₁, d₂, d₃, d₄, d₅, d₆, d₇, d₈] with
        | none => none
        | some x => (basicBody multiline .no left).map fun (body, left) => (x :: body, left)
      | e :: left =>
        match escape? e with
        | some x => (basicBody multiline .no left).map fun (body, left) => (x :: body, left)
        | none =>
          if !multiline then none
          else if isBlank e then basicBody multiline .toLineEnd left
          else if e = '\n' then basicBody multiline .past left
          else none
      | [] => none
    else if isStringChar c ∨ (c = '\n' ∧ multiline) then
      (basicBody multiline .no rest).map fun (body, left) => (c :: body, left)
    else none
  | _, [] => none

/-- A line feed right after the opening quotes is not part of the text. -/
def dropFirstNewline : List Char → List Char
  | '\n' :: rest => rest
  | chars => chars

/-- A string whose opening quote was just read. -/
def stringToken (quote : Char) (rest : List Char) : Option (Token × List Char) :=
  let body (multiline : Bool) (chars : List Char) : Option (Token × List Char) :=
    let read :=
      if quote = double then basicBody multiline .no chars else literalBody multiline chars
    read.map fun (text, left) => (.string text multiline, left)
  match rest with
  | a :: b :: more =>
    if a = quote then
      if b = quote then body true (dropFirstNewline more) else some (.string [] false, b :: more)
    else body false rest
  | [a] => if a = quote then some (.string [] false, []) else none
  | [] => none

/-! ## Texts -/

/-- The token at the front of a text that is not empty. -/
def firstToken (c : Char) (rest : List Char) : Option (Token × List Char) :=
  if c = '\n' then some (.newline, rest)
  else if isBlank c then some (.blanks (c :: rest.takeWhile isBlank), rest.dropWhile isBlank)
  else if c = '#' then some (.comment, rest.dropWhile isCommentChar)
  else if isMark c then some (.mark c, rest)
  else if c = single ∨ c = double then stringToken c rest
  else if isWordChar c then some (.word (c :: rest.takeWhile isWordChar), rest.dropWhile isWordChar)
  else none

/-- The tokens of a text; every token takes a character. -/
def tokensOf : Nat → List Char → Option (List Token)
  | _, [] => some []
  | 0, _ => none
  | fuel + 1, c :: rest => do
    let (token, left) ← firstToken c rest
    return token :: (← tokensOf fuel left)

/-- The tokens of a file.  A mark of byte order at its start is skipped. -/
def tokens? (text : String) : Option (List Token) :=
  let chars := match text.toList with
    | '\ufeff' :: rest => rest
    | chars => chars
  let chars := joinLines chars
  tokensOf chars.length chars

end SpeechProbe.Toml
