import SearchFeed.Toml.Draft
import SearchFeed.Toml.Scalar

/-! # Reading configuration files
-/

namespace SearchFeed.Toml

/-- How many lists and inline tables may be nested in each other. -/
def nestingLimit : Nat := 79

/-- The number of parts that a key has to stay below. -/
def keyLimit : Nat := 80

/-- Whether a character may stand in a key without quotes. -/
def isKeyChar (c : Char) : Bool := c.isAlphanum || c = '_' || c = '-'

/-- Reads one part of a key. -/
def readKeyPart? (input : List Char) : Option (String × List Char) :=
  match input with
  | '"' :: rest =>
    (readBasic (rest.length + 1) rest).map fun (key, rest) => (String.ofList key, rest)
  | '\x27' :: rest => (readLiteral rest).map fun (key, rest) => (String.ofList key, rest)
  | _ =>
    let key := input.takeWhile isKeyChar
    if key.isEmpty then none else some (String.ofList key, input.dropWhile isKeyChar)

/-- Reads the parts of a key with points between them. -/
def readKeyParts? : (fuel : Nat) → List Char → Option (List String × List Char)
  | 0, _ => none
  | fuel + 1, input => do
    let (part, rest) ← readKeyPart? (dropSpaces input)
    match dropSpaces rest with
    | '.' :: rest => do
      let (parts, rest) ← readKeyParts? fuel rest
      some (part :: parts, rest)
    | rest => some ([part], rest)

/-- A key: the parts on its way and its last part. -/
structure Key where
  path : List String
  last : String

/-- Reads a key. -/
def readKey? (input : List Char) : Option (Key × List Char) := do
  let (parts, rest) ← readKeyParts? (input.length + 1) input
  let last ← parts.getLast?
  if keyLimit ≤ parts.length then none else some (⟨parts.dropLast, last⟩, rest)

/-- What is left after a comment that runs to the end of the line, if there is one. -/
def dropComment : List Char → List Char
  | '#' :: rest => rest.dropWhile isPlain
  | input => input

/-- What is left after spaces, line ends and comments, all of which end with their line. -/
def dropFiller? : (fuel : Nat) → List Char → Option (List Char)
  | 0, _ => none
  | fuel + 1, input =>
    match dropSpaces input with
    | '#' :: rest => do dropFiller? fuel (← dropLineEnd? (rest.dropWhile isPlain))
    | '\n' :: rest => dropFiller? fuel rest
    | '\r' :: rest => do dropFiller? fuel (← dropLineEnd? ('\r' :: rest))
    | rest => some rest

mutual

/-- Reads a value. The depth says how many lists and tables may still be nested. -/
def readValue? : (fuel depth : Nat) → List Char → Option (Toml × List Char)
  | 0, _, _ => none
  | fuel + 1, depth, input =>
    match input, depth with
    | '[' :: _, 0 => none
    | '\x7b' :: _, 0 => none
    | '[' :: rest, depth + 1 => do
      let rest ← dropFiller? (rest.length + 1) rest
      match rest with
      | ']' :: rest => some (.array [], rest)
      | _ => do
        let (items, rest) ← readItems? fuel depth rest
        some (.array items, rest)
    | '\x7b' :: rest, depth + 1 =>
      match dropSpaces rest with
      | '\x7d' :: rest => some (.table [], rest)
      | rest => do
        let (entries, rest) ← readPairs? fuel depth [] rest
        some (.table (finishEntries entries), rest)
    | _, _ => readScalar? input

/-- Reads the items of a list up to its closing bracket. -/
def readItems? : (fuel depth : Nat) → List Char → Option (List Toml × List Char)
  | 0, _, _ => none
  | fuel + 1, depth, input => do
    let (item, rest) ← readValue? fuel depth input
    match ← dropFiller? (rest.length + 1) rest with
    | ']' :: rest => some ([item], rest)
    | ',' :: rest =>
      match ← dropFiller? (rest.length + 1) rest with
      | ']' :: rest => some ([item], rest)
      | rest => do
        let (items, rest) ← readItems? fuel depth rest
        some (item :: items, rest)
    | _ => none

/-- Reads the pairs of an inline table up to its closing brace. -/
def readPairs? : (fuel depth : Nat) → Entries → List Char → Option (Entries × List Char)
  | 0, _, _, _ => none
  | fuel + 1, depth, entries, input => do
    let (key, rest) ← readKey? input
    let (value, rest) ← readValue? fuel depth (dropSpaces (← expect? '=' rest))
    let entries ← entries.assign key.path key.last value
    match dropSpaces rest with
    | '\x7d' :: rest => some (entries, rest)
    | ',' :: rest => readPairs? fuel depth entries rest
    | _ => none

end

/-- What is left after the rest of a line, which may hold a comment. -/
def dropLine? (input : List Char) : Option (List Char) :=
  match dropComment (dropSpaces input) with
  | [] => some []
  | rest => dropLineEnd? rest

/-- Reads the lines of a file into a draft, given the header in force. -/
def readDraft? : (fuel : Nat) → (header : List String) → Entries → List Char → Option Entries
  | 0, _, _, _ => none
  | fuel + 1, header, draft, input =>
    match dropSpaces input with
    | [] => some draft
    | '#' :: rest => do readDraft? fuel header draft (← dropLine? ('#' :: rest))
    | '\n' :: rest => readDraft? fuel header draft rest
    | '\r' :: rest => do readDraft? fuel header draft (← dropLineEnd? ('\r' :: rest))
    | '[' :: '[' :: rest => do
      let (key, rest) ← readKey? rest
      let rest ← dropLine? (← expect? ']' (← expect? ']' rest))
      let draft ← Entries.modifyAt (Entries.addTable key.last) key.path draft
      readDraft? fuel (key.path ++ [key.last]) draft rest
    | '[' :: rest => do
      let (key, rest) ← readKey? rest
      let rest ← dropLine? (← expect? ']' rest)
      let draft ← Entries.modifyAt (Entries.openTable key.last) key.path draft
      readDraft? fuel (key.path ++ [key.last]) draft rest
    | rest => do
      let (key, rest) ← readKey? rest
      let rest := dropSpaces (← expect? '=' rest)
      let (value, rest) ← readValue? (2 * rest.length + 2) nestingLimit rest
      let rest ← dropLine? rest
      let draft ← Entries.modifyAt (Entries.assign key.path key.last value) header draft
      readDraft? fuel header draft rest

/-- The entries of a configuration file, unless it breaks a rule of the notation. -/
def read? (text : String) : Option (List (String × Toml)) :=
  let input := match text.toList with
    | '\ufeff' :: rest => rest
    | input => input
  (readDraft? (input.length + 1) [] [] input).map finishEntries

end SearchFeed.Toml
