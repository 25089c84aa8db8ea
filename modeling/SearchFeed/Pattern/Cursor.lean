import SearchFeed.Pattern.Match
import SearchFeed.Text.Blank
import SearchFeed.Text.Digits
import SearchFeed.Text.Whole

/-! # Reading patterns: the small parts

What is left of a pattern, the flags in force, and the parts of a pattern that
stand for a single place of a text: escapes, property names and counts.
-/

namespace SearchFeed.Pattern

/-- What a pattern is read with. -/
structure Flags where
  ignoreCase : Bool := false
  multiLine : Bool := false
  dotAll : Bool := false
  unicode : Bool := true
  spaced : Bool := false
  crlf : Bool := false

/-- Whether a character counts as a word character under the flags. -/
def Flags.word (flags : Flags) : Charset :=
  if flags.unicode then Unicode.NamedProperty.word else Charset.asciiWord

/-- A text without the blanks and comments that it starts with. -/
def dropSpacing : (inComment : Bool) → List Char → List Char
  | _, [] => []
  | true, c :: rest => dropSpacing (c ≠ '\n') rest
  | false, c :: rest =>
    if Text.isBlank c then dropSpacing false rest
    else if c = '#' then dropSpacing true rest
    else c :: rest

/-- What is left of a text where blanks and comments are passed over on demand. -/
def Flags.pass (flags : Flags) (text : List Char) : List Char :=
  if flags.spaced then dropSpacing false text else text

/-- A single place of a pattern. -/
inductive Atom where
  /-- A character. It is an octet if it was given by two hexadecimal digits. -/
  | character (c : Char) (octet : Bool)
  | look (condition : Look)
  /-- A class of digits, blanks or word characters. -/
  | shorthand (unicode ascii : Charset) (negated : Bool)
  /-- The characters with a property. -/
  | property (set : Charset) (negated : Bool)

/-- Reads so many hexadecimal digits, with what is passed over between them. -/
def readDigits (flags : Flags) : (count value : Nat) → List Char → Option (Nat × List Char)
  | 0, value, text => some (value, text)
  | count + 1, value, text =>
    match text with
    | [] => none
    | c :: rest => do
      let digit ← Text.hexDigit? c
      readDigits flags count (value * 16 + digit) (flags.pass rest)

/-- Reads what stands before a closing brace, with what is passed over left out. -/
def readBraced (flags : Flags) : (fuel : Nat) → List Char → Option (List Char × List Char)
  | 0, _ => none
  | fuel + 1, text =>
    match flags.pass text with
    | [] => none
    | '\x7d' :: rest => some ([], rest)
    | c :: rest => do
      let (more, rest) ← readBraced flags fuel rest
      some (c :: more, rest)

/-- Reads the number of a character after the letter that says how many digits it has. -/
def readHex (flags : Flags) (count : Nat) (text : List Char) : Option (Atom × List Char) :=
  match flags.pass text with
  | '\x7b' :: rest => do
    let (digits, rest) ← readBraced flags (rest.length + 1) rest
    if digits.isEmpty then none
    let c ← Text.charOfNat? (← Text.numberIn? 16 digits)
    some (.character c false, flags.pass rest)
  | text => do
    let (value, rest) ← readDigits flags count 0 text
    let c ← Text.charOfNat? value
    some (.character c (count = 2), rest)

/-- The text before and after the first place where two texts meet the given separator. -/
def splitAtFirst (separator : List Char) : List Char → Option (List Char × List Char)
  | [] => none
  | c :: rest =>
    if separator.isPrefixOf (c :: rest) then some ([], (c :: rest).drop separator.length)
    else (splitAtFirst separator rest).map fun (before, after) => (c :: before, after)

/-- Reads the name of a property. -/
def readProperty (flags : Flags) (negated : Bool) (text : List Char) :
    Option (Atom × List Char) :=
  match flags.pass text with
  | [] => none
  | '\x7b' :: rest => do
    let (name, rest) ← readBraced flags (rest.length + 1) rest
    let halves := ((splitAtFirst ['!', '='] name).orElse fun _ =>
      (splitAtFirst [':'] name).orElse fun _ => splitAtFirst ['='] name)
    let set ← match halves with
      | some (property, value) => propertyValue? property value
      | none => propertyNamed? name
    some (.property set negated, rest)
  | c :: rest => do
    if c = '\\' then none
    let set ← propertyNamed? [c]
    some (.property set negated, flags.pass rest)

/-- Reads the name of a boundary between braces. There is none if the brace starts a count. -/
def readBoundary (flags : Flags) (text : List Char) : Option (Look × List Char) :=
  let isNamed := fun c => c.isAlpha || c = '-'
  match text with
  | '\x7b' :: rest =>
    match flags.pass rest with
    | [] => none
    | c :: _ =>
      if isNamed c then do
        let (name, rest) ← readBraced flags (rest.length + 1) rest
        let condition ← match String.ofList name with
          | "start" => some (Look.wordStart flags.word)
          | "end" => some (Look.wordEnd flags.word)
          | "start-half" => some (Look.wordStartHalf flags.word)
          | "end-half" => some (Look.wordEndHalf flags.word)
          | _ => none
        some (condition, rest)
      else some (.boundary flags.word, text)
  | _ => some (.boundary flags.word, text)

/-- Reads what follows a backslash. -/
def readEscape (flags : Flags) : List Char → Option (Atom × List Char)
  | [] => none
  | c :: rest =>
    let plain := fun (d : Char) => some (Atom.character d false, rest)
    let look := fun (condition : Look) => some (Atom.look condition, rest)
    match c with
    | 'x' => readHex flags 2 rest
    | 'u' => readHex flags 4 rest
    | 'U' => readHex flags 8 rest
    | 'p' => readProperty flags false rest
    | 'P' => readProperty flags true rest
    | 'd' => some (.shorthand Charset.digit Charset.asciiDigit false, rest)
    | 'D' => some (.shorthand Charset.digit Charset.asciiDigit true, rest)
    | 's' => some (.shorthand Unicode.NamedProperty.whiteSpace Charset.asciiSpace false, rest)
    | 'S' => some (.shorthand Unicode.NamedProperty.whiteSpace Charset.asciiSpace true, rest)
    | 'w' => some (.shorthand Unicode.NamedProperty.word Charset.asciiWord false, rest)
    | 'W' => some (.shorthand Unicode.NamedProperty.word Charset.asciiWord true, rest)
    | 'a' => plain '\x07'
    | 'f' => plain '\x0c'
    | 't' => plain '\t'
    | 'n' => plain '\n'
    | 'r' => plain '\r'
    | 'v' => plain '\x0b'
    | 'A' => look .textStart
    | 'z' => look .textEnd
    | 'b' => (readBoundary flags rest).map fun (condition, rest) => (.look condition, rest)
    | 'B' => look (.notBoundary flags.word)
    | '<' => look (.wordStart flags.word)
    | '>' => look (.wordEnd flags.word)
    | _ => if c.toNat < 0x80 ∧ !c.isAlphanum then plain c else none

/-- Reads decimal digits that may have blanks around them. There may be none. -/
def readNumber (flags : Flags) (text : List Char) : List Char × List Char :=
  let start := text.dropWhile Text.isBlank
  let rec digits : (fuel : Nat) → List Char → List Char × List Char
    | 0, text => ([], text)
    | fuel + 1, text =>
      match text with
      | c :: rest =>
        if c.isDigit then
          let (more, rest) := digits fuel (flags.pass rest)
          (c :: more, rest)
        else ([], text)
      | [] => ([], [])
  let (found, rest) := digits (start.length + 1) start
  match rest with
  | c :: _ =>
    if Text.isBlank c then (found, flags.pass (rest.dropWhile Text.isBlank)) else (found, rest)
  | [] => (found, [])

/-- How often something may be repeated. -/
structure Count where
  least : Nat
  most : Option Nat

/-- The number that digits write, if there are any and it has at most 32 bits. -/
def countOf? (digits : List Char) : Option Nat :=
  match Text.readWhole (String.ofList digits) with
  | .ok n => if n < 1 <<< 32 then some n else none
  | .error _ => none

/-- Reads a count after its opening brace. -/
def readCount (flags : Flags) (text : List Char) : Option (Count × List Char) := do
  let (first, rest) := readNumber flags (flags.pass text)
  match rest with
  | '\x7d' :: rest =>
    let n ← countOf? first
    some (⟨n, some n⟩, rest)
  | ',' :: rest =>
    let least ← countOf? first
    match flags.pass rest with
    | '\x7d' :: rest => some (⟨least, none⟩, rest)
    | rest =>
      let (second, rest) := readNumber flags rest
      let most ← countOf? second
      if most < least then none
      match rest with
      | '\x7d' :: rest => some (⟨least, some most⟩, rest)
      | _ => none
  | _ => none

end SearchFeed.Pattern
