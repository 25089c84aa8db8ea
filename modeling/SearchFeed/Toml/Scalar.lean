import SearchFeed.Decimal.Binary64
import SearchFeed.Text.Digits
import SearchFeed.Toml

/-! # Reading configuration files: texts, numbers and dates
-/

namespace SearchFeed.Toml

/-- Whether a character may stand in a comment or in a text that takes everything literally. -/
def isPlain (c : Char) : Bool := c = '\t' || (0x20 ≤ c.toNat && c.toNat ≠ 0x7f)

/-- Whether the character is a space or a tabulator. -/
def isSpace (c : Char) : Bool := c = ' ' || c = '\t'

/-- What is left after spaces and tabulators. -/
def dropSpaces (input : List Char) : List Char := input.dropWhile isSpace

/-- What is left after a line end, if the text starts with one. -/
def dropLineEnd? : List Char → Option (List Char)
  | '\n' :: rest => some rest
  | '\r' :: '\n' :: rest => some rest
  | _ => none

/-- Reads so many hexadecimal digits as the number of a character. -/
def readCodePoint? (count : Nat) (input : List Char) : Option (Char × List Char) := do
  let digits := input.take count
  if digits.length < count then none
  let value ← Text.numberIn? 16 digits
  let c ← Text.charOfNat? value
  some (c, input.drop count)

/-- Reads what follows a backslash. -/
def readEscape? : List Char → Option (Char × List Char)
  | 'b' :: rest => some ('\x08', rest)
  | 't' :: rest => some ('\t', rest)
  | 'n' :: rest => some ('\n', rest)
  | 'f' :: rest => some ('\x0c', rest)
  | 'r' :: rest => some ('\r', rest)
  | '"' :: rest => some ('"', rest)
  | '\\' :: rest => some ('\\', rest)
  | 'u' :: rest => readCodePoint? 4 rest
  | 'U' :: rest => readCodePoint? 8 rest
  | _ => none

/-- Reads a text up to its closing quote. -/
def readBasic : (fuel : Nat) → List Char → Option (List Char × List Char)
  | 0, _ => none
  | fuel + 1, input =>
    match input with
    | [] => none
    | '"' :: rest => some ([], rest)
    | '\\' :: rest => do
      let (c, rest) ← readEscape? rest
      let (more, rest) ← readBasic fuel rest
      some (c :: more, rest)
    | c :: rest =>
      if !isPlain c then none
      else do
        let (more, rest) ← readBasic fuel rest
        some (c :: more, rest)

/-- Reads a literal text up to its closing quote. -/
def readLiteral : List Char → Option (List Char × List Char)
  | [] => none
  | c :: rest =>
    if c = '\x27' then some ([], rest)
    else if !isPlain c then none
    else do
      let (more, rest) ← readLiteral rest
      some (c :: more, rest)

/-- Splits off the closing quotes of a text of several lines: three, and up to two more that
belong to the text. -/
def closing? (quote : Char) (input : List Char) : Option (List Char × List Char) :=
  let count := (input.takeWhile (· = quote)).length
  if count < 3 then none
  else some (List.replicate (min count 5 - 3) quote, input.drop (min count 5))

/-- What is left after spaces and line ends. -/
def dropBlank (input : List Char) : List Char :=
  match input with
  | [] => []
  | '\r' :: '\n' :: rest => dropBlank rest
  | c :: rest => if isSpace c || c = '\n' then dropBlank rest else c :: rest

/-- Reads a text of several lines up to its closing quotes. -/
def readLines (escapes : Bool) (quote : Char) :
    (fuel : Nat) → List Char → Option (List Char × List Char)
  | 0, _ => none
  | fuel + 1, input =>
    match closing? quote input with
    | some found => some found
    | none =>
      match input with
      | [] => none
      | c :: rest =>
        if escapes && c = '\\' then
          match dropLineEnd? (dropSpaces rest) with
          | some rest => readLines escapes quote fuel (dropBlank rest)
          | none => do
            let (c, rest) ← readEscape? rest
            let (more, rest) ← readLines escapes quote fuel rest
            some (c :: more, rest)
        else match dropLineEnd? input with
          | some rest => do
            let (more, rest) ← readLines escapes quote fuel rest
            some ('\n' :: more, rest)
          | none =>
            if !isPlain c then none
            else do
              let (more, rest) ← readLines escapes quote fuel rest
              some (c :: more, rest)

/-- Reads a text that starts with a quote. -/
def readText? (input : List Char) : Option (String × List Char) := do
  let afterBreak := fun (input : List Char) => (dropLineEnd? input).getD input
  let (found, rest) ← match input with
    | '"' :: '"' :: '"' :: rest => readLines true '"' (rest.length + 1) (afterBreak rest)
    | '\x27' :: '\x27' :: '\x27' :: rest =>
      readLines false '\x27' (rest.length + 1) (afterBreak rest)
    | '"' :: rest => readBasic (rest.length + 1) rest
    | '\x27' :: rest => readLiteral rest
    | _ => none
  some (String.ofList found, rest)

/-- Reads digits of a base with single underscores between them. -/
def readDigits? (base : Nat) (input : List Char) : Option (List Char × List Char) :=
  let rec go : List Char → List Char × List Char
    | '_' :: c :: rest =>
      if (Text.digitIn? base c).isSome then
        let (more, rest) := go rest
        (c :: more, rest)
      else ([], '_' :: c :: rest)
    | c :: rest =>
      if (Text.digitIn? base c).isSome then
        let (more, rest) := go rest
        (c :: more, rest)
      else ([], c :: rest)
    | [] => ([], [])
  match input with
  | c :: rest =>
    if (Text.digitIn? base c).isSome then
      let (more, rest) := go rest
      some (c :: more, rest)
    else none
  | [] => none

/-- Reads a decimal number without needless zeros in front. -/
def readDecimal? : List Char → Option (List Char × List Char)
  | '0' :: rest => some (['0'], rest)
  | other => readDigits? 10 other

/-- The sign of a number, negative or not, and what is left. -/
def readSign : List Char → Bool × List Char
  | '-' :: rest => (true, rest)
  | '+' :: rest => (false, rest)
  | other => (false, other)

/-- Whether decimal digits times a power of ten are below the limit of a double. -/
def fitsDouble (digits : List Char) (exponent : Int) : Bool :=
  let value := Text.decimal digits
  if value = 0 then true
  else if exponent + digits.length < -400 then true
  else if 400 < exponent + (digits.dropWhile (· = '0')).length then false
  else if 0 ≤ exponent then
    (Binary64.nearest? false (value * Nat.pow 10 exponent.toNat) 1).isSome
  else (Binary64.nearest? false value (Nat.pow 10 (-exponent).toNat)).isSome

/-- Reads the exponent of a number. -/
def readExponent? : List Char → Option (Int × List Char)
  | c :: rest =>
    if c = 'e' ∨ c = 'E' then do
      let (negative, rest) := readSign rest
      let (digits, rest) ← readDigits? 10 rest
      let value : Int := Text.decimal digits
      some (if negative then -value else value, rest)
    else none
  | [] => none

/-- Reads a number with a fraction or an exponent. Only a negative one may be too large. -/
def readReal? (input : List Char) : Option (Toml × List Char) := do
  let (negative, rest) := readSign input
  match rest with
  | 'i' :: 'n' :: 'f' :: rest => some (.real, rest)
  | 'n' :: 'a' :: 'n' :: rest => some (.real, rest)
  | _ =>
    let (lead, rest) ← readDecimal? rest
    let (fraction, rest) ← match rest with
      | '.' :: rest => readDigits? 10 rest
      | rest => if (readExponent? rest).isSome then some ([], rest) else none
    let (exponent, rest) := (readExponent? rest).getD (0, rest)
    if negative || fitsDouble (lead ++ fraction) (exponent - fraction.length) then
      some (.real, rest)
    else none

/-- A number of 64 bits with a sign. -/
def whole? (negative : Bool) (value : Nat) : Option Toml :=
  if negative then if value ≤ 1 <<< 63 then some (.whole (-value)) else none
  else if value < 1 <<< 63 then some (.whole value) else none

/-- Reads a whole number. -/
def readWhole? (input : List Char) : Option (Toml × List Char) := do
  let inBase := fun (base : Nat) (input : List Char) => do
    let (digits, rest) ← readDigits? base input
    some (← whole? false (← Text.numberIn? base digits), rest)
  match input with
  | '0' :: 'x' :: rest => inBase 16 rest
  | '0' :: 'o' :: rest => inBase 8 rest
  | '0' :: 'b' :: rest => inBase 2 rest
  | _ =>
    let (negative, rest) := readSign input
    let (digits, rest) ← readDecimal? rest
    some (← whole? negative (Text.decimal digits), rest)

/-- Reads so many digits. -/
def readFixed? (count : Nat) (input : List Char) : Option (Nat × List Char) :=
  let digits := input.take count
  if digits.length = count ∧ digits.all Char.isDigit then
    some (Text.decimal digits, input.drop count)
  else none

/-- What is left after a sign. -/
def expect? (sign : Char) : List Char → Option (List Char)
  | c :: rest => if c = sign then some rest else none
  | [] => none

/-- Reads an hour and a minute. -/
def readMinute? (input : List Char) : Option (List Char) := do
  let (hour, rest) ← readFixed? 2 input
  let (minute, rest) ← readFixed? 2 (← expect? ':' rest)
  if hour < 24 ∧ minute < 60 then some rest else none

/-- Reads a time of day. -/
def readTime? (input : List Char) : Option (List Char) := do
  let (second, rest) ← readFixed? 2 (← expect? ':' (← readMinute? input))
  if 60 < second then none
  match rest with
  | '.' :: fraction =>
    let digits := fraction.takeWhile Char.isDigit
    some (if digits.isEmpty then rest else fraction.drop digits.length)
  | _ => some rest

/-- Reads how far a time is from the common one. -/
def readOffset? : List Char → Option (List Char)
  | 'Z' :: rest => some rest
  | 'z' :: rest => some rest
  | '+' :: rest => readMinute? rest
  | '-' :: rest => readMinute? rest
  | _ => none

/-- The number of days of a month. -/
def daysIn (year month : Nat) : Nat :=
  if month = 2 then if year % 4 = 0 ∧ (year % 100 ≠ 0 ∨ year % 400 = 0) then 29 else 28
  else if month = 4 ∨ month = 6 ∨ month = 9 ∨ month = 11 then 30
  else 31

/-- Reads a day of the calendar. -/
def readDay? (input : List Char) : Option (List Char) := do
  let (year, rest) ← readFixed? 4 input
  let (month, rest) ← readFixed? 2 (← expect? '-' rest)
  let (day, rest) ← readFixed? 2 (← expect? '-' rest)
  if 1 ≤ month ∧ month ≤ 12 ∧ 1 ≤ day ∧ day ≤ daysIn year month then some rest else none

/-- Reads a day, a time of day, or both. -/
def readDate? (input : List Char) : Option (Toml × List Char) :=
  match readDay? input with
  | none => (readTime? input).map fun rest => (.date, rest)
  | some rest =>
    let timed := match rest with
      | c :: after => if c = 'T' ∨ c = 't' ∨ c = ' ' then readTime? after else none
      | [] => none
    match timed with
    | none => some (.date, rest)
    | some after => some (.date, (readOffset? after).getD after)

/-- Reads a word for a truth value or a special number. -/
def readWord? : List Char → Option (Toml × List Char)
  | 't' :: 'r' :: 'u' :: 'e' :: rest => some (.truth true, rest)
  | 'f' :: 'a' :: 'l' :: 's' :: 'e' :: rest => some (.truth false, rest)
  | _ => none

/-- Reads a value that holds no other values. -/
def readScalar? (input : List Char) : Option (Toml × List Char) :=
  match input with
  | [] => none
  | c :: _ =>
    if c = '"' ∨ c = '\x27' then (readText? input).map fun (value, rest) => (.text value, rest)
    else if c = 't' ∨ c = 'f' then readWord? input
    else (readDate? input).orElse fun _ => (readReal? input).orElse fun _ => readWhole? input

end SearchFeed.Toml
