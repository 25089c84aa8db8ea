import SearchFeed.Json
import SearchFeed.Text.Digits

/-! # Reading JSON

A reader for the text of one JSON value. Whole numbers stay whole if they fit
into 64 bits; every other number is read as a double, and one too large for a
double is refused. Values nested deeper than a fixed limit are refused as well.
-/

namespace SearchFeed.Json

/-- The greatest whole number of 64 bits. -/
def greatestUnsigned : Nat := (1 <<< 64) - 1

/-- The greatest exponent a number may be written with before it counts as out of range. -/
def greatestExponent : Nat := (1 <<< 31) - 1

/-- How many arrays and objects may stand inside one another. -/
def nestingLimit : Nat := 127

/-- Blanks between the parts of a value. -/
def isGap (c : Char) : Bool := c = ' ' || c = '\t' || c = '\n' || c = '\r'

/-- The text after the blanks at its start. -/
def skipGaps (text : List Char) : List Char := text.dropWhile isGap

/-- Appends digits to a number as long as it stays within 64 bits; says how many were taken. -/
def appendDigits (number : Nat) : List Char → Nat × Nat
  | [] => (number, 0)
  | c :: rest =>
    let longer := number * 10 + Text.decimalDigit c
    if longer ≤ greatestUnsigned then
      let (result, taken) := appendDigits longer rest
      (result, taken + 1)
    else (number, 0)

/-- The digits of an exponent after its sign, as a signed number. -/
def readExponent? (text : List Char) : Option (Bool × Nat × List Char) :=
  let (positive, digits) := match text with
    | '+' :: rest => (true, rest)
    | '-' :: rest => (false, rest)
    | _ => (true, text)
  let written := digits.takeWhile Char.isDigit
  if written.isEmpty then none
  else
    some (positive, Text.decimal written, digits.dropWhile Char.isDigit)

/-- A double from its significant digits, the exponent they imply and the exponent written. -/
def scaledDouble? (negative : Bool) (digits : Nat) (implied : Int) (positive : Bool)
    (written : Nat) : Option Json :=
  if greatestExponent < written then
    if digits ≠ 0 ∧ positive then none
    else some (.double ⟨negative, 0, Binary64.leastExponent⟩)
  else
    (Binary64.ofDecimal? negative digits
      (if positive then implied + written else implied - written)).map .double

/-- The number whose digits before the point, or before its end, have been read; `dropped` counts
the digits that did not fit into 64 bits. -/
def readFraction? (negative : Bool) (number dropped : Nat) (text : List Char) :
    Option (Json × List Char) :=
  let afterFraction (digits : Nat) (implied : Int) (text : List Char) :=
    match text with
    | 'e' :: rest | 'E' :: rest =>
      (readExponent? rest).bind fun (positive, size, rest) =>
        (scaledDouble? negative digits implied positive size).map (·, rest)
    | _ => (Binary64.ofDecimal? negative digits implied).map fun x => (.double x, text)
  match text with
  | '.' :: rest =>
    let fraction := rest.takeWhile Char.isDigit
    if fraction.isEmpty then none
    else
      let (digits, taken) := appendDigits number fraction
      afterFraction digits ((dropped : Int) - taken) (rest.dropWhile Char.isDigit)
  | 'e' :: _ | 'E' :: _ => afterFraction number dropped text
  | _ =>
    if dropped ≠ 0 then afterFraction number dropped text
    else if !negative then some (.int number, text)
    else if number ≠ 0 ∧ number ≤ 1 <<< 63 then some (.int (-number), text)
    else (Binary64.nearest? true number 1).map fun x => (.double x, text)

/-- Reads a number after its sign. A whole part of several digits does not begin with zero. -/
def readNumber? (negative : Bool) (text : List Char) : Option (Json × List Char) :=
  match text.takeWhile Char.isDigit with
  | [] => none
  | first :: others =>
    if first = '0' ∧ !others.isEmpty then none
    else
      let (number, taken) := appendDigits 0 (first :: others)
      readFraction? negative number (others.length + 1 - taken) (text.dropWhile Char.isDigit)

/-- The character that a one-letter escape stands for. -/
def simpleEscape? : Char → Option Char
  | '"' => some '"'
  | '\\' => some '\\'
  | '/' => some '/'
  | 'b' => some '\x08'
  | 'f' => some '\x0c'
  | 'n' => some '\n'
  | 'r' => some '\r'
  | 't' => some '\t'
  | _ => none

/-- Reads the rest of a quoted text; `read` is what has been read of it, in reverse. Half of a
surrogate pair is refused. -/
def readQuoted? (read : List Char) : List Char → Option (String × List Char)
  | [] => none
  | '"' :: rest => some (String.ofList read.reverse, rest)
  | '\\' :: 'u' :: a :: b :: c :: d :: rest =>
    match Text.numberIn? 16 [a, b, c, d] with
    | none => none
    | some unit =>
      if 0xD800 ≤ unit ∧ unit < 0xDC00 then
        match rest with
        | '\\' :: 'u' :: a' :: b' :: c' :: d' :: rest' =>
          match Text.numberIn? 16 [a', b', c', d'] with
          | none => none
          | some low =>
            if 0xDC00 ≤ low ∧ low < 0xE000 then
              let code := 0x10000 + (unit - 0xD800) * 0x400 + (low - 0xDC00)
              readQuoted? (Char.ofNat code :: read) rest'
            else none
        | _ => none
      else if 0xDC00 ≤ unit ∧ unit < 0xE000 then none
      else readQuoted? (Char.ofNat unit :: read) rest
  | '\\' :: c :: rest =>
    match simpleEscape? c with
    | some plain => readQuoted? (plain :: read) rest
    | none => none
  | c :: rest => if c.toNat < 0x20 then none else readQuoted? (c :: read) rest

/-- The text after a given word, if it begins with it. -/
def afterWord? (word : List Char) (text : List Char) : Option (List Char) :=
  if word.isPrefixOf text then some (text.drop word.length) else none

mutual

/-- Reads one value. The depth counts down at every array and object, and the fuel at every
value and separator. -/
def readValue? : (fuel depth : Nat) → List Char → Option (Json × List Char)
  | 0, _, _ => none
  | fuel + 1, depth, text =>
    match skipGaps text with
    | 'n' :: rest => (afterWord? "ull".toList rest).map (.null, ·)
    | 't' :: rest => (afterWord? "rue".toList rest).map (.bool true, ·)
    | 'f' :: rest => (afterWord? "alse".toList rest).map (.bool false, ·)
    | '"' :: rest => (readQuoted? [] rest).map fun (text, rest) => (.string text, rest)
    | '-' :: rest => readNumber? true rest
    | '[' :: rest =>
      if depth = 0 then none
      else match skipGaps rest with
        | ']' :: rest => some (.array [], rest)
        | rest => readItems? fuel (depth - 1) [] rest
    | '{' :: rest =>
      if depth = 0 then none
      else match skipGaps rest with
        | '}' :: rest => some (.object [], rest)
        | rest => readMembers? fuel (depth - 1) [] rest
    | rest => readNumber? false rest

/-- Reads the items of an array up to its end, after the ones in `read`, which are in reverse. -/
def readItems? : (fuel depth : Nat) → (read : List Json) → List Char → Option (Json × List Char)
  | 0, _, _, _ => none
  | fuel + 1, depth, read, text =>
    match readValue? fuel depth text with
    | none => none
    | some (item, rest) =>
      match skipGaps rest with
      | ',' :: rest => readItems? fuel depth (item :: read) rest
      | ']' :: rest => some (.array (item :: read).reverse, rest)
      | _ => none

/-- Reads the members of an object up to its end. A repeated key keeps its first place and takes
the last value. -/
def readMembers? : (fuel depth : Nat) → (read : List (String × Json)) → List Char →
    Option (Json × List Char)
  | 0, _, _, _ => none
  | fuel + 1, depth, read, text =>
    match skipGaps text with
    | '"' :: rest =>
      match readQuoted? [] rest with
      | none => none
      | some (key, rest) =>
        match skipGaps rest with
        | ':' :: rest =>
          match readValue? fuel depth rest with
          | none => none
          | some (value, rest) =>
            match skipGaps rest with
            | ',' :: rest => readMembers? fuel depth (put key value read) rest
            | '}' :: rest => some (.object (put key value read), rest)
            | _ => none
        | _ => none
    | _ => none

end

/-- Reads a text that holds one value and nothing else but blanks. -/
def read? (text : String) : Option Json :=
  let chars := text.toList
  match readValue? (2 * chars.length + 2) nestingLimit chars with
  | some (value, rest) => if (skipGaps rest).isEmpty then some value else none
  | none => none

end SearchFeed.Json
