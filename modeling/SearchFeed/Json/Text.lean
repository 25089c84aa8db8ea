import SearchFeed.Json
import SearchFeed.Decimal.Shortest

/-! # The text of a JSON value

Values are written without any blanks. Quotes, backslashes and control
characters are escaped and everything else is written as it is. Doubles are
written with the fewest digits that read back.
-/

namespace SearchFeed.Json

/-- The lower-case hexadecimal digit of a number below sixteen. -/
def hexDigit (n : Nat) : Char := "0123456789abcdef".toList.getD n '0'

/-- A character as it stands inside a quoted text. -/
def escaped (c : Char) : String :=
  if c = '"' then "\\\""
  else if c = '\\' then "\\\\"
  else if c = '\x08' then "\\b"
  else if c = '\x0c' then "\\f"
  else if c = '\n' then "\\n"
  else if c = '\r' then "\\r"
  else if c = '\t' then "\\t"
  else if c.toNat < 0x20 then
    String.ofList ['\\', 'u', '0', '0', hexDigit (c.toNat / 16), hexDigit (c.toNat % 16)]
  else c.toString

/-- A text in quotes. -/
def quoted (text : String) : String :=
  "\"" ++ text.toList.foldl (fun written c => written ++ escaped c) "" ++ "\""

/-- A run of zeros. -/
def zeros (count : Nat) : String := String.ofList (List.replicate count '0')

/-- The text of a positive decimal. The point is written out while it falls within the first
sixteen digits or the first five places after it; a whole number ends in one zero after the
point. Beyond, one digit stands before the point, and a power of ten follows. -/
def decimalText (d : Binary64.Decimal) : String :=
  let digits := (Nat.toDigits 10 d.digits)
  let count := digits.length
  let point : Int := count + d.exponent
  if 0 ≤ d.exponent ∧ point ≤ 16 then String.ofList digits ++ zeros d.exponent.toNat ++ ".0"
  else if 0 < point ∧ point ≤ 16 then
    String.ofList (digits.take point.toNat) ++ "." ++ String.ofList (digits.drop point.toNat)
  else if -5 < point ∧ point ≤ 0 then "0." ++ zeros (-point).toNat ++ String.ofList digits
  else
    let fraction := if count = 1 then "" else "." ++ String.ofList (digits.drop 1)
    String.ofList (digits.take 1) ++ fraction ++ "e" ++ toString (point - 1)

/-- The text of a double. -/
def doubleText (x : Binary64) : String :=
  (if x.negative then "-" else "") ++
    if x.mantissa = 0 then "0.0" else decimalText x.shortest

mutual

/-- The text of a value, without blanks. -/
def compact : Json → String
  | .null => "null"
  | .bool true => "true"
  | .bool false => "false"
  | .int n => toString n
  | .double x => doubleText x
  | .string text => quoted text
  | .array items => "[" ++ compactItems items ++ "]"
  | .object members => "\x7b" ++ compactMembers members ++ "\x7d"

/-- The texts of the items of an array, separated by commas. -/
def compactItems : List Json → String
  | [] => ""
  | [item] => item.compact
  | item :: rest => item.compact ++ "," ++ compactItems rest

/-- The texts of the members of an object, separated by commas. -/
def compactMembers : List (String × Json) → String
  | [] => ""
  | [(key, value)] => quoted key ++ ":" ++ value.compact
  | (key, value) :: rest => quoted key ++ ":" ++ value.compact ++ "," ++ compactMembers rest

end

end SearchFeed.Json
