import SearchFeed.Text.Digits

/-! # Whole numbers as text

Reading an unsigned number that has to fit into 64 bits. A plus sign may stand
in front; everything else has to be a decimal digit.
-/

namespace SearchFeed.Text

/-- Why a text is not an unsigned number of 64 bits. -/
inductive WholeError where
  | empty
  | invalidDigit
  | tooLarge
deriving DecidableEq, Repr

namespace WholeError

/-- The error as told to the user. -/
def message : WholeError → String
  | .empty => "cannot parse integer from empty string"
  | .invalidDigit => "invalid digit found in string"
  | .tooLarge => "number too large to fit in target type"

end WholeError

/-- The first number that does not fit into 64 bits. -/
def wholeLimit : Nat := 1 <<< 64

/-- Reads the digits after a number. The first character at fault decides the error. -/
def readDigits (number : Nat) : List Char → Except WholeError Nat
  | [] => .ok number
  | c :: rest =>
    if !c.isDigit then .error .invalidDigit
    else
      let longer := number * 10 + decimalDigit c
      if longer < wholeLimit then readDigits longer rest else .error .tooLarge

/-- Reads an unsigned number of 64 bits. -/
def readWhole (text : String) : Except WholeError Nat :=
  match text.toList with
  | [] => .error .empty
  | ['+'] => .error .invalidDigit
  | '+' :: digits => readDigits 0 digits
  | digits => readDigits 0 digits

/-- Reads a truth value; only the two plain words are known. -/
def readTruth? (text : String) : Option Bool :=
  if text = "true" then some true else if text = "false" then some false else none

end SearchFeed.Text
