/-! # Punycode

Labels of domain names in the letters, digits and hyphen of ASCII. The other
characters are written, in ascending order, as differences between the states
of a counter that runs through all characters and all places; each difference
is a row of digits whose weights adapt to the differences before.
-/

namespace SearchFeed.Url.Punycode

/-- The character for a digit: `a` to `z`, then `0` to `9`. -/
def digitChar (digit : Nat) : Char :=
  if digit < 26 then Char.ofNat (digit + 97) else Char.ofNat (digit + 22)

/-- The digit that a character stands for. -/
def digitValue? (c : Char) : Option Nat :=
  if 'a' ≤ c ∧ c ≤ 'z' then some (c.toNat - 97)
  else if 'A' ≤ c ∧ c ≤ 'Z' then some (c.toNat - 65)
  else if c.isDigit then some (c.toNat - 22)
  else none

/-- The least digit that does not end a difference at the given position. -/
def threshold (position bias : Nat) : Nat :=
  if position ≤ bias then 1 else if bias + 26 ≤ position then 26 else position - bias

theorem threshold_pos (position bias : Nat) : 1 ≤ threshold position bias := by
  unfold threshold
  split
  · omega
  · split <;> omega

theorem threshold_le (position bias : Nat) : threshold position bias ≤ 26 := by
  unfold threshold
  split
  · omega
  · split <;> omega

/-- Divides a difference until it is small, counting the divisions in steps of 36. -/
def damp (delta steps : Nat) : Nat :=
  if 455 < delta then damp (delta / 35) (steps + 36) else steps + 36 * delta / (delta + 38)
termination_by delta

/-- The bias after a difference, given the number of characters written by then. -/
def adapt (delta count : Nat) (first : Bool) : Nat :=
  let scaled := if first then delta / 700 else delta / 2
  damp (scaled + scaled / count) 0

/-- The digits of a difference. -/
def digits (bias position q : Nat) : List Char :=
  let t := threshold position bias
  if q < t then [digitChar q]
  else digitChar (t + (q - t) % (36 - t)) :: digits bias (position + 36) ((q - t) / (36 - t))
termination_by q
decreasing_by
  have := threshold_pos position bias
  have := threshold_le position bias
  exact Nat.lt_of_le_of_lt (Nat.div_le_self _ _) (by omega)

/-- The state of the counter between two characters. -/
structure State where
  number : Nat := 128
  delta : Nat := 0
  bias : Nat := 72
  written : Nat

/-- Runs the counter through a label once and writes down each place of its next character. -/
def pass (next basic : Nat) : State → List Char → List Char × State
  | state, [] => ([], state)
  | state, c :: rest =>
    if c.toNat < next then pass next basic { state with delta := state.delta + 1 } rest
    else if c.toNat = next then
      let bias := adapt state.delta (state.written + 1) (state.written = basic)
      let (more, final) := pass next basic
        { state with delta := 0, bias, written := state.written + 1 } rest
      (digits state.bias 36 state.delta ++ more, final)
    else pass next basic state rest

/-- Writes the characters of a label from the state of the counter on, in ascending order. -/
def encodeFrom (label : List Char) (basic : Nat) : (fuel : Nat) → State → List Char
  | 0, _ => []
  | fuel + 1, state =>
    match (label.map Char.toNat).filter (state.number ≤ ·) |>.min? with
    | none => []
    | some next =>
      let start := { state with
        delta := state.delta + (next - state.number) * (state.written + 1) }
      let (written, final) := pass next basic start label
      written ++ encodeFrom label basic fuel
        { final with number := next + 1, delta := final.delta + 1 }

/-- A label in the letters, digits and hyphen of ASCII. -/
def encode (label : List Char) : List Char :=
  let basic := label.filter (·.toNat < 128)
  let lead := if basic.isEmpty then [] else basic ++ ['-']
  lead ++ encodeFrom label basic.length (label.length + 1) { written := basic.length }

/-- Reads a difference: its value and what is left. -/
def readDifference (bias : Nat) : (position weight value : Nat) → List Char →
    Option (Nat × List Char)
  | _, _, _, [] => none
  | position, weight, value, c :: rest => do
    let digit ← digitValue? c
    let t := threshold position bias
    let value := value + digit * weight
    if digit < t then some (value, rest)
    else readDifference bias (position + 36) (weight * (36 - t)) value rest

/-- The largest state of the counter. -/
def counterLimit : Nat := 1 <<< 32

/-- Puts in the characters that differences write, one for each difference. -/
def insertFrom : (fuel : Nat) → (number place bias : Nat) → (label digits : List Char) →
    Option (List Char)
  | _, _, _, _, label, [] => some label
  | 0, _, _, _, _, _ => none
  | fuel + 1, number, place, bias, label, digits => do
    let (delta, rest) ← readDifference bias 36 1 0 digits
    let count := label.length + 1
    let state := place + delta
    let bias := adapt delta count (place = 0)
    let number := number + state / count
    if counterLimit ≤ state ∨ !number.isValidChar then none
    let place := state % count
    insertFrom fuel number (place + 1) bias
      (label.take place ++ Char.ofNat number :: label.drop place) rest

/-- The text before the last hyphen, if there is a hyphen, and the text after it. -/
def splitLastHyphen (text : List Char) : List Char × List Char :=
  let tail := (text.reverse.takeWhile (· ≠ '-')).reverse
  (text.take (text.length - tail.length - 1), tail)

/-- The label that a text stands for. -/
def decode? (text : List Char) : Option (List Char) :=
  let (basic, digits) := splitLastHyphen text
  if basic.all (·.toNat < 128) then insertFrom digits.length 128 0 72 basic digits else none

end SearchFeed.Url.Punycode
