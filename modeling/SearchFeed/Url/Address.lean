import SearchFeed.Text.Digits
import SearchFeed.Text.Joined

/-! # Numeric addresses

The four-part and the eight-part notation of addresses of machines. A part of
the former may be octal or hexadecimal, and the last one may cover several
places; of the latter, one run of zeros may be left out.
-/

namespace SearchFeed.Url

/-- A part of a four-part address: octal after a zero, hexadecimal after `0x`. -/
def readPart? : List Char → Option Nat
  | [] => none
  | '0' :: 'x' :: digits => Text.numberIn? 16 digits
  | '0' :: 'X' :: digits => Text.numberIn? 16 digits
  | '0' :: c :: digits => Text.numberIn? 8 (c :: digits)
  | digits => Text.numberIn? 10 digits

/-- The labels of a host without the empty one that a final point leaves. -/
def hostLabels (host : List Char) : List (List Char) :=
  let labels := Text.splitAt '.' host
  if labels.length ≠ 1 ∧ labels.getLast? = some [] then labels.dropLast else labels

/-- Whether the last label of a host is a number, so that the host has to be an address. -/
def endsInNumber (host : List Char) : Bool :=
  match (hostLabels host).getLast? with
  | none => false
  | some label => (!label.isEmpty && label.all Char.isDigit) || (readPart? label).isSome

/-- A four-part address as one number: all parts but the last have one octet each. -/
def readFourPart? (host : List Char) : Option Nat := do
  let labels := hostLabels host
  if 4 < labels.length then none
  let numbers ← labels.mapM readPart?
  let last ← numbers.getLast?
  let lead := numbers.dropLast
  if Nat.pow 256 (4 - lead.length) ≤ last ∨ lead.any (255 < ·) then none
  let value := lead.foldl (fun value part => value * 256 + part) 0
  some (value * Nat.pow 256 (4 - lead.length) + last)

/-- A four-part address as it is written. -/
def fourPartText (address : Nat) : List Char :=
  let octet := fun (place : Nat) => (toString (address / Nat.pow 256 place % 256)).toList
  octet 3 ++ '.' :: octet 2 ++ '.' :: octet 1 ++ '.' :: octet 0

/-- Reads up to four hexadecimal digits: their value and what is left. -/
def readPiece : (count value : Nat) → List Char → Nat × List Char
  | 0, value, text => (value, text)
  | _, value, [] => (value, [])
  | count + 1, value, c :: rest =>
    match Text.hexDigit? c with
    | some digit => readPiece count (value * 16 + digit) rest
    | none => (value, c :: rest)

/-- A decimal octet without a leading zero. -/
def readOctet? (text : List Char) : Option Nat :=
  match text with
  | [] => none
  | ['0'] => some 0
  | '0' :: _ => none
  | digits => (Text.numberIn? 10 digits).filter (· < 256)

/-- The two pieces that four decimal octets at the end of an eight-part address stand for. -/
def readTail? (text : List Char) : Option (List Nat) :=
  match (Text.splitAt '.' text).mapM readOctet? with
  | some [a, b, c, d] => some [a * 256 + b, c * 256 + d]
  | _ => none

/-- Reads the pieces of an eight-part address, and where among them pieces are left out. -/
def readPieces : (fuel : Nat) → (pieces : List Nat) → (gap : Option Nat) → List Char →
    Option (List Nat × Option Nat)
  | 0, _, _, _ => none
  | fuel + 1, pieces, gap, text =>
    let count := pieces.length + (if gap.isSome then 1 else 0)
    match text with
    | [] => some (pieces, gap)
    | ':' :: rest =>
      if 8 ≤ count || gap.isSome then none
      else readPieces fuel pieces (some pieces.length) rest
    | text =>
      if 8 ≤ count then none
      else
        let (value, rest) := readPiece 4 0 text
        match rest with
        | [] => some (pieces ++ [value], gap)
        | ':' :: [] => none
        | ':' :: rest => readPieces fuel (pieces ++ [value]) gap rest
        | '.' :: _ =>
          if rest.length = text.length ∨ 6 < count then none
          else (readTail? text).map fun tail => (pieces ++ tail, gap)
        | _ => none

/-- The pieces of an eight-part address. -/
def readEightPart? (text : List Char) : Option (List Nat) := do
  let (pieces, gap) ← match text with
    | ':' :: ':' :: rest => readPieces (text.length + 1) [] (some 0) rest
    | ':' :: _ => none
    | _ => if text.length < 2 then none else readPieces (text.length + 1) [] none text
  match gap with
  | none => if pieces.length = 8 then some pieces else none
  | some place =>
    some (pieces.take place ++ List.replicate (8 - pieces.length) 0 ++ pieces.drop place)

/-- The first of the longest runs of zeros: its place and its length. -/
def longestZeros : (place : Nat) → List Nat → Nat × Nat
  | place, [] => (place, 0)
  | place, piece :: rest =>
    let here := ((piece :: rest).takeWhile (· = 0)).length
    let later := longestZeros (place + 1) rest
    if here < later.2 then later else (place, here)

/-- Pieces in hexadecimal with colons between them. -/
def piecesText (pieces : List Nat) : List Char :=
  ((pieces.map fun piece => Nat.toDigits 16 piece).intersperse [':']).flatten

/-- An eight-part address as it is written, the longest run of two or more zeros left out. -/
def eightPartText (pieces : List Nat) : List Char :=
  let (place, length) := longestZeros 0 pieces
  if length < 2 then piecesText pieces
  else piecesText (pieces.take place) ++ [':', ':'] ++ piecesText (pieces.drop (place + length))

end SearchFeed.Url
