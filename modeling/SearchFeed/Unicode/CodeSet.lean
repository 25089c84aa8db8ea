import SearchFeed.Text.Digits
import SearchFeed.Text.Joined

/-! # Sets of code points

A set is kept as ranges in ascending order and written as lines of
hexadecimal numbers: `41-5A` is a range, `5F` a single code point, and
`100-12E/2` every second one of a range.
-/

namespace SearchFeed.Unicode

/-- The number written by hexadecimal digits. -/
def hexNumber (digits : List Char) : Nat := (Text.numberIn? 16 digits).getD 0

/-- The ranges that one word of a table stands for. -/
def readRanges (word : List Char) : List (Nat × Nat) :=
  match Text.splitAt '/' word with
  | [plain] =>
    match Text.splitAt '-' plain with
    | [one] => if one.isEmpty then [] else [(hexNumber one, hexNumber one)]
    | low :: high :: _ => [(hexNumber low, hexNumber high)]
    | [] => []
  | strided :: _ =>
    match Text.splitAt '-' strided with
    | low :: high :: _ =>
      (List.range ((hexNumber high - hexNumber low) / 2 + 1)).map fun i =>
        (hexNumber low + 2 * i, hexNumber low + 2 * i)
    | _ => []
  | [] => []

/-- The highest code point. -/
def lastCode : Nat := 0x10ffff

/-- A range and those after it in ascending order of their starts, where ranges that meet or follow
on each other become one. -/
def coalesce : (first last : Nat) → List (Nat × Nat) → List (Nat × Nat)
  | first, last, [] => [(first, last)]
  | first, last, (start, stop) :: rest =>
    if start ≤ last + 1 then coalesce first (max last stop) rest
    else (first, last) :: coalesce start stop rest

/-- The ranges from a code point on that ascending ranges leave out. -/
def gaps : (start : Nat) → List (Nat × Nat) → List (Nat × Nat)
  | start, [] => if start ≤ lastCode then [(start, lastCode)] else []
  | start, (first, last) :: rest =>
    if start < first then (start, first - 1) :: gaps (last + 1) rest else gaps (last + 1) rest

/-- A set of code points: disjoint closed ranges in ascending order. -/
structure CodeSet where
  ranges : Array (Nat × Nat)
deriving Repr, Inhabited

namespace CodeSet

/-- The set of no code points. -/
def empty : CodeSet := ⟨#[]⟩

/-- The code points from the first to the last. -/
def interval (first last : Nat) : CodeSet := ⟨#[(first, last)]⟩

/-- The code points in some ranges, which may overlap. -/
def ofRanges (ranges : List (Nat × Nat)) : CodeSet :=
  match ranges.mergeSort fun one other => one.1 ≤ other.1 with
  | [] => empty
  | (first, last) :: rest => ⟨(coalesce first last rest).toArray⟩

/-- The members of any of some sets. -/
def union (sets : List CodeSet) : CodeSet := ofRanges (sets.flatMap fun set => set.ranges.toList)

/-- The code points that are no members. -/
def compl (set : CodeSet) : CodeSet := ⟨(gaps 0 set.ranges.toList).toArray⟩

/-- The members of both sets. -/
def inter (first second : CodeSet) : CodeSet := (union [first.compl, second.compl]).compl

/-- The members of the first set that are not in the second. -/
def diff (first second : CodeSet) : CodeSet := first.inter second.compl

/-- The members of exactly one of two sets. -/
def symmDiff (first second : CodeSet) : CodeSet :=
  union [first.diff second, second.diff first]

/-- The set that the words of a table list. -/
def ofWords (words : List (List Char)) : CodeSet := ⟨(words.flatMap readRanges).toArray⟩

/-- The set that the lines of a table list. -/
def ofLines (lines : List String) : CodeSet :=
  ofWords (lines.flatMap fun line => Text.splitAt ' ' line.toList)

/-- Looks for a number between the positions `low` and `high` of ascending ranges. -/
def search (ranges : Array (Nat × Nat)) (n low high : Nat) : Bool :=
  if low < high then
    let middle := (low + high) / 2
    match ranges[middle]? with
    | none => false
    | some (first, last) =>
      if n < first then search ranges n low middle
      else if last < n then search ranges n (middle + 1) high
      else true
  else false
termination_by high - low

/-- Whether the character is a member. -/
def contains (set : CodeSet) (c : Char) : Bool :=
  search set.ranges c.toNat 0 set.ranges.size

/-- Several numbered sets, each written as its decimal number, a colon and its ranges
separated by commas. A set may be written in several pieces. -/
def classesOfLines (lines : List String) : List (Nat × CodeSet) :=
  (lines.flatMap fun line => Text.splitAt ' ' line.toList).map fun word =>
    match Text.splitAt ':' word with
    | number :: members :: _ =>
      (Text.decimal number,
        ofWords (Text.splitAt ',' members))
    | _ => (0, empty)

end CodeSet

end SearchFeed.Unicode
