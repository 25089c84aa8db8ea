import SearchFeed.Pattern.Charset

/-! # Room for patterns

A pattern is run by a machine that reads octets. A state of the machine takes a
fixed room, and so does each range of octets that a state accepts and each link
from a state to another one. A set of characters is read by a state for each
range of octets that the characters are written with, where characters that
begin alike share states.
-/

namespace SearchFeed.Pattern

/-- The ranges that the octets of a character lie in, one after the other. -/
abbrev Octets := List (Nat × Nat)

/-- The numbers from the lowest to the highest in base 64, by the ranges of their digits: a first
one, which may be any number, and as many as are to follow. -/
def digitRanges : (tail lowest highest : Nat) → List Octets
  | 0, lowest, highest => [[(lowest, highest)]]
  | tail + 1, lowest, highest =>
    let block := 64 ^ (tail + 1)
    let first := lowest / block
    let last := highest / block
    let within := fun digit lowest highest =>
      (digitRanges tail lowest highest).map ((digit, digit) :: ·)
    if first = last then within first (lowest % block) (highest % block)
    else
      -- A block that is not there as a whole stands on its own.
      let opened := lowest % block ≠ 0
      let closed := highest % block ≠ block - 1
      let start := if opened then first + 1 else first
      let stop := if closed then last - 1 else last
      (if opened then within first (lowest % block) (block - 1) else []) ++
        (if start ≤ stop then [(start, stop) :: List.replicate (tail + 1) (0, 63)] else []) ++
        (if closed then within last 0 (highest % block) else [])

/-- Characters that are written with equally many octets. -/
structure OctetForm where
  first : Nat
  last : Nat
  /-- How many octets follow the first one. -/
  tail : Nat
  /-- What is added to the first digit. -/
  mark : Nat

/-- The forms that characters are written in. -/
def octetForms : List OctetForm :=
  [⟨0, 0x7f, 0, 0⟩, ⟨0x80, 0x7ff, 1, 0xc0⟩, ⟨0x800, 0xd7ff, 2, 0xe0⟩, ⟨0xe000, 0xffff, 2, 0xe0⟩,
   ⟨0x10000, 0x10ffff, 3, 0xf0⟩]

/-- The octets that the digits of a character become. -/
def OctetForm.octets (form : OctetForm) : Octets → Octets
  | [] => []
  | (first, last) :: rest =>
    (first + form.mark, last + form.mark) :: rest.map fun (low, high) => (low + 0x80, high + 0x80)

/-- What follows in the second sequence on the ranges that it begins with as the first one does. -/
def beyond : Octets → Octets → Octets
  | one :: earlier, other :: later => if one = other then beyond earlier later else other :: later
  | _, later => later

/-- How many states read sequences of octets, each of which shares those that it can share with the
one before it. -/
def readingStates : (before : Octets) → List Octets → Nat
  | _, [] => 0
  | before, octets :: rest => (beyond before octets).length + readingStates octets rest

/-- The room of a state. -/
def stateSize : Nat := 32

/-- The room of a range of octets in a state that accepts several. -/
def rangeSize : Nat := 8

/-- The room of a link to one of several states. -/
def linkSize : Nat := 4

namespace Charset

/-- The octets that the members are written with. -/
def octets (set : Charset) : List Octets :=
  set.ranges.toList.flatMap fun (first, last) => octetForms.flatMap fun form =>
    let lowest := max first form.first
    let highest := min last form.last
    if lowest ≤ highest then (digitRanges form.tail lowest highest).map form.octets else []

/-- The room that a set takes. A single character is read by its octets alone, basic characters by
one state for all ranges, and others by what begins and ends their octets besides. -/
def size (set : Charset) : Nat :=
  let states := readingStates [] set.octets
  match set.ranges.toList with
  | [] => stateSize
  | (first, last) :: rest =>
    if first = last ∧ rest.isEmpty then states * stateSize
    else if last < 0x80 ∧ rest.all (·.2 < 0x80) then
      2 * stateSize + (rest.length + 1) * rangeSize
    else (states + 2) * stateSize + set.octets.length * linkSize

end Charset

/-- The room of a state that leads on in two ways. -/
def forkSize : Nat := stateSize + 2 * linkSize

/-- The room of something that takes `size`, so many times one after the other. -/
def copiesSize (count size : Nat) : Nat := if count = 0 then stateSize else count * size

/-- The room of something that takes `size`, over and over. -/
def repeatedSize (least : Nat) (most : Option Nat) (size : Nat) : Nat :=
  match most with
  | none => max least 1 * size + forkSize
  | some most =>
    if least = most then copiesSize least size
    else if most = 1 then size + forkSize + stateSize
    else copiesSize least size + stateSize + (most - least) * (size + forkSize)

/-- The room that every machine takes besides: for what comes before a match, and for the ends of
the match. -/
def frameSize : Nat := 6 * stateSize + 2 * linkSize + rangeSize

end SearchFeed.Pattern
