import SearchFeed.Unicode.CodeSet

/-! # Maps of code points

A map is kept as runs and written as lines of words: `41-5A>61` sends a range
to the range that starts at the number after the arrow, `100-12E/2>101` every
second code point to every second one, and `B5>3BC` a single one.
-/

namespace SearchFeed.Unicode

/-- Code points from `first` to `last` in steps of `stride`, sent to those from `target` on. -/
structure CodeRun where
  first : Nat
  last : Nat
  stride : Nat
  target : Nat
deriving Repr, Inhabited

namespace CodeRun

/-- The number that `n` is sent to, if the run covers it. -/
def image? (run : CodeRun) (n : Nat) : Option Nat :=
  if run.first ≤ n ∧ n ≤ run.last ∧ (n - run.first) % run.stride = 0 then
    some (run.target + (n - run.first))
  else none

/-- The number that is sent to `m`, if the run reaches it. -/
def source? (run : CodeRun) (m : Nat) : Option Nat :=
  if run.target ≤ m ∧ m - run.target ≤ run.last - run.first ∧
      (m - run.target) % run.stride = 0 then
    some (run.first + (m - run.target))
  else none

end CodeRun

/-- The run that one word of a table stands for. -/
def readRun (word : List Char) : Option CodeRun :=
  match Text.splitAt '>' word with
  | source :: target :: _ =>
    let stride := if source.contains '/' then 2 else 1
    match Text.splitAt '-' (source.takeWhile (· ≠ '/')) with
    | [one] => some ⟨hexNumber one, hexNumber one, 1, hexNumber target⟩
    | low :: high :: _ => some ⟨hexNumber low, hexNumber high, stride, hexNumber target⟩
    | [] => none
  | _ => none

/-- A partial map of code points. -/
structure CodeMap where
  runs : List CodeRun
deriving Repr, Inhabited

namespace CodeMap

/-- The map that the lines of a table list. -/
def ofLines (lines : List String) : CodeMap :=
  ⟨(lines.flatMap fun line => Text.splitAt ' ' line.toList).filterMap readRun⟩

/-- What a character is sent to. -/
def get? (map : CodeMap) (c : Char) : Option Char :=
  (map.runs.findSome? fun run => run.image? c.toNat).map Char.ofNat

/-- What a character is sent to, itself if the map does not cover it. -/
def apply (map : CodeMap) (c : Char) : Char := (map.get? c).getD c

/-- The numbers that the map covers, with those that they are sent to. -/
def pairs (map : CodeMap) : List (Nat × Nat) :=
  map.runs.flatMap fun run =>
    (List.range ((run.last - run.first) / run.stride + 1)).map fun i =>
      (run.first + i * run.stride, run.target + i * run.stride)

/-- The characters that are sent to this one. -/
def sources (map : CodeMap) (c : Char) : List Char :=
  map.runs.filterMap fun run => (run.source? c.toNat).map Char.ofNat

/-- Several numbered maps, each written as its hexadecimal number, a colon and its runs
separated by commas. A map may be written in several pieces. -/
def classesOfLines (lines : List String) : List (Nat × CodeMap) :=
  (lines.flatMap fun line => Text.splitAt ' ' line.toList).map fun word =>
    match Text.splitAt ':' word with
    | number :: runs :: _ => (hexNumber number, ⟨(Text.splitAt ',' runs).filterMap readRun⟩)
    | _ => (0, ⟨[]⟩)

end CodeMap

/-- A partial map of code points to several ones each. -/
structure CodeExpansion where
  entries : List (Nat × List Char)
deriving Repr, Inhabited

namespace CodeExpansion

/-- The map that the lines of a table list: the numbers after an arrow are joined by points. -/
def ofLines (lines : List String) : CodeExpansion :=
  ⟨(lines.flatMap fun line => Text.splitAt ' ' line.toList).filterMap fun word =>
    match Text.splitAt '>' word with
    | source :: images :: _ =>
      some (hexNumber source,
        (Text.splitAt '.' images).map fun image => Char.ofNat (hexNumber image))
    | _ => none⟩

/-- What a character is expanded to. -/
def get? (map : CodeExpansion) (c : Char) : Option (List Char) :=
  map.entries.lookup c.toNat

end CodeExpansion

end SearchFeed.Unicode
