import SearchFeed.Pattern.Charset

/-! # Matching

A pattern is matched by the set of places of a text that it can end at, given
the set of places it may start at. A set of places is a number whose bits are
the places it holds, so that every pattern is matched from all starts at once.
On one text a pattern becomes a route: each of its sets and conditions is
looked up once and replaced by the places where it holds.
-/

namespace SearchFeed.Pattern

/-- Conditions on a place of a text, by the characters before and after it. -/
inductive Look where
  | textStart
  | textEnd
  | lineStart
  | lineEnd
  /-- Lines that end with a carriage return, a line feed, or both. -/
  | crlfLineStart
  | crlfLineEnd
  | boundary (word : Charset)
  | notBoundary (word : Charset)
  | wordStart (word : Charset)
  | wordEnd (word : Charset)
  | wordStartHalf (word : Charset)
  | wordEndHalf (word : Charset)

namespace Look

/-- Whether the condition is met between two characters, each absent at the end of the text. -/
def holds (before after : Option Char) : Look → Bool
  | textStart => before.isNone
  | textEnd => after.isNone
  | lineStart => before.isNone || before = some '\n'
  | lineEnd => after.isNone || after = some '\n'
  | crlfLineStart =>
    before.isNone || before = some '\n' || (before = some '\r' && after ≠ some '\n')
  | crlfLineEnd =>
    after.isNone || after = some '\r' || (after = some '\n' && before ≠ some '\r')
  | boundary word => before.any word.contains != after.any word.contains
  | notBoundary word => before.any word.contains == after.any word.contains
  | wordStart word => !before.any word.contains && after.any word.contains
  | wordEnd word => before.any word.contains && !after.any word.contains
  | wordStartHalf word => !before.any word.contains
  | wordEndHalf word => !after.any word.contains

end Look

/-- A pattern without its spelling. -/
inductive Node where
  | empty
  | set (members : Charset)
  | look (condition : Look)
  | sequence (first second : Node)
  | choice (first second : Node)
  /-- The body over and over, as often as these numbers allow. -/
  | repetition (body : Node) (least : Nat) (most : Option Nat)

/-- Whether a condition is met between each two neighbours, as a set of places from `place` on. -/
def lookPlaces (condition : Look) : (before : Option Char) → (place : Nat) → List Char → Nat
  | before, place, [] => if condition.holds before none then 1 <<< place else 0
  | before, place, c :: rest =>
    (if condition.holds before (some c) then 1 <<< place else 0) |||
      lookPlaces condition (some c) (place + 1) rest

/-- The places right before a member of the set, counted from `place` on. -/
def setPlaces (members : Charset) : (place : Nat) → List Char → Nat
  | _, [] => 0
  | place, c :: rest =>
    (if members.contains c then 1 <<< place else 0) ||| setPlaces members (place + 1) rest

/-- Applies a step `count` times, or until it changes nothing any more. -/
def iterate (step : Nat → Nat) : (count : Nat) → Nat → Nat
  | 0, places => places
  | count + 1, places =>
    let next := step places
    if next = places then places else iterate step count next

/-- All places reached by at most `count` steps, given those `reached` and those reached `newly`. -/
def closure (step : Nat → Nat) : (count : Nat) → (reached newly : Nat) → Nat
  | 0, reached, _ => reached
  | count + 1, reached, newly =>
    let next := step newly
    let more := (reached ||| next) ^^^ reached
    if more = 0 then reached else closure step count (reached ||| more) more

/-- A pattern on one text. -/
inductive Route where
  /-- Stays, where it is at one of these places. -/
  | stay (places : Nat)
  /-- Moves on by one character, where it is at one of these places. -/
  | advance (places : Nat)
  | sequence (first second : Route)
  | choice (first second : Route)
  | repetition (body : Route) (least : Nat) (most : Option Nat)

/-- The route that a pattern becomes on a text. -/
def Node.onText (text : List Char) : Node → Route
  | .empty => .stay ((1 <<< (text.length + 1)) - 1)
  | .set members => .advance (setPlaces members 0 text)
  | .look condition => .stay (lookPlaces condition none 0 text)
  | .sequence first second => .sequence (first.onText text) (second.onText text)
  | .choice first second => .choice (first.onText text) (second.onText text)
  | .repetition body least most => .repetition (body.onText text) least most

/-- The places at which a route can end that starts at one of the given places.

No more than `enough` repetitions, one for each place of the text, lead anywhere new: of more than
that, one at least consumes nothing and may as well be taken again. -/
def Route.ends (enough : Nat) : Route → Nat → Nat
  | stay members, places => places &&& members
  | advance members, places => (places &&& members) <<< 1
  | sequence first second, places => second.ends enough (first.ends enough places)
  | choice first second, places => first.ends enough places ||| second.ends enough places
  | repetition body least most, places =>
    let start := iterate (body.ends enough) (min least enough) places
    let further := (most.map fun most => min (most - least) enough).getD enough
    closure (body.ends enough) further start start

end SearchFeed.Pattern

namespace SearchFeed

/-- A pattern that texts can be searched for. -/
structure Pattern where
  root : Pattern.Node

/-- Whether the pattern matches some part of the text. -/
def Pattern.occursIn (pattern : Pattern) (text : String) : Bool :=
  let characters := text.toList
  (pattern.root.onText characters).ends (characters.length + 1)
    ((1 <<< (characters.length + 1)) - 1) ≠ 0

end SearchFeed
