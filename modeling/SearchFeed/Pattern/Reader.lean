import SearchFeed.Pattern.Bracket
import SearchFeed.Pattern.Machine

/-! # Reading patterns

A pattern is a choice of sequences of repeated items. It is refused if it
breaks a rule of its notation, if it is nested too deeply or if it stands for
too large a machine.
-/

namespace SearchFeed.Pattern

/-- A piece of a pattern, with how deeply it is nested and how much room it takes. -/
structure Piece where
  node : Node
  depth : Nat := 0
  size : Nat := 0
  /-- Whether the piece may be followed by a count. -/
  repeatable : Bool := true

namespace Piece

/-- The piece that sets flags and matches nothing. -/
def flags : Piece where
  node := .empty
  repeatable := false

/-- The piece for a character of a set. -/
def ofSet (set : Charset) (depth : Nat := 0) : Piece where
  node := .set set
  depth
  size := set.size

/-- The piece for a condition. -/
def ofLook (condition : Look) : Piece where
  node := .look condition
  size := stateSize

/-- Combines two or more pieces into one, nested one level deeper than the deepest and with some
more room for each of them and for all. -/
def joined (combine : Node → Node → Node) (each all : Nat) : List Piece → Piece
  | [] => { node := .empty, size := stateSize }
  | [piece] => piece
  | piece :: pieces =>
    { node := pieces.foldl (fun node next => combine node next.node) piece.node
      depth := 1 + pieces.foldl (fun depth next => max depth next.depth) piece.depth
      size := all + pieces.foldl (fun size next => size + next.size + each) (piece.size + each) }

/-- The pieces one after the other. -/
def sequence : List Piece → Piece := joined .sequence 0 0

/-- The choice between pieces. -/
def choice : List Piece → Piece := joined .choice linkSize (2 * stateSize)

/-- The piece as a group. Where a group begins and ends is kept if it is captured. -/
def grouped (captured : Bool) (piece : Piece) : Piece :=
  { node := piece.node
    depth := piece.depth + 1
    size := if captured then piece.size + 2 * stateSize else piece.size }

/-- The piece over and over. -/
def repeated? (count : Count) (piece : Piece) : Option Piece :=
  if !piece.repeatable then none
  else some
    { node := .repetition piece.node count.least count.most
      depth := piece.depth + 1
      size := repeatedSize count.least count.most piece.size }

/-- The piece that an atom stands for. -/
def ofAtom? (flags : Flags) : Atom → Option Piece
  | .look condition => some (.ofLook condition)
  | .character c octet =>
    if octet && !flags.unicode && 0x80 ≤ c.toNat then none
    else some (.ofSet (flags.foldSet (.single c)))
  | atom => (atom.namedSet? flags).map (.ofSet ·)

end Piece

/-- The flag that a letter sets or clears. -/
def Flags.set? (flags : Flags) (letter : Char) (on : Bool) : Option Flags :=
  match letter with
  | 'i' => some { flags with ignoreCase := on }
  | 'm' => some { flags with multiLine := on }
  | 's' => some { flags with dotAll := on }
  | 'u' => some { flags with unicode := on }
  | 'x' => some { flags with spaced := on }
  | 'R' => some { flags with crlf := on }
  | 'U' => some flags
  | _ => none

/-- Reads flags up to the sign that ends them, of which no letter may occur twice. -/
def readFlags (flags : Flags) (seen : List Char) (on : Bool) :
    List Char → Option (Flags × List Char × List Char)
  | [] => none
  | c :: rest =>
    if c = ':' ∨ c = ')' then
      if seen.head? = some '-' then none else some (flags, seen, c :: rest)
    else if seen.contains c then none
    else if c = '-' then readFlags flags ('-' :: seen) false rest
    else do readFlags (← flags.set? c on) (c :: seen) on rest

/-- Whether a character may be part of the name of a group. -/
def isNameChar (first : Bool) (c : Char) : Bool :=
  c = '_' || Unicode.NamedProperty.alphabetic.contains c ||
    (!first && (c = '.' || c = '[' || c = ']' || Unicode.NamedProperty.numeric.contains c))

/-- Reads the name of a group up to the bracket that closes it. -/
def readName (text : List Char) : Option (List Char × List Char) := do
  let (name, rest) ← splitAtFirst ['>'] text
  match name with
  | [] => none
  | c :: more =>
    if isNameChar true c && more.all (isNameChar false) then some (name, rest) else none

/-- A pattern in the course of being read: what is left of it, the flags in force and the names of
the groups so far. -/
structure Reading where
  rest : List Char
  flags : Flags
  names : List (List Char)

/-- What an opening parenthesis begins. -/
inductive Opening where
  | group (captured : Bool)
  | flags

namespace Reading

/-- Reads what follows an opening parenthesis up to the content of the group. -/
def opening? (reading : Reading) : Option (Opening × Reading) :=
  let named := fun text => do
    let (name, rest) ← readName text
    if reading.names.contains name then none
    some (Opening.group true, { reading with rest, names := name :: reading.names })
  match reading.flags.pass reading.rest with
  | '?' :: '=' :: _ => none
  | '?' :: '!' :: _ => none
  | '?' :: '<' :: '=' :: _ => none
  | '?' :: '<' :: '!' :: _ => none
  | '?' :: 'P' :: '<' :: rest => named rest
  | '?' :: '<' :: rest => named rest
  | '?' :: rest => do
    let (flags, seen, rest) ← readFlags reading.flags [] true rest
    match rest with
    | ':' :: rest => some (.group false, { reading with rest, flags })
    | ')' :: rest => if seen.isEmpty then none else some (.flags, { reading with rest, flags })
    | _ => none
  | rest => some (.group true, { reading with rest })

/-- Reads a count, if there is one, and gives the piece before it. -/
def repeated? (reading : Reading) (count : Count) (pieces : List Piece) (rest : List Char) :
    Option (List Piece × Reading) :=
  match pieces with
  | [] => none
  | piece :: earlier => do
    let piece ← piece.repeated? count
    let rest := match rest with
      | '?' :: rest => rest
      | _ => rest
    some (piece :: earlier, { reading with rest })

/-- Reads an item other than a group: a class, a count for the item before it, or an atom. The
pieces so far are given last first. -/
def item? (reading : Reading) (pieces : List Piece) : Option (List Piece × Reading) :=
  let flags := reading.flags
  let read := fun (piece : Piece) (rest : List Char) =>
    some (piece :: pieces, { reading with rest })
  match reading.rest with
  | [] => none
  | '[' :: rest => do
    let (part, rest) ← readClass flags (2 * rest.length + 2) rest
    read (.ofSet part.set part.depth) rest
  | '?' :: rest => reading.repeated? ⟨0, some 1⟩ pieces rest
  | '*' :: rest => reading.repeated? ⟨0, none⟩ pieces rest
  | '+' :: rest => reading.repeated? ⟨1, none⟩ pieces rest
  | '\x7b' :: rest => do
    let (count, rest) ← readCount flags rest
    reading.repeated? count pieces (flags.pass rest)
  | '.' :: rest =>
    if !flags.unicode then none
    else if flags.dotAll then read (.ofSet .any) rest
    else if flags.crlf then read (.ofSet (Charset.ofText "\r\n").compl) rest
    else read (.ofSet (Charset.single '\n').compl) rest
  | '^' :: rest =>
    read (.ofLook (if !flags.multiLine then .textStart
      else if flags.crlf then .crlfLineStart else .lineStart)) rest
  | '$' :: rest =>
    read (.ofLook (if !flags.multiLine then .textEnd
      else if flags.crlf then .crlfLineEnd else .lineEnd)) rest
  | text => do
    let (atom, rest) ← readClassAtom flags text
    read (← Piece.ofAtom? flags atom) rest

end Reading

/-- Reads a choice of sequences up to the parenthesis that closes it or to the end of the text.
The branches and the pieces of the last branch so far are given last first. -/
def readChoice : (fuel : Nat) → (branches pieces : List Piece) → Reading →
    Option (Piece × Reading)
  | 0, _, _, _ => none
  | fuel + 1, branches, pieces, reading =>
    let reading := { reading with rest := reading.flags.pass reading.rest }
    let branch := Piece.sequence pieces.reverse
    let finished := some (Piece.choice (branch :: branches).reverse, reading)
    match reading.rest with
    | [] => finished
    | ')' :: _ => finished
    | '|' :: rest => readChoice fuel (branch :: branches) [] { reading with rest }
    | '(' :: rest => do
      let (opening, inner) ← Reading.opening? { reading with rest }
      match opening with
      | .flags => readChoice fuel branches (Piece.flags :: pieces) inner
      | .group captured => do
        let (piece, after) ← readChoice fuel [] [] inner
        match after.rest with
        | ')' :: rest =>
          readChoice fuel branches (piece.grouped captured :: pieces)
            { after with rest, flags := reading.flags }
        | _ => none
    | _ => do
      let (pieces, reading) ← reading.item? pieces
      readChoice fuel branches pieces reading

/-- How deeply a pattern may be nested. -/
def depthLimit : Nat := 250

/-- How much room a pattern may take. -/
def sizeLimit : Nat := 10 <<< 20

end SearchFeed.Pattern

namespace SearchFeed

/-- The pattern that a text spells, if it spells one. -/
def Pattern.ofText? (ignoreCase : Bool) (text : String) : Option Pattern := do
  let characters := text.toList
  let flags : Pattern.Flags := { ignoreCase }
  let (piece, reading) ←
    Pattern.readChoice (characters.length + 1) [] [] ⟨characters, flags, []⟩
  let size := piece.size + Pattern.frameSize
  if reading.rest.isEmpty && piece.depth ≤ Pattern.depthLimit && size ≤ Pattern.sizeLimit then
    some ⟨piece.node⟩
  else none

end SearchFeed
