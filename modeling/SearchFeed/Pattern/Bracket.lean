import SearchFeed.Pattern.Cursor

/-! # Reading patterns: classes in brackets

A class lists characters, ranges, named classes and further classes, and
combines such lists by operations. Where case is ignored, a class is closed
under case before it is combined or complemented.
-/

namespace SearchFeed.Pattern

/-- A set together with how deeply its spelling is nested. -/
structure ClassPart where
  set : Charset
  depth : Nat := 0

/-- The set, closed under case if the flags ask for it. -/
def Flags.foldSet (flags : Flags) (set : Charset) : Charset :=
  if !flags.ignoreCase then set
  else if flags.unicode then Unicode.anyCase set
  else set.anyAsciiCase

/-- The set, closed under case and complemented on demand. A set of octets has no complement that
is made of characters. -/
def Flags.foldCompl? (flags : Flags) (negated : Bool) (set : Charset) : Option Charset :=
  if negated && !flags.unicode then none else some (Charset.complIf negated (flags.foldSet set))

namespace ClassPart

/-- The part for a single character. -/
def ofChar (c : Char) : ClassPart := { set := .single c }

/-- The parts side by side. -/
def ofList : List ClassPart → ClassPart
  | [] => { set := .none }
  | [part] => part
  | part :: parts =>
    ⟨.union ((part :: parts).map ClassPart.set),
      1 + parts.foldl (fun depth part => max depth part.depth) part.depth⟩

/-- Two parts combined by an operation on sets. -/
def combine (flags : Flags) (operation : Charset → Charset → Charset)
    (first second : ClassPart) : ClassPart :=
  ⟨operation (flags.foldSet first.set) (flags.foldSet second.set),
    1 + max first.depth second.depth⟩

end ClassPart

namespace Atom

/-- The character that an atom stands for at the end of a range. -/
def classChar? (flags : Flags) : Atom → Option Char
  | character c _ => if flags.unicode || c.toNat < 0x80 then some c else none
  | _ => none

/-- The set of a class of digits, blanks or word characters, or of a property. -/
def namedSet? (flags : Flags) : Atom → Option Charset
  | shorthand unicode ascii negated =>
    if flags.unicode then some (Charset.complIf negated unicode)
    else if negated then none
    else some ascii
  | property set negated => if flags.unicode then flags.foldCompl? negated set else none
  | _ => none

/-- The part of a class that an atom stands for. -/
def classPart? (flags : Flags) : Atom → Option ClassPart
  | look _ => none
  | character c octet => ((character c octet).classChar? flags).map ClassPart.ofChar
  | atom => (atom.namedSet? flags).map fun set => { set }

end Atom

/-- Reads a named class after its opening bracket. -/
def readAsciiClass (flags : Flags) (text : List Char) :
    Option (Option ClassPart × List Char) := do
  let ':' :: rest := text | none
  let (negated, rest) := match rest with
    | '^' :: rest => (true, rest)
    | rest => (false, rest)
  let (name, rest) ← splitAtFirst [':'] rest
  let ']' :: rest := rest | none
  let set ← Charset.asciiClass? name
  some ((flags.foldCompl? negated set).map fun set => { set }, rest)

/-- Reads one character or escape of a class. -/
def readClassAtom (flags : Flags) : List Char → Option (Atom × List Char)
  | [] => none
  | '\\' :: rest => readEscape flags rest
  | c :: rest => some (.character c false, rest)

/-- Reads a range or a single part of a class. -/
def readRange (flags : Flags) (text : List Char) : Option (ClassPart × List Char) := do
  let (first, rest) ← readClassAtom flags text
  let rest := flags.pass rest
  let single := (first.classPart? flags).map fun part => (part, rest)
  match rest with
  | [] => none
  | '-' :: after =>
    match flags.pass after with
    | ']' :: _ => single
    | '-' :: _ => single
    | after => do
      let (last, rest) ← readClassAtom flags after
      let low ← first.classChar? flags
      let high ← last.classChar? flags
      if high < low then none
      some ({ set := .range low high }, rest)
  | _ => single

/-- Reads the dashes that a class starts with, each of which stands for itself. -/
def readDashes (flags : Flags) : (fuel : Nat) → List Char → List ClassPart × List Char
  | 0, text => ([], text)
  | fuel + 1, text =>
    match text with
    | '-' :: rest =>
      let (dashes, rest) := readDashes flags fuel (flags.pass rest)
      (.ofChar '-' :: dashes, rest)
    | _ => ([], text)

mutual

/-- Reads a class after its opening bracket. -/
def readClass (flags : Flags) : (fuel : Nat) → List Char → Option (ClassPart × List Char)
  | 0, _ => none
  | fuel + 1, text => do
    let text := flags.pass text
    let (negated, text) := match text with
      | '^' :: rest => (true, flags.pass rest)
      | _ => (false, text)
    let (dashes, text) := readDashes flags (text.length + 1) text
    let (start, text) := match dashes, text with
      | [], ']' :: rest => ([.ofChar ']'], flags.pass rest)
      | _, _ => (dashes, text)
    let (part, rest) ← readParts flags fuel id start text
    let set ← flags.foldCompl? negated part.set
    some (⟨set, part.depth + 1⟩, rest)

/-- Reads the parts of a class up to its closing bracket. What `finish` makes of the parts since
the last operation is the whole class. -/
def readParts (flags : Flags) : (fuel : Nat) → (finish : ClassPart → ClassPart) →
    List ClassPart → List Char → Option (ClassPart × List Char)
  | 0, _, _, _ => none
  | fuel + 1, finish, parts, text =>
    let operate := fun operation rest =>
      let first := finish (.ofList parts)
      readParts flags fuel (ClassPart.combine flags operation first) [] rest
    match flags.pass text with
    | [] => none
    | ']' :: rest => some (finish (.ofList parts), rest)
    | '[' :: rest =>
      match readAsciiClass flags rest with
      | some (part, rest) => do readParts flags fuel finish (parts ++ [← part]) rest
      | none => do
        let (part, rest) ← readClass flags fuel rest
        readParts flags fuel finish (parts ++ [part]) rest
    | '&' :: '&' :: rest => operate Unicode.CodeSet.inter rest
    | '-' :: '-' :: rest => operate Unicode.CodeSet.diff rest
    | '~' :: '~' :: rest => operate Unicode.CodeSet.symmDiff rest
    | text => do
      let (part, rest) ← readRange flags text
      readParts flags fuel finish (parts ++ [part]) rest

end

end SearchFeed.Pattern
