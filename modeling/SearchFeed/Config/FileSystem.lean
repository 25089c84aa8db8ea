import SearchFeed.Text.Joined

/-! # File systems

A path leads from the root, or from the directory that the program runs in, name
by name to a place. A point stays where it is, two points lead up, and a link is
followed in place of its name.
-/

namespace SearchFeed

/-- What stands at a place of a file system. -/
inductive FileNode where
  | directory
  | file (octets : List UInt8)
  /-- A file or a directory that the program may not open. -/
  | locked
  /-- A path to go on with. -/
  | link (path : String)
deriving DecidableEq, Repr

/-- A file system, in which a place is given by the names on the way from the root, and the place of
the directory that the program runs in. -/
structure FileSystem where
  node? : List String → Option FileNode
  working : List String

namespace FileSystem

def names (path : String) : List String := (Text.splitAt '/' path.toList).map String.ofList

/-- Where a path begins that is read at a place. -/
def origin (place : List String) (path : String) : List String :=
  if path.toList.head? = some '/' then [] else place

/-- The place that names lead to from another one, where `follow?` goes on behind a link. -/
def walk? (files : FileSystem) (follow? : List String → List String → Option (List String)) :
    List String → List String → Option (List String)
  | place, [] => some place
  | place, name :: rest =>
    if files.node? place ≠ some .directory then none
    else if name = "" ∨ name = "." then files.walk? follow? place rest
    else if name = ".." then files.walk? follow? place.dropLast rest
    else match files.node? (place ++ [name]) with
      | none => none
      | some (.link path) => follow? (origin place path) (names path ++ rest)
      | some _ => files.walk? follow? (place ++ [name]) rest

/-- The place that names lead to from another one, over a limited number of links. -/
def follow? (files : FileSystem) : (links : Nat) → List String → List String →
    Option (List String)
  | 0 => files.walk? fun _ _ => none
  | links + 1 => files.walk? (files.follow? links)

/-- How many links a path may lead over. -/
def linkLimit : Nat := 40

/-- What stands where a path leads. -/
def found? (files : FileSystem) (path : String) : Option FileNode :=
  if path = "" then none
  else (files.follow? linkLimit (origin files.working path) (names path)).bind files.node?

/-- The text of the file at a path, if there is one that the program may open and it holds text. -/
def text? (files : FileSystem) (path : String) : Option String :=
  match files.found? path with
  | some (.file octets) => String.fromUTF8? ⟨octets.toArray⟩
  | _ => none

/-- Whether anything stands where a path leads. -/
def exists? (files : FileSystem) (path : String) : Bool := (files.found? path).isSome

end FileSystem

/-- The file system of a program that runs in a directory of its own, with files at paths that are
read there. -/
def Folder.ofFiles (files : List (String × List UInt8)) : FileSystem :=
  let working := ["home"]
  let placed := files.map fun (path, octets) =>
    (working ++ (FileSystem.names path).filter fun name => name ≠ "" ∧ name ≠ ".", octets)
  { working
    node? := fun place =>
      match placed.lookup place with
      | some octets => some (.file octets)
      | none =>
        if place.isPrefixOf working || placed.any fun file => place.isPrefixOf file.1 then
          some .directory
        else none }

end SearchFeed
