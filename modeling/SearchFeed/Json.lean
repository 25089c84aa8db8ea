import SearchFeed.Decimal.Binary64

/-! # JSON values

A document is a tree of JSON values. Objects keep their members in the order
of insertion, and whole numbers stay apart from doubles, since both can be
read off the text of a document.
-/

namespace SearchFeed

/-- A JSON value. -/
inductive Json where
  | null
  | bool (value : Bool)
  | int (value : Int)
  | double (value : Binary64)
  | string (value : String)
  | array (items : List Json)
  | object (members : List (String × Json))
deriving Repr, Inhabited

namespace Json

/-- The members of an object with the value of `key` set: a key that is already there keeps its
place. -/
def put (key : String) (value : Json) : List (String × Json) → List (String × Json)
  | [] => [(key, value)]
  | (k, v) :: rest => if k = key then (key, value) :: rest else (k, v) :: put key value rest

/-- The value of a member of an object. -/
def get? (key : String) : Json → Option Json
  | .object members => members.lookup key
  | _ => none

/-- A text, or null where there is none. -/
def ofText? : Option String → Json
  | some text => .string text
  | none => .null

/-- A number, or null where there is none. -/
def ofNat? : Option Nat → Json
  | some n => .int n
  | none => .null

/-- An array of texts. -/
def ofTexts (texts : List String) : Json := .array (texts.map .string)

end Json

/-- A document as sent to an index. -/
abbrev Document := Json

end SearchFeed
