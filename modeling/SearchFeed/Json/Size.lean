import SearchFeed.Json

/-! # Estimated size

A coarse measure of the text of a document, cheap enough to take for every
document that is exported. Separators between siblings are left out and every
number counts the same, so it serves as a soft limit only.
-/

namespace SearchFeed.Json

/-- The estimated size of a quoted text: its bytes and the quotes. -/
def quotedSize (text : String) : Nat := text.utf8ByteSize + 2

mutual

/-- The estimated size of a document in bytes. -/
def estimate : Json → Nat
  | .null => 4
  | .bool _ => 5
  | .int _ => 20
  | .double _ => 20
  | .string text => quotedSize text
  | .array items => 2 + estimateItems items
  | .object members => 2 + estimateMembers members

/-- The estimated size of the items of an array. -/
def estimateItems : List Json → Nat
  | [] => 0
  | item :: rest => item.estimate + estimateItems rest

/-- The estimated size of the members of an object. -/
def estimateMembers : List (String × Json) → Nat
  | [] => 0
  | (key, value) :: rest => 3 + quotedSize key + value.estimate + estimateMembers rest

end

end SearchFeed.Json
