/-! # Substrings

Whether one text occurs in another.
-/

namespace SearchFeed.Text

/-- Whether `part` is somewhere in the text, character by character. -/
def occursIn (part : List Char) : List Char → Bool
  | [] => part.isEmpty
  | c :: rest => part.isPrefixOf (c :: rest) || occursIn part rest

end SearchFeed.Text
