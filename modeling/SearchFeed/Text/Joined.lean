/-! # Joined texts

Texts written one after the other with a separator between them, and the parts
of such a text.
-/

namespace SearchFeed.Text

/-- The texts in order, with the separator between any two. -/
def joined (separator : String) : List String → String
  | [] => ""
  | [text] => text
  | text :: rest => text ++ separator ++ joined separator rest

/-- The parts of a text between separators. -/
def splitAt (separator : Char) : List Char → List (List Char)
  | [] => [[]]
  | c :: rest =>
    if c = separator then [] :: splitAt separator rest
    else match splitAt separator rest with
      | [] => [[c]]
      | part :: parts => (c :: part) :: parts

end SearchFeed.Text
