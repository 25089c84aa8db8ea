import SearchFeed.Unicode.Property

/-! # Quoted texts in log fields

A text in quotes that shows what cannot be seen: control characters, marks
without a base, blanks other than the space and code points without a
character are written as their numbers.
-/

namespace SearchFeed.Text

/-- Whether the character shows as itself. -/
def isVisible (c : Char) : Bool :=
  c == ' ' ||
    !(Unicode.hasCategory
        [.control, .format, .privateUse, .spaceSeparator, .lineSeparator, .paragraphSeparator] c) &&
      Unicode.isAssigned c

/-- A character as it stands inside the quotes. -/
def shown (c : Char) : String :=
  if c = '"' then "\\\""
  else if c = '\\' then "\\\\"
  else if c = '\n' then "\\n"
  else if c = '\r' then "\\r"
  else if c = '\t' then "\\t"
  else if c = '\x00' then "\\0"
  else if c.val < 0x7f && 0x20 ≤ c.val then c.toString
  else if Unicode.isGraphemeExtend c || !isVisible c then
    "\\u\x7b" ++ String.ofList (Nat.toDigits 16 c.toNat) ++ "\x7d"
  else c.toString

/-- A text in quotes with everything invisible written out. -/
def quoteVisibly (text : String) : String :=
  "\"" ++ text.toList.foldl (fun written c => written ++ shown c) "" ++ "\""

end SearchFeed.Text
