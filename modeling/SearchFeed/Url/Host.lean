import SearchFeed.Url.Address
import SearchFeed.Url.Domain

/-! # Hosts

The host of an address is a numeric address, a domain name or, where the
scheme is not known, an opaque text.
-/

namespace SearchFeed.Url

/-- An eight-part address in brackets, in its one spelling. -/
def readBracketed? (text : List Char) : Option (List Char) :=
  match text with
  | '[' :: rest =>
    if rest.getLast? = some ']' then
      (readEightPart? rest.dropLast).map fun pieces => '[' :: eightPartText pieces ++ [']']
    else none
  | _ => none

/-- The host of a known scheme in its one spelling. -/
def readHost? (text : List Char) : Option (List Char) :=
  if text.head? = some '[' then readBracketed? text
  else do
    let domain ← domainToAscii? (← percentDecode? text)
    if domain.isEmpty then none
    if endsInNumber domain then (readFourPart? domain).map fourPartText
    else some domain

/-- The host of an unknown scheme in its one spelling. -/
def readOpaqueHost? (text : List Char) : Option (List Char) :=
  if text.head? = some '[' then readBracketed? text
  else if text.any fun c => "\x00\t\n\r #/:<>?@[\\]^|".toList.contains c then none
  else some (encodeWith "" text)

end SearchFeed.Url
