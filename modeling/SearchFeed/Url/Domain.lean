import SearchFeed.Unicode.Composition
import SearchFeed.Unicode.Direction
import SearchFeed.Unicode.DomainMapping
import SearchFeed.Unicode.Joining
import SearchFeed.Unicode.Property
import SearchFeed.Url.Percent
import SearchFeed.Url.Punycode

/-! # Domain names

A domain name in the characters of any script is mapped to one spelling and
then to ASCII, label by label. It is refused if a label could be mistaken for
something else.
-/

namespace SearchFeed.Url

/-- The characters of a domain name after mapping, unless one of them is refused. -/
def mapDomain? (text : List Char) : Option (List Char) := do
  let mapped ← text.mapM fun c =>
    match Unicode.domainStatus c with
    | .kept => some [c]
    | .replaced chars => some chars
    | .dropped => some []
    | .refused => none
  some (Unicode.composed mapped.flatten)

/-- Whether a character may not be part of a domain name. -/
def isForbidden (c : Char) : Bool :=
  c.toNat ≤ 0x20 || c.toNat = 0x7f || "%#/:<>?@[\\]^|".toList.contains c

/-- Whether the joiners of a label stand where they have a meaning: after a sign that makes them
visible or, for the non-joiner, between letters that would join. The characters before the place
are given nearest first. -/
def joinersFit : (before : List Char) → List Char → Bool
  | _, [] => true
  | before, c :: rest =>
    let afterVirama := match before with
      | [] => false
      | d :: _ => Unicode.combiningClass d = 9
    let fits :=
      if c = '\u200d' then afterVirama
      else if c = '\u200c' then
        afterVirama || (Unicode.joinsForward before && Unicode.joinsBackward rest)
      else true
    fits && joinersFit (c :: before) rest

/-- The text that marks a label as encoded. -/
def encodedMark : List Char := "xn--".toList

/-- A label: as it is read, and as it is written in ASCII. -/
structure Label where
  shown : List Char
  ascii : List Char

/-- The two forms of a label after mapping. -/
def readLabel? (label : List Char) : Option Label :=
  if encodedMark.isPrefixOf label then do
    let shown ← Punycode.decode? (label.drop encodedMark.length)
    let kept := shown.all fun c => Unicode.domainStatus c = .kept
    if shown.all (·.toNat < 128) || !kept || Unicode.composed shown ≠ shown then none
    else some ⟨shown, label⟩
  else if label.all (·.toNat < 128) then some ⟨label, label⟩
  else some ⟨label, encodedMark ++ Punycode.encode label⟩

/-- Whether a label is well formed by itself. -/
def Label.isValid (label : Label) : Bool :=
  !label.ascii.any isForbidden && !label.shown.any isForbidden && joinersFit [] label.shown &&
    !(label.shown.head?.any (Unicode.hasCategory Unicode.marks))

/-- A domain name in ASCII. -/
def domainToAscii? (text : List Char) : Option (List Char) := do
  let mapped ← mapDomain? text
  let labels ← (Text.splitAt '.' mapped).mapM readLabel?
  let bothWays := labels.any fun label => label.shown.any Unicode.isRightToLeft
  if labels.all fun label => label.isValid && (!bothWays || Unicode.readsOneWay label.shown) then
    some ((labels.map Label.ascii).intersperse ['.']).flatten
  else none

end SearchFeed.Url
