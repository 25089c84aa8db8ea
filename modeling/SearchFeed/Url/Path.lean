import SearchFeed.Text.Joined
import SearchFeed.Url.Percent

/-! # Paths

The path of an address is a row of segments. Segments that stand for "here"
and "one up" are carried out while the path is read.
-/

namespace SearchFeed.Url

/-- The characters of a path that are always encoded. -/
def pathEncoded : String := " \"#<>?`\x7b\x7d"

/-- Whether a segment means the place itself. -/
def isHere (segment : List Char) : Bool :=
  [".", "%2e"].contains (String.ofList (segment.map Char.toLower))

/-- Whether a segment means the place above. -/
def isUp (segment : List Char) : Bool :=
  ["..", ".%2e", "%2e.", "%2e%2e"].contains (String.ofList (segment.map Char.toLower))

/-- Whether a segment is the name of a drive. -/
def isDrive : List Char → Bool
  | [letter, sign] => letter.isAlpha && (sign = ':' || sign = '|')
  | _ => false

/-- Removes the last segment; the drive of a file stays. -/
def dropSegment (file : Bool) (segments : List (List Char)) : List (List Char) :=
  match segments with
  | [only] => if file && isDrive only then segments else []
  | _ => segments.dropLast

/-- Carries out segments one after the other. The first drive of a file is kept with a colon. -/
def resolve (file : Bool) (done : List (List Char)) : List (List Char) → List (List Char)
  | [] => done
  | segment :: rest =>
    let final := if rest.isEmpty then [[]] else []
    if isUp segment then resolve file (dropSegment file done ++ final) rest
    else if isHere segment then resolve file (done ++ final) rest
    else if file && done.isEmpty && isDrive segment then
      resolve file [segment.take 1 ++ [':']] rest
    else resolve file (done ++ [segment]) rest

/-- The segments between slashes; for known schemes a backslash is a slash. -/
def splitPath (special : Bool) (text : List Char) : List (List Char) :=
  Text.splitAt '/' (if special then text.map fun c => if c = '\\' then '/' else c else text)

/-- Segments as a path. -/
def pathText (segments : List (List Char)) : List Char :=
  segments.flatMap fun segment => '/' :: segment

/-- The segments of a path, given the text after its first slash. -/
def readSegments (special file : Bool) (text : List Char) : List (List Char) :=
  resolve file [] (splitPath special (encodeWith pathEncoded text))

end SearchFeed.Url
