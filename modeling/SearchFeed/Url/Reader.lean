import SearchFeed.Url.Host
import SearchFeed.Url.Path

/-! # Addresses of resources

Reading an address gives its one spelling in parts: scheme, authority, path,
query and fragment. Well-known schemes always have an authority and are read
more leniently than others.
-/

namespace SearchFeed

namespace Url

/-- Who is asked for a resource. The host is empty where there is none. -/
structure Authority where
  username : List Char := []
  password : Option (List Char) := none
  host : List Char
  port : Option Nat := none
deriving DecidableEq, Repr

/-- Whether there is anything before the host. -/
def Authority.hasCredentials (authority : Authority) : Bool :=
  !authority.username.isEmpty || authority.password.isSome

/-- The authority as it is written. -/
def Authority.text (authority : Authority) : List Char :=
  let credentials :=
    if authority.hasCredentials then
      authority.username ++ (authority.password.map (':' :: ·)).getD [] ++ ['@']
    else []
  let port := (authority.port.map fun port => ':' :: (toString port).toList).getD []
  credentials ++ authority.host ++ port

end Url

/-- An address in its one spelling. -/
structure Url where
  scheme : List Char
  authority : Option Url.Authority
  path : List Char
  query : Option (List Char)
  fragment : Option (List Char)
deriving DecidableEq, Repr

namespace Url

/-- The address as it is written. -/
def text (url : Url) : List Char :=
  let authority := match url.authority with
    | some authority => '/' :: '/' :: authority.text
    | none => if ['/', '/'].isPrefixOf url.path then ['/', '.'] else []
  url.scheme ++ ':' :: authority ++ url.path ++
    (url.query.map ('?' :: ·)).getD [] ++ (url.fragment.map ('#' :: ·)).getD []

/-- How the parts of an address are told apart: by the rules for files, by those for the other
known schemes, or by those for all others. -/
inductive SchemeKind where
  | file
  | known
  | other
deriving DecidableEq, Repr

namespace SchemeKind

/-- Whether the scheme is a known one. -/
def isSpecial (kind : SchemeKind) : Bool := kind ≠ .other

/-- Whether a character ends the authority. -/
def endsAuthority (kind : SchemeKind) (c : Char) : Bool :=
  c = '/' || c = '?' || c = '#' || (kind.isSpecial && c = '\\')

end SchemeKind

/-- The port that a known scheme has unless another one is given. -/
def defaultPort? (scheme : List Char) : Option Nat :=
  match String.ofList scheme with
  | "http" | "ws" => some 80
  | "https" | "wss" => some 443
  | "ftp" => some 21
  | _ => none

/-- The kind of a scheme. -/
def schemeKind (scheme : List Char) : SchemeKind :=
  if scheme = "file".toList then .file
  else if (defaultPort? scheme).isSome then .known
  else .other

/-- The scheme in lower case, and what is left after its colon. -/
def readScheme? (text : List Char) : Option (List Char × List Char) :=
  let inScheme := fun (c : Char) => c.isAlphanum || c = '+' || c = '-' || c = '.'
  match text with
  | first :: _ =>
    if !first.isAlpha then none
    else match text.dropWhile inScheme with
      | ':' :: rest => some ((text.takeWhile inScheme).map Char.toLower, rest)
      | _ => none
  | [] => none

/-- The characters of user names and passwords that are always encoded. -/
def credentialEncoded : String := " \"#<>?`\x7b\x7d/:;=@[\\]^|"

/-- The part before the host and the part after the last at sign, if there is one. -/
def splitCredentials (text : List Char) : Option (List Char × List Char) :=
  if text.contains '@' then
    let after := (text.reverse.takeWhile (· ≠ '@')).reverse
    some (text.take (text.length - after.length - 1), after)
  else none

/-- The user name and the password of credentials. An empty password is none. -/
def readCredentials (text : List Char) : List Char × Option (List Char) :=
  let username := encodeWith credentialEncoded (text.takeWhile (· ≠ ':'))
  match text.dropWhile (· ≠ ':') with
  | _ :: c :: rest => (username, some (encodeWith credentialEncoded (c :: rest)))
  | _ => (username, none)

/-- The host and the text after it, up to the first colon outside brackets. -/
def splitHost : (inBrackets : Bool) → List Char → List Char × List Char
  | _, [] => ([], [])
  | inBrackets, c :: rest =>
    if c = ':' && !inBrackets then ([], c :: rest)
    else
      let (host, after) :=
        splitHost (if c = '[' then true else if c = ']' then false else inBrackets) rest
      (c :: host, after)

/-- The largest number of a port. -/
def portLimit : Nat := 65535

/-- Reads the number of a port, if there are any digits. A backslash may come next. -/
def readPort? (text : List Char) : Option (Option Nat × List Char) :=
  let digits := text.takeWhile Char.isDigit
  let rest := text.dropWhile Char.isDigit
  if rest.head?.any (· ≠ '\\') then none
  else if digits.isEmpty then some (none, rest)
  else
    let port := Text.decimal digits
    if port ≤ portLimit then some (some port, rest) else none

/-- Reads the authority of an address that is no file; what is left begins its path. -/
def readAuthority? (scheme : List Char) (text : List Char) : Option (Authority × List Char) := do
  let kind := schemeKind scheme
  let (credentials, rest) := (splitCredentials text).getD ([], text)
  let (username, password) := readCredentials credentials
  let (hostText, portText) := splitHost false rest
  let host ← if kind.isSpecial then readHost? hostText else readOpaqueHost? hostText
  if host.isEmpty then
    if portText.isEmpty ∧ username.isEmpty ∧ password.isNone then some ({ host }, [])
    else none
  else
    let (port, rest) ← readPort? (portText.drop 1)
    let port := if port = defaultPort? scheme then none else port
    some ({ username, password, host, port }, rest)

/-- The parts before and after the first of some signs, which stays with the second. -/
def splitBefore (signs : Char → Bool) (text : List Char) : List Char × List Char :=
  (text.takeWhile (!signs ·), text.dropWhile (!signs ·))

/-- Whether a character begins the query or the fragment. -/
def endsPath (c : Char) : Bool := c = '?' || c = '#'

/-- The path of an address with an authority. -/
def readPath (kind : SchemeKind) (text : List Char) : List Char :=
  match text with
  | [] => if kind.isSpecial then ['/'] else []
  | c :: rest =>
    let slash := c = '/' || (kind.isSpecial && c = '\\')
    pathText (readSegments kind.isSpecial false (if slash then rest else c :: rest))

/-- Reads the query and the fragment. -/
def readQuery (kind : SchemeKind) (text : List Char) : Option (List Char) × Option (List Char) :=
  let (before, after) := splitBefore (· = '#') text
  let encoded := if kind.isSpecial then " \"#<>'" else " \"#<>"
  let query := match before with
    | '?' :: query => some (encodeWith encoded query)
    | _ => none
  let fragment := match after with
    | _ :: fragment => some (encodeWith " \"<>`" fragment)
    | [] => none
  (query, fragment)

/-- Reads an address of a file. A host is given up for a drive. -/
def readFile? (text : List Char) : Option (Authority × List Char) :=
  let isSlash := fun (c : Char) => c = '/' || c = '\\'
  let located := fun (host : List Char) (text : List Char) =>
    let segments := readSegments true true text
    let lead := segments.dropLast.dropWhile List.isEmpty
    let path := pathText (lead ++ segments.drop (segments.length - 1))
    some ({ host := if segments.head?.any isDrive then [] else host : Authority }, path)
  match text with
  | c :: d :: rest =>
    if isSlash c && isSlash d then
      let (host, after) := splitBefore isSlash rest
      if isDrive host then located [] rest
      else do
        let host ← if host.isEmpty then some [] else readHost? host
        located (if host = "localhost".toList then [] else host) (after.drop 1)
    else located [] (if isSlash c then d :: rest else text)
  | [c] => located [] (if isSlash c then [] else text)
  | [] => located [] []

/-- The text without control characters and spaces at its ends, and without tabulators and line
ends anywhere. -/
def cleaned (text : List Char) : List Char :=
  let isEdge := fun (c : Char) => c.toNat ≤ 0x20
  ((text.dropWhile isEdge).reverse.dropWhile isEdge).reverse.filter fun c =>
    c ≠ '\t' && c ≠ '\n' && c ≠ '\r'

/-- The address that a text spells, if it spells one. -/
def ofChars? (characters : List Char) : Option Url := do
  let (scheme, rest) ← readScheme? (cleaned characters)
  let kind := schemeKind scheme
  let (before, after) := splitBefore endsPath rest
  let (query, fragment) := readQuery kind after
  let authorityAt := fun (text : List Char) => do
    let (lead, path) := splitBefore kind.endsAuthority text
    if lead = ['@'] ∧ (!path.isEmpty || !after.isEmpty) then none
    let (authority, rest) ← readAuthority? scheme lead
    some { scheme, authority := some authority, path := readPath kind (rest ++ path),
           query, fragment : Url }
  match kind with
  | .file =>
    let (authority, path) ← readFile? before
    some { scheme, authority := some authority, path, query, fragment }
  | .known => authorityAt (before.dropWhile fun c => c = '/' || c = '\\')
  | .other =>
    match before with
    | '/' :: '/' :: rest => authorityAt rest
    | '/' :: rest =>
      some { scheme, authority := none, path := pathText (readSegments false false rest),
             query, fragment }
    | opaquePath =>
      some { scheme, authority := none, path := encodeWith "" opaquePath, query, fragment }

/-- The address that a text spells, if it spells one. -/
def ofText? (text : String) : Option Url := ofChars? text.toList

/-- The host of an address, if it has one. -/
def host? (url : Url) : Option String :=
  match url.authority with
  | some authority => if authority.host.isEmpty then none else some (String.ofList authority.host)
  | none => none

/-- The address without user name and password. -/
def withoutCredentials (url : Url) : Url :=
  { url with authority := url.authority.map fun authority =>
      { authority with username := [], password := none } }

/-- Whether the address holds a user name or a password. -/
def hasCredentials (url : Url) : Bool := url.authority.any Authority.hasCredentials

end Url

/-- An address without user name and password; any other text is left alone. -/
def concealed (address : String) : String :=
  match Url.ofText? address with
  | some url =>
    if url.hasCredentials then String.ofList url.withoutCredentials.text else address
  | none => address

end SearchFeed
