import SearchFeed.Unicode.Folding
import SearchFeed.Unicode.NamedProperty
import SearchFeed.Unicode.Script

/-! # Sets of characters in patterns

A pattern names the characters it accepts at a place by a set. Sets are built
from characters, ranges and named classes by the operations of this module.
-/

namespace SearchFeed.Pattern

/-- A set of characters. -/
abbrev Charset := Unicode.CodeSet

namespace Charset

/-- The set of no characters. -/
def none : Charset := .empty

/-- The set of all characters. -/
def any : Charset := .interval 0 Unicode.lastCode

/-- The set of one character. -/
def single (c : Char) : Charset := .interval c.toNat c.toNat

/-- The characters from the first to the last. -/
def range (first last : Char) : Charset := .interval first.toNat last.toNat

/-- The characters of a text. -/
def ofText (text : String) : Charset := .union (text.toList.map single)

/-- The set, complemented on demand. -/
def complIf (negated : Bool) (set : Charset) : Charset := if negated then set.compl else set

/-- The members, and the basic letters that differ from one in case only. -/
def anyAsciiCase (set : Charset) : Charset :=
  let moved := fun (letters : Charset) (move : Nat → Nat) =>
    Unicode.CodeSet.ofRanges ((letters.inter set).ranges.toList.map fun (first, last) =>
      (move first, move last))
  .union [set, moved (range 'A' 'Z') (· + 32), moved (range 'a' 'z') (· - 32)]

/-- The digits `0` to `9`. -/
def asciiDigit : Charset := range '0' '9'

/-- The basic letters. -/
def asciiAlpha : Charset := .union [range 'a' 'z', range 'A' 'Z']

def asciiAlnum : Charset := .union [asciiAlpha, asciiDigit]

/-- The basic letters, digits and the underscore. -/
def asciiWord : Charset := .union [asciiAlnum, single '_']

/-- The blanks among the ASCII characters. -/
def asciiSpace : Charset := .union [range '\t' '\r', single ' ']

/-- The classes of ASCII characters that go by a name between colons. -/
def asciiClass? : (name : List Char) → Option Charset := fun name =>
  let classes : List (String × Charset) :=
    [("alnum", asciiAlnum),
     ("alpha", asciiAlpha),
     ("ascii", range '\x00' '\x7f'),
     ("blank", ofText "\t "),
     ("cntrl", .union [range '\x00' '\x1f', single '\x7f']),
     ("digit", asciiDigit),
     ("graph", range '!' '~'),
     ("lower", range 'a' 'z'),
     ("print", range ' ' '~'),
     ("punct", (range '!' '~').diff asciiAlnum),
     ("space", asciiSpace),
     ("upper", range 'A' 'Z'),
     ("word", asciiWord),
     ("xdigit", .union [asciiDigit, range 'a' 'f', range 'A' 'F'])]
  classes.lookup (String.ofList name)

/-- The decimal digits of all scripts. -/
def digit : Charset := Unicode.Category.decimalNumber.codes

end Charset

/-- The name of a property in lower case, without separators and without a leading `is`. -/
def normalName (name : List Char) : List Char :=
  let plain := fun (cs : List Char) =>
    (cs.filter fun c => c ≠ ' ' ∧ c ≠ '_' ∧ c ≠ '-' ∧ c.toNat < 0x80).map Char.toLower
  match name with
  | i :: s :: rest =>
    if i.toLower = 'i' ∧ s.toLower = 's' then
      if plain rest = ['c'] then ['i', 's', 'c'] else plain rest
    else plain name
  | _ => plain name

/-- The groups of general categories and the names they go by. -/
def categoryGroups : List (List String × List Unicode.Category) :=
  [(["l", "letter"], Unicode.letters),
   (["lc", "casedletter"], [.uppercaseLetter, .lowercaseLetter, .titlecaseLetter]),
   (["m", "mark", "combiningmark"], Unicode.marks),
   (["n", "number"], [.decimalNumber, .letterNumber, .otherNumber]),
   (["p", "punctuation", "punct"],
    [.connectorPunctuation, .dashPunctuation, .openPunctuation, .closePunctuation,
     .initialPunctuation, .finalPunctuation, .otherPunctuation]),
   (["s", "symbol"], [.mathSymbol, .currencySymbol, .modifierSymbol, .otherSymbol]),
   (["z", "separator"], [.spaceSeparator, .lineSeparator, .paragraphSeparator])]

/-- The characters of the general category, or group of categories, of that name. -/
def categoryNamed? (name : String) : Option Charset :=
  let assigned := Unicode.NamedProperty.assigned
  if name = "any" then some Charset.any
  else if name = "ascii" then some (Charset.range '\x00' '\x7f')
  else if name = "assigned" then some assigned
  else if ["cn", "unassigned"].contains name then some assigned.compl
  else if ["c", "other"].contains name then
    some (.union [assigned.compl,
      Unicode.NamedProperty.ofCategories [.control, .format, .privateUse]])
  else match categoryGroups.find? fun group => group.1.contains name with
    | some (_, categories) => some (Unicode.NamedProperty.ofCategories categories)
    | none =>
      (Unicode.Category.all.find? fun category => category.names.contains name).map
        Unicode.Category.codes

/-- The characters of the script of that name. -/
def scriptNamed? (name : String) : Option Charset :=
  (Unicode.Script.named? name).map Unicode.Script.codes

/-- The characters that a property name alone stands for: those that have a property, or are of a
category or of a script. -/
def propertyNamed? (name : List Char) : Option Charset :=
  let plain := String.ofList (normalName name)
  match Unicode.NamedProperty.named? plain with
  | some property => some property.codes
  | none => (categoryNamed? plain).orElse fun _ => scriptNamed? plain

/-- The characters for which a property has a value. -/
def propertyValue? (name value : List Char) : Option Charset :=
  let plain := String.ofList (normalName value)
  match String.ofList (normalName name) with
  | "gc" | "generalcategory" => categoryNamed? plain
  | "sc" | "script" | "scx" | "scriptextensions" => scriptNamed? plain
  | _ => none

end SearchFeed.Pattern
