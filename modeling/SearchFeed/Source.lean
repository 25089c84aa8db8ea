import SearchFeed.Text.Blank
import SearchFeed.Unicode.Lowercase

/-! # Data sources

The families of artifacts that can be exported, and the parts that a settings
export is made of. Both are named in configuration files and environment
variables.
-/

namespace SearchFeed

/-- A family of artifacts. -/
inductive DataSource where
  | settings
  | sitemap
  | findings
  | proxyHistory
  | traffic
deriving DecidableEq, Repr, Inhabited

namespace DataSource

/-- All families, in the order in which they are listed. -/
def all : List DataSource := [.settings, .sitemap, .findings, .proxyHistory, .traffic]

/-- The name of a family. -/
def name : DataSource → String
  | .settings => "settings"
  | .sitemap => "sitemap"
  | .findings => "findings"
  | .proxyHistory => "proxy_history"
  | .traffic => "traffic"

/-- The spellings of each family that a list of sources may use, in lower case and with
underscores. -/
def spelled? : String → Option DataSource
  | "settings" => some .settings
  | "sitemap" => some .sitemap
  | "findings" => some .findings
  | "issues" => some .findings
  | "proxy_history" => some .proxyHistory
  | "proxyhistory" => some .proxyHistory
  | "traffic" => some .traffic
  | _ => none

/-- A name with every hyphen written as an underscore. -/
def underscored (text : String) : String :=
  String.ofList (text.toList.map fun c => if c = '-' then '_' else c)

/-- The family that a text names, whatever its case and the blanks around it. -/
def ofText? (text : String) : Option DataSource :=
  spelled? (underscored (Unicode.lowercase (Text.trim text)))

/-- The family of exactly that name. -/
def named? (text : String) : Option DataSource := all.find? fun source => source.name = text

end DataSource

/-- A part of the settings. -/
inductive SettingsPart where
  | project
  | user
deriving DecidableEq, Repr, Inhabited

namespace SettingsPart

/-- Both parts, in the order in which they are exported. -/
def all : List SettingsPart := [.project, .user]

/-- The name of a part. -/
def name : SettingsPart → String
  | .project => "project"
  | .user => "user"

/-- The part of exactly that name. -/
def named? (text : String) : Option SettingsPart := all.find? fun part => part.name = text

/-- The part that a text names, whatever its case and the blanks around it. -/
def ofText? (text : String) : Option SettingsPart := named? (Unicode.lowercase (Text.trim text))

end SettingsPart

end SearchFeed
