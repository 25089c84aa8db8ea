import SearchFeed.Config

/-! # Switches

What can be changed while an export runs: whether it runs at all, where it
sends to, which sources are selected and which addresses are in scope. They
are read anew at the start of everything that sends.
-/

namespace SearchFeed

/-- Why nothing is done. -/
inductive SkipReason where
  | exportStopped
  | noBaseUrl
  | sourceNotSelected
  /-- Another cycle of the same reporter is under way. -/
  | inProgress
  /-- The content is the one that was delivered last. -/
  | unchanged
deriving DecidableEq, Repr

namespace SkipReason

/-- The reason as it shows in diagnostics. -/
def label : SkipReason → String
  | .exportStopped => "ExportStopped"
  | .noBaseUrl => "NoBaseUrl"
  | .sourceNotSelected => "SourceNotSelected"
  | .inProgress => "InProgress"
  | .unchanged => "Unchanged"

end SkipReason

/-- The switches of an export. -/
structure Switches where
  running : Bool := false
  baseUrl : Option String := none
  selected : List DataSource := DataSource.all
  settingsParts : List SettingsPart := SettingsPart.all
  scope : ScopeSettings := {}
deriving DecidableEq, Repr, Inhabited

namespace Switches

/-- The switches that a configuration sets, with export stopped. -/
def ofConfig (config : Config) : Switches where
  baseUrl := config.index.baseUrl
  selected := config.sources.selected
  settingsParts := config.sources.settingsParts
  scope := config.scope

/-- The base address, unless it is blank. -/
def usableBaseUrl (switches : Switches) : Option String :=
  switches.baseUrl.filter fun url => !Text.isBlankText url

/-- Whether a source is selected. -/
def isSelected (switches : Switches) (source : DataSource) : Bool :=
  switches.selected.contains source

/-- Which addresses are in scope. -/
def filter (switches : Switches) : ScopeFilter := .ofSettings switches.scope

/-- The base address to send to, or why nothing is to be sent. -/
def destination (switches : Switches) : Except SkipReason String :=
  if !switches.running then .error .exportStopped
  else match switches.usableBaseUrl with
    | some url => .ok url
    | none => .error .noBaseUrl

/-- The base address to send artifacts of a source to, or why none are to be sent. -/
def preflight (switches : Switches) (source : DataSource) : Except SkipReason String :=
  match switches.destination with
  | .error reason => .error reason
  | .ok url => if switches.isSelected source then .ok url else .error .sourceNotSelected

/-- The settings parts to export, each once and in the order of export. -/
def exportedParts (switches : Switches) : List SettingsPart :=
  SettingsPart.all.filter switches.settingsParts.contains

end Switches

end SearchFeed
