import SearchFeed.Config
import SearchFeed.Config.Error
import SearchFeed.Toml.Reader

/-! # Configuration from files

A group of settings is a table of named values, or a list of the values in
their fixed order. Settings that are missing keep their standard values, and
unknown ones are passed over. A date counts as a table without entries.
-/

namespace SearchFeed

namespace Toml

/-- The values of a group of settings, each absent if it is not given. -/
def group? (names : List String) : Toml → Option (List (Option Toml))
  | .table entries => some (names.map fun name => entries.lookup name)
  | .array items => some (names.mapIdx fun place _ => items[place]?)
  | .date => some (names.map fun _ => none)
  | _ => none

/-- A text. -/
def text? : Toml → Option String
  | .text value => some value
  | _ => none

/-- A number that is not negative. -/
def nat? : Toml → Option Nat
  | .whole value => if 0 ≤ value then some value.toNat else none
  | _ => none

/-- A truth value. -/
def truth? : Toml → Option Bool
  | .truth value => some value
  | _ => none

/-- Whether a value is an empty list or an empty table. -/
def isVoid : Toml → Bool
  | .array items => items.isEmpty
  | .table entries => entries.isEmpty
  | _ => false

/-- One of several named choices: its name, or a table whose single key is the name of the choice
and whose value is void. -/
def choice? {α : Type} (named? : String → Option α) : Toml → Option α
  | .text name => named? name
  | .table [(name, value)] => if value.isVoid then named? name else none
  | _ => none

/-- A list, each of its items read in the same way. -/
def list? {α : Type} (item? : Toml → Option α) : Toml → Option (List α)
  | .array items => items.mapM item?
  | _ => none

end Toml

/-- Reads a setting, or keeps its standard value if it is missing. -/
def setting? {α : Type} (read? : Toml → Option α) (standard : α) : Option Toml → Option α
  | none => some standard
  | some value => read? value

/-- Where documents go. -/
def IndexSettings.ofToml? (value : Toml) : Option IndexSettings := do
  let standard : IndexSettings := {}
  let [baseUrl, stem] ← value.group? ["base_url", "prefix"] | none
  some
    { baseUrl := ← setting? (fun value => value.text?.map some) none baseUrl
      stem := ← setting? Toml.text? standard.stem stem }

/-- How large a bulk request may become. -/
def BatchSettings.ofToml? (value : Toml) : Option BatchSettings := do
  let standard : BatchSettings := {}
  let [maxDocs, maxBytes] ← value.group? ["max_docs", "max_bytes"] | none
  some
    { maxDocs := ← setting? Toml.nat? standard.maxDocs maxDocs
      maxBytes := ← setting? Toml.nat? standard.maxBytes maxBytes }

/-- How often reporters run. -/
def ReporterSettings.ofToml? (value : Toml) : Option ReporterSettings := do
  let standard : ReporterSettings := {}
  let [interval, toolStats] ← value.group? ["interval_secs", "tool_stats_enabled"] | none
  some
    { intervalSecs := ← setting? Toml.nat? standard.intervalSecs interval
      toolStatsEnabled := ← setting? Toml.truth? standard.toolStatsEnabled toolStats }

/-- What is kept for another attempt. -/
def RetrySettings.ofToml? (value : Toml) : Option RetrySettings := do
  let standard : RetrySettings := {}
  let [capacity, interval, size] ←
    value.group? ["queue_capacity", "drain_interval_secs", "drain_batch_size"] | none
  some
    { queueCapacity := ← setting? Toml.nat? standard.queueCapacity capacity
      drainIntervalSecs := ← setting? Toml.nat? standard.drainIntervalSecs interval
      drainBatchSize := ← setting? Toml.nat? standard.drainBatchSize size }

/-- An entry of a custom scope, both parts of which have to be there. -/
def ScopeEntry.ofToml? (value : Toml) : Option ScopeEntry := do
  let [some kind, some value] ← value.group? ["kind", "value"] | none
  some { kind := ← kind.choice? EntryKind.named?, value := ← value.text? }

/-- The scope. -/
def ScopeSettings.ofToml? (value : Toml) : Option ScopeSettings := do
  let [kind, custom] ← value.group? ["kind", "custom"] | none
  some
    { kind := ← setting? (Toml.choice? ScopeKind.named?) .all kind
      custom := ← setting? (Toml.list? ScopeEntry.ofToml?) [] custom }

/-- Which artifacts are exported. -/
def SourceSettings.ofToml? (value : Toml) : Option SourceSettings := do
  let standard : SourceSettings := {}
  let [selected, parts] ← value.group? ["selected", "settings_parts"] | none
  some
    { selected :=
        ← setting? (Toml.list? (Toml.choice? DataSource.named?)) standard.selected selected
      settingsParts :=
        ← setting? (Toml.list? (Toml.choice? SettingsPart.named?)) standard.settingsParts parts }

/-- What is logged. -/
def LogSettings.ofToml? (value : Toml) : Option LogSettings := do
  let standard : LogSettings := {}
  let [level, format, forward, forwardLevel] ←
    value.group? ["level", "format", "forward_to_index", "forward_level"] | none
  some
    { level := ← setting? Toml.text? standard.level level
      format := ← setting? (Toml.choice? LogFormat.named?) standard.format format
      forwardToIndex := ← setting? Toml.truth? standard.forwardToIndex forward
      forwardLevel := ← setting? Toml.text? standard.forwardLevel forwardLevel }

namespace Config

/-- The configuration that the entries of a file stand for. -/
def ofEntries? (entries : List (String × Toml)) : Option Config := do
  let standard : Config := {}
  some
    { index := ← setting? IndexSettings.ofToml? standard.index (entries.lookup "index")
      batch := ← setting? BatchSettings.ofToml? standard.batch (entries.lookup "batch")
      reporters :=
        ← setting? ReporterSettings.ofToml? standard.reporters (entries.lookup "reporters")
      retry := ← setting? RetrySettings.ofToml? standard.retry (entries.lookup "retry")
      scope := ← setting? ScopeSettings.ofToml? standard.scope (entries.lookup "scope")
      sources := ← setting? SourceSettings.ofToml? standard.sources (entries.lookup "sources")
      log := ← setting? LogSettings.ofToml? standard.log (entries.lookup "log") }

/-- The configuration that the text of a file stands for. -/
def ofText (text : String) : Except ConfigError Config :=
  match (Toml.read? text).bind ofEntries? with
  | some config => .ok config
  | none => .error .malformed

end Config

end SearchFeed
