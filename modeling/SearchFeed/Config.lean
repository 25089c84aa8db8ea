import SearchFeed.Batch
import SearchFeed.Scope
import SearchFeed.Source

/-! # Configuration

Where documents go, how they are batched and retried, what is exported and
what is logged.
-/

namespace SearchFeed

/-- Where documents go. Nothing is exported while there is no base address. -/
structure IndexSettings where
  baseUrl : Option String := none
  stem : String := "attackframework-tool-burp"
deriving DecidableEq, Repr, Inhabited

/-- How large a bulk request may become. -/
structure BatchSettings where
  maxDocs : Nat := 100
  maxBytes : Nat := 5 * 1024 * 1024
deriving DecidableEq, Repr, Inhabited

/-- How often reporters run, and whether statistics are reported. -/
structure ReporterSettings where
  intervalSecs : Nat := 30
  toolStatsEnabled : Bool := true
deriving DecidableEq, Repr, Inhabited

/-- How much is kept for another attempt, and how often there is one. -/
structure RetrySettings where
  queueCapacity : Nat := 10000
  drainIntervalSecs : Nat := 5
  drainBatchSize : Nat := 100
deriving DecidableEq, Repr, Inhabited

/-- Which artifacts are exported. -/
structure SourceSettings where
  selected : List DataSource := DataSource.all
  settingsParts : List SettingsPart := SettingsPart.all
deriving DecidableEq, Repr, Inhabited

/-- How log lines are written. -/
inductive LogFormat where
  | text
  | json
deriving DecidableEq, Repr, Inhabited

namespace LogFormat

/-- The name of a format. -/
def name : LogFormat → String
  | .text => "text"
  | .json => "json"

/-- The format of exactly that name. -/
def named? (text : String) : Option LogFormat :=
  [LogFormat.text, LogFormat.json].find? fun format => format.name = text

end LogFormat

/-- What is logged, and whether log events are copied into the tool index. -/
structure LogSettings where
  level : String := "info"
  format : LogFormat := .text
  forwardToIndex : Bool := false
  forwardLevel : String := "info"
deriving DecidableEq, Repr, Inhabited

/-- The configuration of an exporter. -/
structure Config where
  index : IndexSettings := {}
  batch : BatchSettings := {}
  reporters : ReporterSettings := {}
  retry : RetrySettings := {}
  scope : ScopeSettings := {}
  sources : SourceSettings := {}
  log : LogSettings := {}
deriving DecidableEq, Repr, Inhabited

namespace ScopeEntry

/-- An entry as JSON. -/
def json (entry : ScopeEntry) : Json :=
  .object [("kind", .string entry.kind.name), ("value", .string entry.value)]

end ScopeEntry

namespace ScopeSettings

/-- The scope as JSON; an empty list of entries is left out. -/
def json (scope : ScopeSettings) : Json :=
  .object (("kind", .string scope.kind.name) ::
    if scope.custom.isEmpty then [] else [("custom", .array (scope.custom.map ScopeEntry.json))])

end ScopeSettings

namespace Config

/-- The configuration as JSON; a base address that is not set is left out. -/
def json (config : Config) : Json :=
  let baseUrl := match config.index.baseUrl with
    | some url => [("base_url", Json.string url)]
    | none => []
  .object
    [("index", .object (baseUrl ++ [("prefix", .string config.index.stem)])),
     ("batch", .object
      [("max_docs", .int config.batch.maxDocs), ("max_bytes", .int config.batch.maxBytes)]),
     ("reporters", .object
      [("interval_secs", .int config.reporters.intervalSecs),
       ("tool_stats_enabled", .bool config.reporters.toolStatsEnabled)]),
     ("retry", .object
      [("queue_capacity", .int config.retry.queueCapacity),
       ("drain_interval_secs", .int config.retry.drainIntervalSecs),
       ("drain_batch_size", .int config.retry.drainBatchSize)]),
     ("scope", config.scope.json),
     ("sources", .object
      [("selected", .ofTexts (config.sources.selected.map DataSource.name)),
       ("settings_parts", .ofTexts (config.sources.settingsParts.map SettingsPart.name))]),
     ("log", .object
      [("level", .string config.log.level), ("format", .string config.log.format.name),
       ("forward_to_index", .bool config.log.forwardToIndex),
       ("forward_level", .string config.log.forwardLevel)])]

/-- The time between two runs of a reporter, in milliseconds. -/
def intervalMillis (config : Config) : Nat := config.reporters.intervalSecs * 1000

/-- The time between two attempts to send what was kept, in milliseconds. -/
def drainIntervalMillis (config : Config) : Nat := config.retry.drainIntervalSecs * 1000

/-- Whether a family of artifacts is selected. -/
def isSelected (config : Config) (source : DataSource) : Bool :=
  config.sources.selected.contains source

/-- The limits of a batch. -/
def batchLimits (config : Config) : BatchLimits :=
  ⟨config.batch.maxDocs, config.batch.maxBytes⟩

end Config

end SearchFeed
