import SearchFeed.Config
import SearchFeed.Config.Error

/-! # Configuration from environment variables

Each variable that is set replaces one setting. The variables are looked at in
a fixed order, and the first one at fault refuses the whole configuration.
-/

namespace SearchFeed

/-- The environment variables of the exporter that are set, by name without the common stem. -/
abbrev Environment := String → Option String

namespace Environment

/-- The number of a variable. -/
def whole (environment : Environment) (key : String) : Except ConfigError (Option Nat) :=
  match environment key with
  | none => .ok none
  | some text =>
    match Text.readWhole (Text.trim text) with
    | .ok n => .ok (some n)
    | .error fault => .error (.notWhole key fault)

/-- The truth value of a variable. -/
def truth (environment : Environment) (key : String) : Except ConfigError (Option Bool) :=
  match environment key with
  | none => .ok none
  | some text =>
    match Text.readTruth? (Text.trim text) with
    | some value => .ok (some value)
    | none => .error (.notTruth key)

/-- The items of a list with commas between them, blank ones left out. -/
def listItems (text : String) : List String :=
  ((Text.splitAt ',' text.toList).map fun item =>
    String.ofList (Text.trimChars item)).filter fun item => !item.isEmpty

/-- Reads an item of the list of a variable. -/
def readItem {α : Type} (key : String) (read? : String → Option α)
    (unknown : String → ConfigError) (item : String) : Except ConfigError α :=
  match read? item with
  | some value => .ok value
  | none => .error (.during (.readingListVariable key) (unknown item))

/-- The list of a variable, each item of which has to be known. -/
def list {α : Type} (environment : Environment) (key : String) (read? : String → Option α)
    (unknown : String → ConfigError) : Except ConfigError (Option (List α)) :=
  match environment key with
  | none => .ok none
  | some text => some <$> (listItems text).mapM (readItem key read? unknown)

/-- The scope of a variable. -/
def scope (environment : Environment) (key : String) :
    Except ConfigError (Option ScopeKind) :=
  match environment key with
  | none => .ok none
  | some text =>
    match ScopeKind.ofText? text with
    | some kind => .ok (some kind)
    | none => .error (.during .readingScopeVariable (.unknownScope text))

end Environment

/-- The base address that a variable sets; a blank one stands for none. -/
def baseUrlOfVariable (text : String) : Option String :=
  let url := Text.trim text
  if url.isEmpty then none else some url

/-- The log format that a variable sets. -/
def logFormatOfVariable (text : String) : LogFormat :=
  if Unicode.lowercase text = "json" then .json else .text

namespace Config

/-- The configuration with the settings of an environment in place of its own. -/
def override (config : Config) (environment : Environment) : Except ConfigError Config := do
  let baseUrl := environment "INDEX_BASE_URL"
  let stem := environment "INDEX_PREFIX"
  let maxDocs ← environment.whole "BATCH_MAX_DOCS"
  let maxBytes ← environment.whole "BATCH_MAX_BYTES"
  let interval ← environment.whole "REPORTER_INTERVAL_SECS"
  let toolStats ← environment.truth "TOOL_STATS_ENABLED"
  let capacity ← environment.whole "RETRY_QUEUE_CAPACITY"
  let drainInterval ← environment.whole "RETRY_DRAIN_INTERVAL_SECS"
  let drainSize ← environment.whole "RETRY_DRAIN_BATCH_SIZE"
  let scope ← environment.scope "SCOPE"
  let selected ← environment.list "SOURCES" DataSource.ofText? .unknownSource
  let parts ← environment.list "SETTINGS_PARTS" SettingsPart.ofText? .unknownPart
  let level := environment "LOG_LEVEL"
  let format := environment "LOG_FORMAT"
  let forward ← environment.truth "LOG_FORWARD"
  let forwardLevel := environment "LOG_FORWARD_LEVEL"
  return {
    index := {
      baseUrl := (baseUrl.map baseUrlOfVariable).getD config.index.baseUrl
      stem := stem.getD config.index.stem }
    batch := {
      maxDocs := maxDocs.getD config.batch.maxDocs
      maxBytes := maxBytes.getD config.batch.maxBytes }
    reporters := {
      intervalSecs := interval.getD config.reporters.intervalSecs
      toolStatsEnabled := toolStats.getD config.reporters.toolStatsEnabled }
    retry := {
      queueCapacity := capacity.getD config.retry.queueCapacity
      drainIntervalSecs := drainInterval.getD config.retry.drainIntervalSecs
      drainBatchSize := drainSize.getD config.retry.drainBatchSize }
    scope := { config.scope with kind := scope.getD config.scope.kind }
    sources := {
      selected := selected.getD config.sources.selected
      settingsParts := parts.getD config.sources.settingsParts }
    log := {
      level := level.getD config.log.level
      format := (format.map logFormatOfVariable).getD config.log.format
      forwardToIndex := forward.getD config.log.forwardToIndex
      forwardLevel := forwardLevel.getD config.log.forwardLevel } }

end Config

end SearchFeed
