import SearchFeed.Config.Environment

/-! # Settings that variables replace

A configuration is the settings that variables may replace and the entries of a
custom scope. Putting an environment on top of it looks at the variables one by
one: the first one at fault refuses it, and if none is, each setting whose
variable is set has the value of the variable and all others stay.
-/

namespace SearchFeed

/-- The settings that variables may replace, in the order in which the variables are looked at. -/
inductive Setting where
  | baseUrl
  | stem
  | maxDocs
  | maxBytes
  | interval
  | toolStats
  | capacity
  | drainInterval
  | drainSize
  | scope
  | selected
  | parts
  | level
  | format
  | forward
  | forwardLevel
deriving DecidableEq, Repr

namespace Setting

def all : List Setting :=
  [.baseUrl, .stem, .maxDocs, .maxBytes, .interval, .toolStats, .capacity, .drainInterval,
   .drainSize, .scope, .selected, .parts, .level, .format, .forward, .forwardLevel]

theorem mem_all (setting : Setting) : setting ∈ all := by
  cases setting <;> decide

def earlier (setting : Setting) : List Setting := all.takeWhile (· ≠ setting)

def later (setting : Setting) : List Setting := (all.dropWhile (· ≠ setting)).tail

theorem all_eq (setting : Setting) : all = setting.earlier ++ setting :: setting.later := by
  cases setting <;> decide

/-- The name of the variable of a setting, without the common stem. -/
def key : Setting → String
  | baseUrl => "INDEX_BASE_URL"
  | stem => "INDEX_PREFIX"
  | maxDocs => "BATCH_MAX_DOCS"
  | maxBytes => "BATCH_MAX_BYTES"
  | interval => "REPORTER_INTERVAL_SECS"
  | toolStats => "TOOL_STATS_ENABLED"
  | capacity => "RETRY_QUEUE_CAPACITY"
  | drainInterval => "RETRY_DRAIN_INTERVAL_SECS"
  | drainSize => "RETRY_DRAIN_BATCH_SIZE"
  | scope => "SCOPE"
  | selected => "SOURCES"
  | parts => "SETTINGS_PARTS"
  | level => "LOG_LEVEL"
  | format => "LOG_FORMAT"
  | forward => "LOG_FORWARD"
  | forwardLevel => "LOG_FORWARD_LEVEL"

/-- No two settings share a variable. -/
theorem key_injective : Function.Injective key := by
  intro setting other
  cases setting <;> cases other <;> decide

def Value : Setting → Type
  | baseUrl => Option String
  | stem | level | forwardLevel => String
  | maxDocs | maxBytes | interval | capacity | drainInterval | drainSize => Nat
  | toolStats | forward => Bool
  | scope => ScopeKind
  | selected => List DataSource
  | parts => List SettingsPart
  | format => LogFormat

end Setting

namespace Config

def get (config : Config) : (setting : Setting) → setting.Value
  | .baseUrl => config.index.baseUrl
  | .stem => config.index.stem
  | .maxDocs => config.batch.maxDocs
  | .maxBytes => config.batch.maxBytes
  | .interval => config.reporters.intervalSecs
  | .toolStats => config.reporters.toolStatsEnabled
  | .capacity => config.retry.queueCapacity
  | .drainInterval => config.retry.drainIntervalSecs
  | .drainSize => config.retry.drainBatchSize
  | .scope => config.scope.kind
  | .selected => config.sources.selected
  | .parts => config.sources.settingsParts
  | .level => config.log.level
  | .format => config.log.format
  | .forward => config.log.forwardToIndex
  | .forwardLevel => config.log.forwardLevel

def set (config : Config) : (setting : Setting) → setting.Value → Config
  | .baseUrl, value => { config with index.baseUrl := value }
  | .stem, value => { config with index.stem := value }
  | .maxDocs, value => { config with batch.maxDocs := value }
  | .maxBytes, value => { config with batch.maxBytes := value }
  | .interval, value => { config with reporters.intervalSecs := value }
  | .toolStats, value => { config with reporters.toolStatsEnabled := value }
  | .capacity, value => { config with retry.queueCapacity := value }
  | .drainInterval, value => { config with retry.drainIntervalSecs := value }
  | .drainSize, value => { config with retry.drainBatchSize := value }
  | .scope, value => { config with scope.kind := value }
  | .selected, value => { config with sources.selected := value }
  | .parts, value => { config with sources.settingsParts := value }
  | .level, value => { config with log.level := value }
  | .format, value => { config with log.format := value }
  | .forward, value => { config with log.forwardToIndex := value }
  | .forwardLevel, value => { config with log.forwardLevel := value }

@[simp]
theorem get_set (config : Config) (setting : Setting) (value : setting.Value) :
    (config.set setting value).get setting = value := by
  cases setting <;> rfl

/-- Setting one thing leaves the others as they were. -/
theorem get_set_of_ne (config : Config) {setting other : Setting} (value : setting.Value)
    (hother : other ≠ setting) : (config.set setting value).get other = config.get other := by
  cases setting <;> cases other <;> first | rfl | exact absurd rfl hother

/-- No setting reaches the custom entries of the scope. -/
@[simp]
theorem custom_set (config : Config) (setting : Setting) (value : setting.Value) :
    (config.set setting value).scope.custom = config.scope.custom := by
  cases setting <;> rfl

/-- A configuration has nothing but its settings and the entries of its scope. -/
theorem ext_get {config other : Config} (hget : ∀ setting, config.get setting = other.get setting)
    (hcustom : config.scope.custom = other.scope.custom) : config = other := by
  obtain ⟨⟨_, _⟩, ⟨_, _⟩, ⟨_, _⟩, ⟨_, _, _⟩, ⟨_, _⟩, ⟨_, _⟩, ⟨_, _, _, _⟩⟩ := config
  obtain ⟨⟨_, _⟩, ⟨_, _⟩, ⟨_, _⟩, ⟨_, _, _⟩, ⟨_, _⟩, ⟨_, _⟩, ⟨_, _, _, _⟩⟩ := other
  obtain rfl := hget .baseUrl
  obtain rfl := hget .stem
  obtain rfl := hget .maxDocs
  obtain rfl := hget .maxBytes
  obtain rfl := hget .interval
  obtain rfl := hget .toolStats
  obtain rfl := hget .capacity
  obtain rfl := hget .drainInterval
  obtain rfl := hget .drainSize
  obtain rfl := hget .scope
  obtain rfl := hget .selected
  obtain rfl := hget .parts
  obtain rfl := hget .level
  obtain rfl := hget .format
  obtain rfl := hget .forward
  obtain rfl := hget .forwardLevel
  obtain rfl := hcustom
  rfl

end Config

namespace Environment

variable (environment : Environment)

/-- What the variable of a setting gives: nothing if it is not set, or else a value or a fault. -/
def given : (setting : Setting) → Except ConfigError (Option setting.Value)
  | .baseUrl => .ok ((environment "INDEX_BASE_URL").map baseUrlOfVariable)
  | .stem => .ok (environment "INDEX_PREFIX")
  | .maxDocs => environment.whole "BATCH_MAX_DOCS"
  | .maxBytes => environment.whole "BATCH_MAX_BYTES"
  | .interval => environment.whole "REPORTER_INTERVAL_SECS"
  | .toolStats => environment.truth "TOOL_STATS_ENABLED"
  | .capacity => environment.whole "RETRY_QUEUE_CAPACITY"
  | .drainInterval => environment.whole "RETRY_DRAIN_INTERVAL_SECS"
  | .drainSize => environment.whole "RETRY_DRAIN_BATCH_SIZE"
  | .scope => environment.scope "SCOPE"
  | .selected => environment.list "SOURCES" DataSource.ofText? .unknownSource
  | .parts => environment.list "SETTINGS_PARTS" SettingsPart.ofText? .unknownPart
  | .level => .ok (environment "LOG_LEVEL")
  | .format => .ok ((environment "LOG_FORMAT").map logFormatOfVariable)
  | .forward => environment.truth "LOG_FORWARD"
  | .forwardLevel => .ok (environment "LOG_FORWARD_LEVEL")

/-- The fault of the variable of a setting, if there is one. -/
def fault? (setting : Setting) : Option ConfigError :=
  match environment.given setting with
  | .ok _ => none
  | .error error => some error

/-- The value that the variable of a setting gives, if it gives one. -/
def replacement? (setting : Setting) : Option setting.Value :=
  match environment.given setting with
  | .ok value => value
  | .error _ => none

/-- What becomes of a result once the variables of some settings have been looked at. -/
def settled {α : Type} (settings : List Setting) (result : α) : Except ConfigError α :=
  match settings.findSome? environment.fault? with
  | some error => .error error
  | none => .ok result

variable {environment}

theorem settled_cons_ok {α : Type} {setting : Setting} {value : Option setting.Value}
    (hgiven : environment.given setting = .ok value) (later : List Setting) (result : α) :
    environment.settled (setting :: later) result = environment.settled later result := by
  rw [settled, List.findSome?_cons, fault?, hgiven]
  rfl

/-- Reading one more variable first is settling one more setting first. -/
theorem bind_settled {α : Type} (setting : Setting) {later : List Setting} {result : α}
    {next : Option setting.Value → Except ConfigError α}
    (hnext : ∀ value, environment.given setting = .ok value →
      next value = environment.settled later result) :
    environment.given setting >>= next = environment.settled (setting :: later) result := by
  cases hgiven : environment.given setting with
  | error error =>
      rw [settled, List.findSome?_cons, fault?, hgiven]
      rfl
  | ok value => exact (hnext value hgiven).trans (settled_cons_ok hgiven later result).symm

theorem replacement?_eq {setting : Setting} {value : Option setting.Value}
    (hgiven : environment.given setting = .ok value) :
    environment.replacement? setting = value := by
  rw [replacement?, hgiven]

end Environment

namespace Config

variable (config : Config) (environment : Environment)

/-- The configuration with each setting whose variable gives a value replaced by that value. -/
def amended : Config where
  index := {
    baseUrl := (environment.replacement? .baseUrl).getD config.index.baseUrl
    stem := (environment.replacement? .stem).getD config.index.stem }
  batch := {
    maxDocs := (environment.replacement? .maxDocs).getD config.batch.maxDocs
    maxBytes := (environment.replacement? .maxBytes).getD config.batch.maxBytes }
  reporters := {
    intervalSecs := (environment.replacement? .interval).getD config.reporters.intervalSecs
    toolStatsEnabled :=
      (environment.replacement? .toolStats).getD config.reporters.toolStatsEnabled }
  retry := {
    queueCapacity := (environment.replacement? .capacity).getD config.retry.queueCapacity
    drainIntervalSecs :=
      (environment.replacement? .drainInterval).getD config.retry.drainIntervalSecs
    drainBatchSize := (environment.replacement? .drainSize).getD config.retry.drainBatchSize }
  scope := { config.scope with
    kind := (environment.replacement? .scope).getD config.scope.kind }
  sources := {
    selected := (environment.replacement? .selected).getD config.sources.selected
    settingsParts := (environment.replacement? .parts).getD config.sources.settingsParts }
  log := {
    level := (environment.replacement? .level).getD config.log.level
    format := (environment.replacement? .format).getD config.log.format
    forwardToIndex := (environment.replacement? .forward).getD config.log.forwardToIndex
    forwardLevel := (environment.replacement? .forwardLevel).getD config.log.forwardLevel }

/-- An amended setting is what its variable replaces it by, or what it was. -/
theorem get_amended (setting : Setting) :
    (config.amended environment).get setting =
      (environment.replacement? setting).getD (config.get setting) := by
  cases setting <;> rfl

/-- Amending twice is amending once. -/
theorem amended_amended :
    (config.amended environment).amended environment = config.amended environment := by
  refine ext_get (fun setting => ?_) rfl
  rw [get_amended, get_amended]
  cases environment.replacement? setting <;> rfl

/-- An environment is put on top of a configuration variable by variable. -/
theorem override_eq :
    config.override environment =
      environment.settled Setting.all (config.amended environment) := by
  -- The two that come first and the four about logging that cannot fail are passed over.
  refine Eq.trans ?_ (Environment.settled_cons_ok rfl _ _).symm
  refine Eq.trans ?_ (Environment.settled_cons_ok rfl _ _).symm
  refine Environment.bind_settled .maxDocs fun maxDocs hmaxDocs => ?_
  refine Environment.bind_settled .maxBytes fun maxBytes hmaxBytes => ?_
  refine Environment.bind_settled .interval fun interval hinterval => ?_
  refine Environment.bind_settled .toolStats fun toolStats htoolStats => ?_
  refine Environment.bind_settled .capacity fun capacity hcapacity => ?_
  refine Environment.bind_settled .drainInterval fun drainInterval hdrainInterval => ?_
  refine Environment.bind_settled .drainSize fun drainSize hdrainSize => ?_
  refine Environment.bind_settled .scope fun scope hscope => ?_
  refine Environment.bind_settled .selected fun selected hselected => ?_
  refine Environment.bind_settled .parts fun parts hparts => ?_
  refine Eq.trans ?_ (Environment.settled_cons_ok rfl _ _).symm
  refine Eq.trans ?_ (Environment.settled_cons_ok rfl _ _).symm
  refine Environment.bind_settled .forward fun forward hforward => ?_
  refine Eq.trans ?_ (Environment.settled_cons_ok rfl _ _).symm
  rw [amended, Environment.replacement?_eq hmaxDocs, Environment.replacement?_eq hmaxBytes,
    Environment.replacement?_eq hinterval, Environment.replacement?_eq htoolStats,
    Environment.replacement?_eq hcapacity, Environment.replacement?_eq hdrainInterval,
    Environment.replacement?_eq hdrainSize, Environment.replacement?_eq hscope,
    Environment.replacement?_eq hselected, Environment.replacement?_eq hparts,
    Environment.replacement?_eq hforward]
  rfl

end Config

end SearchFeed
