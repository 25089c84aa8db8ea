import SearchFeed.Config.Review
import SearchFeed.Traffic
import SearchFeed.Worker

/-! # Exporters

An exporter is put together from a configuration and the sources that the host
tool offers. Starting it sets one worker going for each of its reporters.
-/

namespace SearchFeed

/-- What an exporter is put together from. -/
structure ExporterParts where
  config : Config
  hasIndexer : Bool := true
  /-- Which reporters have a source to read. -/
  offered : Reporter → Bool
  /-- Whether who listens also hears what is told on the threads of workers. -/
  hearsWorkers : Bool := false

/-- An exporter. -/
structure Exporter where
  config : Config
  /-- The reporters that a push sets going, in order. -/
  reporters : List Reporter
  pipeline : Pipeline
  /-- Whether the workers have been set going. -/
  started : Bool := false
  hearsWorkers : Bool := false

namespace Exporter

/-- The reporters of an exporter: those with a source, and the one about statistics if it is
wanted. -/
def reportersOf (parts : ExporterParts) : List Reporter :=
  ([.settings, .sitemap, .findings, .proxyHistory].filter parts.offered) ++
    if parts.config.reporters.toolStatsEnabled then [.toolStats] else []

/-- What is fixed for an exporter. -/
def setup (exporter : Exporter) : Setup where
  naming := ⟨exporter.config.index.stem⟩
  limits := exporter.config.batchLimits
  drainBatchSize := exporter.config.retry.drainBatchSize

/-- Puts an exporter together. -/
def build (parts : ExporterParts) (now : Instant) : Except ConfigError Exporter :=
  match (Config.review parts.config.remarks).2 with
  | some error => .error error
  | none =>
    if !parts.hasIndexer then .error .missingIndexer
    else
      .ok
        { config := parts.config
          reporters := reportersOf parts
          pipeline :=
            { session :=
                { switches := .ofConfig parts.config
                  stats := .start now
                  queue := .ofCapacity parts.config.retry.queueCapacity } }
          hearsWorkers := parts.hearsWorkers }

/-- An exporter that has been put together and has done nothing yet. -/
def assembled (parts : ExporterParts) (now : Instant) : Exporter where
  config := parts.config
  reporters := reportersOf parts
  pipeline :=
    { session :=
        { switches := .ofConfig parts.config
          stats := .start now
          queue := .ofCapacity parts.config.retry.queueCapacity } }
  hearsWorkers := parts.hearsWorkers

theorem build_eq_ok {parts : ExporterParts} (now : Instant)
    (hreview : (Config.review parts.config.remarks).2 = none) (hindexer : parts.hasIndexer = true) :
    build parts now = .ok (assembled parts now) := by
  rw [build, hreview, hindexer]
  rfl

theorem eq_assembled {parts : ExporterParts} {now : Instant} {exporter : Exporter}
    (hbuilt : build parts now = .ok exporter) : exporter = assembled parts now := by
  rw [build] at hbuilt
  split at hbuilt
  · cases hbuilt
  · split at hbuilt
    · cases hbuilt
    · exact (Except.ok.inj hbuilt).symm

/-- Whether the export runs. -/
def isRunning (exporter : Exporter) : Bool := exporter.pipeline.session.switches.running

/-- The exporter with its session changed. -/
def onSession (exporter : Exporter) (change : Session → Session) : Exporter :=
  { exporter with
    pipeline := { exporter.pipeline with session := change exporter.pipeline.session } }

/-- Sets workers going, each for one cycle over everything. -/
def trigger (exporter : Exporter) (world : World) (reporters : List Reporter) : Exporter :=
  { exporter with
    pipeline := reporters.foldl
      (fun pipeline reporter =>
        pipeline.onThread exporter.hearsWorkers
          (Pipeline.cycles exporter.setup world reporter [.pushAll]))
      exporter.pipeline }

/-- The part of the program that speaks about an exporter as a whole. -/
def target : String := "artifact_export"

/-- What is told when the workers have been set up. -/
def spawnedEvent (exporter : Exporter) : Event where
  level := .debug
  target := target
  message := "Export workers spawned"
  fields := [Field.ofNat "reporters" exporter.reporters.length,
    Field.ofBool "log_forwarding" exporter.config.log.forwardToIndex]

/-- What is told when the export has been turned on. -/
def startedEvent (baseUrl : Option String) (reporters : Nat) : Event where
  level := .info
  target := target
  message := "Export started"
  fields := [⟨"base_url", baseUrl.getD "<unset>"⟩, Field.ofNat "reporters" reporters]

/-- What is told when the export has been turned off. -/
def stoppedEvent (queued : Nat) : Event where
  level := .info
  target := target
  message := "Export stopped"
  fields := [Field.ofNat "queued" queued]

/-- Sets the workers up, unless that has been done. -/
def spawn (exporter : Exporter) (now : Instant) : Exporter :=
  if exporter.started then exporter
  else
    { exporter with started := true }.onSession fun session =>
      session.tell now exporter.spawnedEvent

/-- Turns the export on, sends a snapshot of its settings and pushes everything. -/
def start (exporter : Exporter) (world : World) : Exporter :=
  let running := exporter.onSession fun session =>
    session.withSwitches fun switches => { switches with running := true }
  let pushed := (running.spawn world.now).trigger world (.configSnapshot :: exporter.reporters)
  pushed.onSession fun session => session.tell world.now
    (startedEvent session.switches.usableBaseUrl exporter.reporters.length)

/-- Turns the export off. -/
def stop (exporter : Exporter) (now : Instant := default) : Exporter :=
  exporter.onSession fun session =>
    (session.withSwitches fun switches => { switches with running := false }).tell now
      (stoppedEvent session.queue.totalSize)

/-- Pushes everything; says how many workers took the trigger. -/
def pushNow (exporter : Exporter) (world : World) : Nat × Exporter :=
  if exporter.started then
    (exporter.reporters.length, exporter.trigger world exporter.reporters)
  else (0, exporter)

/-- Sends a snapshot of the changed settings; says whether one is sent. -/
def configChanged (exporter : Exporter) (world : World) : Bool × Exporter :=
  if exporter.isRunning && exporter.started then
    (true, exporter.trigger world [.configSnapshot])
  else (false, exporter)

/-- Down to which level log events are to be forwarded, if they are to be forwarded. -/
def logLevel? (exporter : Exporter) : Option Level :=
  if exporter.config.log.forwardToIndex then
    some ((Level.ofText? exporter.config.log.forwardLevel).getD .info)
  else none

/-- The names of the indexes that the selected sources are written to. -/
def indexNames (exporter : Exporter) : List String :=
  exporter.setup.naming.names
    (DataSource.all.filter exporter.pipeline.session.switches.isSelected)

/-- The statistics at a moment. -/
def stats (exporter : Exporter) (now : Instant) : StatsSnapshot :=
  let session := exporter.pipeline.session
  session.stats.snapshot exporter.setup.naming session.queue now

end Exporter

end SearchFeed
