import SearchFeed.Reporter.Items
import SearchFeed.Reporter.Settings
import SearchFeed.Reporter.Snapshot

/-! # Pipelines

A session together with what its reporters remember between cycles. A cycle
runs only if no other one of the same reporter is under way.
-/

namespace SearchFeed

/-- What the reporters remember between cycles. -/
structure Memory where
  sitemap : DeliveredKeys := .empty
  findings : DeliveredKeys := .empty
  /-- The digest of the settings that were taken last. -/
  settings : Option Digest := none

/-- A session and what its reporters remember. -/
structure Pipeline where
  session : Session
  memory : Memory := {}

/-- Whether a cycle of a reporter is under way. -/
structure Guard where
  running : Bool := false
deriving DecidableEq, Repr, Inhabited

namespace Guard

/-- Claims the guard, unless it is held. -/
def tryAcquire (guard : Guard) : Option Guard := if guard.running then none else some ⟨true⟩

/-- The guard after its holder has let it go. -/
def release (_ : Guard) : Guard := ⟨false⟩

end Guard

namespace Pipeline

/-- A cycle of a reporter. -/
def cycle (setup : Setup) (world : World) (reporter : Reporter) (mode : RunMode)
    (pipeline : Pipeline) : CycleResult × Pipeline :=
  let { session, memory } := pipeline
  match reporter with
  | .settings =>
    let (result, settings, session) := settingsCycle setup world mode memory.settings session
    (result, { session, memory := { memory with settings } })
  | .sitemap =>
    let (result, sitemap, session) := sitemapCycle setup world mode memory.sitemap session
    (result, { session, memory := { memory with sitemap } })
  | .findings =>
    let (result, findings, session) := findingsCycle setup world mode memory.findings session
    (result, { session, memory := { memory with findings } })
  | .proxyHistory =>
    let (result, session) := historyCycle setup world session
    (result, { session, memory })
  | .toolStats =>
    let (result, session) := statsReporter.cycle setup world session
    (result, { session, memory })
  | .configSnapshot =>
    let (result, session) := configReporter.cycle setup world session
    (result, { session, memory })

/-- A cycle under a guard. -/
def guardedCycle (setup : Setup) (world : World) (reporter : Reporter) (mode : RunMode)
    (guard : Guard) (pipeline : Pipeline) : CycleResult × Guard × Pipeline :=
  match guard.tryAcquire with
  | none => (.ok (.skipped .inProgress), guard, pipeline)
  | some held =>
    let (result, pipeline) := pipeline.cycle setup world reporter mode
    (result, held.release, pipeline)

/-- A cycle under a guard that is told about, unless its documents go where log documents go. -/
def loggedCycle (setup : Setup) (world : World) (reporter : Reporter) (mode : RunMode)
    (guard : Guard) (pipeline : Pipeline) : CycleResult × Guard × Pipeline :=
  let (result, guard, after) := pipeline.guardedCycle setup world reporter mode guard
  if reporter.writesToolIndex then (result, guard, after)
  else
    let session := after.session.tell world.now (reporter.cycleEvent mode result)
    (result, guard, { after with session })

end Pipeline

end SearchFeed
