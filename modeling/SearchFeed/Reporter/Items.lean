import SearchFeed.Reporter.Stream

/-! # Reporters of items

Entries of the site map and findings are known again by their keys: a key is
marked once the whole batch it was sent with has been taken. Recorded messages
are sent every time, and those that are not taken are kept for another attempt.
-/

namespace SearchFeed

/-- How keyed items are gone through. -/
def keyedStream (α : Type) [Artifact α] (setup : Setup) (world : World) (mode : RunMode)
    (baseUrl : String) : Stream α PushKey DeliveredKeys where
  url := Artifact.url
  key := Artifact.key
  document := Artifact.document world.now
  hostInScope := world.sources.hostInScope (Artifact.source α)
  wanted item delivered := mode = .pushAll || !delivered.contains (Artifact.key item)
  flush batch progress :=
    let target : Target := ⟨.source (Artifact.source α), baseUrl, Artifact.kind α⟩
    let (delivery, session) :=
      progress.session.deliverBulk setup world target batch.documents
    let memory :=
      if delivery.isComplete then progress.memory.markAll batch.keys else progress.memory
    { progress with session, memory }.count delivery 0

/-- How recorded messages are gone through. -/
def historyStream (setup : Setup) (world : World) (baseUrl : String) :
    Stream TrafficRecord Unit Unit where
  url := Artifact.url
  key _ := ()
  document := Artifact.document world.now
  hostInScope := world.sources.hostInScope .proxyHistory
  wanted _ _ := true
  flush batch progress :=
    let target : Target := ⟨.source .proxyHistory, baseUrl, .traffic⟩
    let (delivery, session) :=
      progress.session.deliverBulk setup world target batch.documents
    if delivery.isComplete then { progress with session }.count delivery 0
    else
      let (queued, session) :=
        session.enqueueFailed world.now (setup.naming.name .traffic) delivery.failed
      { progress with session }.count delivery queued

/-- A cycle of the reporter of the site map. -/
def sitemapCycle (setup : Setup) (world : World) (mode : RunMode) (delivered : DeliveredKeys)
    (session : Session) : CycleResult × DeliveredKeys × Session :=
  Stream.cycle (keyedStream SitemapEntry setup world mode) setup world .sitemap
    world.sources.sitemap delivered session

/-- A cycle of the reporter of findings. -/
def findingsCycle (setup : Setup) (world : World) (mode : RunMode) (delivered : DeliveredKeys)
    (session : Session) : CycleResult × DeliveredKeys × Session :=
  Stream.cycle (keyedStream Finding setup world mode) setup world .findings
    world.sources.findings delivered session

/-- A cycle of the reporter of recorded messages, which sends all of them in either mode. -/
def historyCycle (setup : Setup) (world : World) (session : Session) : CycleResult × Session :=
  let (result, _, session) := Stream.cycle (historyStream setup world) setup world .proxyHistory
    world.sources.proxyHistory () session
  (result, session)

end SearchFeed
