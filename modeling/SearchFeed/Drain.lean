import SearchFeed.Delivery

/-! # Further attempts

A drain pass takes a limited number of documents from the queue of every index
and sends them again. What is not taken goes back to the end of its queue. The
reply for one index has no bearing on the others.
-/

namespace SearchFeed

/-- What a drain pass did. -/
structure DrainSummary where
  indexes : Nat := 0
  attempted : Nat := 0
  delivered : Nat := 0
  requeued : Nat := 0
  dropped : Nat := 0
deriving DecidableEq, Repr, Inhabited

namespace Session

/-- What is told about a request that failed as a whole. -/
def retryFailedEvent (index : String) (error : IndexError) : Event where
  level := .debug
  target := retryTarget
  message := "Retry bulk request failed"
  fields := [⟨"index", index⟩, ⟨"error", error.message⟩]

/-- What is told about a pass that is skipped. -/
def retrySkippedEvent (reason : SkipReason) (queued : Nat) : Event where
  level := .trace
  target := retryTarget
  message := "Retry pass skipped"
  fields := [⟨"reason", reason.label⟩, Field.ofNat "queued" queued]

/-- What is told about a pass that sent something. -/
def retryFinishedEvent (summary : DrainSummary) (remaining : Nat) : Event where
  level := .debug
  target := retryTarget
  message := "Retry pass finished"
  fields := [Field.ofNat "indexes" summary.indexes, Field.ofNat "attempted" summary.attempted,
    Field.ofNat "delivered" summary.delivered, Field.ofNat "requeued" summary.requeued,
    Field.ofNat "remaining" remaining]

/-- Credits delivered documents to the kind of an index, if the index has one. -/
def creditDelivered (session : Session) (naming : IndexNaming) (index : String) (count : Nat) :
    Session :=
  match naming.kind? index with
  | some kind => { session with stats := session.stats.addSuccess kind (.ofNat count) }
  | none => session

/-- Notes what came of sending documents again. -/
def settleRetry (session : Session) (setup : Setup) (world : World) (index : String)
    (documents : List Document) (reply : BulkReply) (summary : DrainSummary) :
    DrainSummary × Session :=
  let failed := BulkReply.refused documents reply
  let delivered := documents.length - failed.length
  let session := match reply with
    | .ok _ => session.creditDelivered setup.naming index delivered
    | .error error => session.tell world.now (retryFailedEvent index error)
  let (requeued, session) :=
    if failed.isEmpty then (0, session) else session.enqueueFailed world.now index failed
  ({ indexes := summary.indexes + 1
     attempted := summary.attempted + documents.length
     delivered := summary.delivered + delivered
     requeued := summary.requeued + requeued
     dropped := summary.dropped + (failed.length - requeued) }, session)

/-- Sends documents of one index again. -/
def drainIndex (session : Session) (setup : Setup) (world : World) (baseUrl index : String)
    (summary : DrainSummary) : DrainSummary × Session :=
  let (documents, queue) := session.queue.poll index setup.drainBatchSize
  let session := { session with queue }
  if documents.isEmpty then (summary, session)
  else
    let (reply, session) := session.sendBulk world.cluster .retry baseUrl index documents
    session.settleRetry setup world index documents reply summary

/-- One pass over the indexes that documents wait for, in ascending order of their names. -/
def drainOnce (session : Session) (setup : Setup) (world : World) : DrainSummary × Session :=
  match session.switches.destination with
  | .error reason =>
    ({}, session.tell world.now (retrySkippedEvent reason session.queue.totalSize))
  | .ok baseUrl =>
    let (summary, session) := session.queue.pending.foldl
      (fun (summary, session) index => session.drainIndex setup world baseUrl index summary)
      ({}, session)
    if 0 < summary.attempted then
      (summary, session.tell world.now (retryFinishedEvent summary session.queue.totalSize))
    else (summary, session)

/-- Passes until nothing waits, at most as many as allowed. -/
def drainUntilEmpty (setup : Setup) (world : World) : (passes : Nat) → Session → Session
  | 0, session => session
  | passes + 1, session =>
    if session.queue.isEmpty then session
    else drainUntilEmpty setup world passes (session.drainOnce setup world).2

end Session

end SearchFeed
