import SearchFeed.Session

/-! # Delivery

Sending documents to an index and keeping the statistics of that index. What
the cluster did not take is handed back in the order in which it was sent.
-/

namespace SearchFeed

/-- Where documents go. -/
structure Target where
  sender : Sender
  baseUrl : String
  kind : IndexKind
deriving Repr

/-- What came of a request. -/
structure Delivery where
  succeeded : Nat
  /-- The documents that were not taken, in the order in which they were sent. -/
  failed : List Document
deriving Repr

namespace Delivery

/-- Whether everything was taken. -/
def isComplete (delivery : Delivery) : Bool := delivery.failed.isEmpty

/-- What a reply means for the documents that were sent. -/
def ofReply (documents : List Document) (reply : BulkReply) : Delivery :=
  let failed := BulkReply.refused documents reply
  ⟨documents.length - failed.length, failed⟩

/-- What is to be remembered of a reply that left documents undelivered. -/
def errorText? (documents : List Document) (reply : BulkReply) : Option String :=
  match reply with
  | .error error => some error.message
  | .ok outcome =>
    let failed := (BulkReply.refused documents reply).length
    if failed = 0 then none
    else some (outcome.summary.getD ("Bulk had " ++ toString failed ++ " failure(s)"))

end Delivery

namespace Session

/-- Counts what came of a request for several documents. -/
def noteDelivery (session : Session) (kind : IndexKind) (latency : Nat) (error : Option String)
    (delivery : Delivery) : Session :=
  let timed := session.stats.notePush kind latency
  let told := match error with
    | some message => timed.noteError kind message
    | none => timed
  { session with
    stats := (told.addSuccess kind (.ofNat delivery.succeeded)).addFailure kind
      (.ofNat delivery.failed.length) }

/-- The part of the program that speaks about requests. -/
def flushTarget : String := "artifact_export_core::reporter::flush"

/-- What is told about a request. -/
def flushEvent (index : String) (submitted : Nat) (delivery : Delivery) : Event where
  level := .debug
  target := flushTarget
  message := "Bulk flush delivered"
  fields := [⟨"index", index⟩, Field.ofNat "submitted" submitted,
    Field.ofNat "succeeded" delivery.succeeded, Field.ofNat "failed" delivery.failed.length]

/-- Sends documents in one request and counts what came of it. -/
def deliverBulk (session : Session) (setup : Setup) (world : World) (target : Target)
    (documents : List Document) : Delivery × Session :=
  let index := setup.naming.name target.kind
  let (reply, sent) :=
    session.sendBulk world.cluster target.sender target.baseUrl index documents
  let delivery := Delivery.ofReply documents reply
  let counted :=
    sent.noteDelivery target.kind world.latency (Delivery.errorText? documents reply) delivery
  (delivery, counted.tell world.now (flushEvent index documents.length delivery))

/-- Sends one document and counts what came of it. -/
def deliverSingle (session : Session) (setup : Setup) (world : World) (target : Target)
    (errorText : IndexError → String) (document : Document) : DocumentReply × Session :=
  let index := setup.naming.name target.kind
  let (reply, sent) :=
    session.sendSingle world.cluster target.sender target.baseUrl index document
  match reply with
  | .ok () => (reply, sent.noteDelivery target.kind world.latency none ⟨1, []⟩)
  | .error error =>
    (reply, sent.noteDelivery target.kind world.latency (some (errorText error)) ⟨0, [document]⟩)

/-- The part of the program that speaks about further attempts. -/
def retryTarget : String := "artifact_export_core::retry"

/-- What is told when the retry queue of an index has no room. -/
def overflowEvent (index : String) (dropped queued : Nat) : Event where
  level := .debug
  target := retryTarget
  message := "Retry queue full; dropped failed documents"
  fields := [⟨"index", index⟩, Field.ofNat "dropped" dropped, Field.ofNat "queued" queued]

/-- The part of the program that speaks about the retry queue itself. -/
def queueTarget : String := "artifact_export_core::retry::queue"

/-- What the retry queue tells when it has no room for some documents of an offer. -/
def refusalEvent (index : String) (accepted dropped : Nat) : Event where
  level := .debug
  target := queueTarget
  message := "Retry queue full; dropping documents"
  fields := [⟨"index", index⟩, Field.ofNat "accepted" accepted, Field.ofNat "dropped" dropped]

/-- Keeps documents for another attempt; says how many found room. If not all do, the queue tells of
it and so does the part that asked. -/
def enqueueFailed (session : Session) (now : Instant) (index : String)
    (documents : List Document) : Nat × Session :=
  let (accepted, queue) := session.queue.offerAll index documents
  let kept := { session with queue }
  if accepted < documents.length then
    let dropped := documents.length - accepted
    (accepted, kept.tellAll now
      [refusalEvent index accepted dropped, overflowEvent index dropped (queue.size index)])
  else (accepted, kept)

end Session

end SearchFeed
