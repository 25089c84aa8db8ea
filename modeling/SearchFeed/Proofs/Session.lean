import SearchFeed.Proofs.Index
import SearchFeed.Proofs.Reply
import SearchFeed.Delivery
import SearchFeed.Rehearsal

/-! # What the operations on a session leave alone

Telling of an event touches the buffered log documents only. A request adds
one exchange to the ledger, counting touches the counters of one kind, and
keeping documents for another attempt touches the retry queue only.
-/

namespace SearchFeed

def Target.request (setup : Setup) (target : Target) (documents : List Document) : Request :=
  ⟨target.sender, target.baseUrl, setup.naming.name target.kind, .bulk documents⟩

def Target.singleRequest (setup : Setup) (target : Target) (document : Document) : Request :=
  ⟨target.sender, target.baseUrl, setup.naming.name target.kind, .single document⟩

namespace Session

/-- The exchanges that have been added to a session since it was as it was before. -/
def exchangesSince (before after : Session) : List Exchange :=
  after.ledger.drop before.ledger.length

/-- What a session has exchanged since an earlier one is what its ledger has more. -/
theorem exchangesSince_eq {before after : Session} {exchanges : List Exchange}
    (hledger : after.ledger = before.ledger ++ exchanges) :
    exchangesSince before after = exchanges := by
  rw [exchangesSince, hledger, List.drop_left]

variable (session : Session) (setup : Setup) (world : World) (target : Target)

section Telling

variable (now : Instant) (event : Event)

@[simp] theorem tell_switches : (session.tell now event).switches = session.switches := by
  unfold tell; split <;> rfl

@[simp] theorem tell_stats : (session.tell now event).stats = session.stats := by
  unfold tell; split <;> rfl

@[simp] theorem tell_queue : (session.tell now event).queue = session.queue := by
  unfold tell; split <;> rfl

@[simp] theorem tell_ledger : (session.tell now event).ledger = session.ledger := by
  unfold tell; split <;> rfl

/-- Telling of an event changes the buffered log documents and nothing else. -/
theorem tell_eq : ∃ logs, session.tell now event = { session with logs } := by
  unfold tell
  split
  · exact ⟨session.logs, rfl⟩
  · exact ⟨_, rfl⟩

@[simp] theorem tellAll_nil : session.tellAll now [] = session := rfl

@[simp] theorem tellAll_cons (rest : List Event) :
    session.tellAll now (event :: rest) = (session.tell now event).tellAll now rest := rfl

/-- Telling events changes the log only. -/
theorem tellAll_eq (events : List Event) :
    ∃ logs, session.tellAll now events = { session with logs } := by
  induction events generalizing session with
  | nil => exact ⟨session.logs, rfl⟩
  | cons event rest ih =>
      obtain ⟨first, hfirst⟩ := session.tell_eq now event
      obtain ⟨logs, hlogs⟩ := ih (session.tell now event)
      exact ⟨logs, by rw [tellAll_cons, hlogs, hfirst]⟩

end Telling

def bulkReply (documents : List Document) : BulkReply :=
  world.cluster.bulk session.ledger (target.request setup documents)

def bulkExchange (documents : List Document) : Exchange :=
  ⟨target.request setup documents, .bulk (session.bulkReply setup world target documents)⟩

def singleReply (document : Document) : DocumentReply :=
  world.cluster.single session.ledger (target.singleRequest setup document)

def singleExchange (document : Document) : Exchange :=
  ⟨target.singleRequest setup document,
    .single (session.singleReply setup world target document)⟩

section Counting

variable (kind other : IndexKind) (latency : Nat) (error : Option String) (delivery : Delivery)

@[simp] theorem noteDelivery_queue :
    (session.noteDelivery kind latency error delivery).queue = session.queue := rfl

@[simp] theorem noteDelivery_ledger :
    (session.noteDelivery kind latency error delivery).ledger = session.ledger := rfl

/-- Counting a delivery adds what failed to the failures of its kind. -/
theorem noteDelivery_failure :
    ((session.noteDelivery kind latency error delivery).stats.get other).failure =
      if other = kind then
        (session.stats.get other).failure + .ofNat delivery.failed.length
      else (session.stats.get other).failure := by
  unfold noteDelivery
  cases error <;> by_cases h : other = kind <;>
    simp [h, Stats.get_modify, Stats.addFailure, Stats.addSuccess, Stats.noteError, Stats.notePush]

end Counting

section Delivering

variable (documents : List Document)

/-- A bulk delivery is one exchange. -/
@[simp] theorem deliverBulk_ledger : (session.deliverBulk setup world target documents).2.ledger =
    session.ledger ++ [session.bulkExchange setup world target documents] := by
  simp only [deliverBulk, tell_ledger, noteDelivery_ledger]
  rfl

@[simp] theorem deliverBulk_queue :
    (session.deliverBulk setup world target documents).2.queue = session.queue := by
  simp only [deliverBulk, tell_queue, noteDelivery_queue]
  rfl

theorem deliverBulk_failure (kind : IndexKind) :
    ((session.deliverBulk setup world target documents).2.stats.get kind).failure =
      if kind = target.kind then (session.stats.get kind).failure + .ofNat
        (BulkReply.refused documents (session.bulkReply setup world target documents)).length
      else (session.stats.get kind).failure := by
  simp only [deliverBulk, tell_stats, noteDelivery_failure]
  rfl

variable (errorText : IndexError → String) (document : Document)

theorem deliverSingle_fst : (session.deliverSingle setup world target errorText document).1 =
    session.singleReply setup world target document := by
  simp only [deliverSingle]
  split <;> rfl

/-- A single delivery is one exchange. -/
@[simp] theorem deliverSingle_ledger :
    (session.deliverSingle setup world target errorText document).2.ledger =
      session.ledger ++ [session.singleExchange setup world target document] := by
  simp only [deliverSingle]
  split <;> rfl

@[simp] theorem deliverSingle_queue :
    (session.deliverSingle setup world target errorText document).2.queue = session.queue := by
  simp only [deliverSingle]
  split <;> rfl

end Delivering

section Keeping

variable (now : Instant) (index : String) (documents : List Document)

@[simp] theorem enqueueFailed_fst : (session.enqueueFailed now index documents).1 =
    (session.queue.offerAll index documents).1 := by
  simp only [enqueueFailed]
  split <;> rfl

@[simp] theorem enqueueFailed_queue : (session.enqueueFailed now index documents).2.queue =
    (session.queue.offerAll index documents).2 := by
  simp only [enqueueFailed]
  split <;> simp

@[simp] theorem enqueueFailed_ledger :
    (session.enqueueFailed now index documents).2.ledger = session.ledger := by
  simp only [enqueueFailed]
  split <;> simp

@[simp] theorem enqueueFailed_stats :
    (session.enqueueFailed now index documents).2.stats = session.stats := by
  simp only [enqueueFailed]
  split <;> simp

@[simp] theorem enqueueFailed_switches :
    (session.enqueueFailed now index documents).2.switches = session.switches := by
  simp only [enqueueFailed]
  split <;> simp

end Keeping

/-- A session of an export that runs, with nothing sent so far. -/
def fresh (queue : RetryQueue) : Session where
  switches := { running := true, baseUrl := some "http://search.test" }
  stats := .start ⟨0⟩
  queue

end Session

/-- A world in which a cluster answers from a script. -/
def World.rehearsed (script : Script) (sources : Sources) : World where
  sources
  cluster := script.cluster 0
  now := ⟨0⟩
  latency := 0

end SearchFeed
