import SearchFeed.Proofs.Credit
import SearchFeed.Proofs.Unbatched

/-! # Stretches of work for one index

A part of an export that sends documents sends all of them to one address and
one index, and counts them for the kind of that index only. How many documents
its requests got in, and how many they did not, is what the counters have
gained by the end. Stretches of such work follow each other.
-/

namespace SearchFeed

def takenBy (exchanges : List Exchange) : List Document := exchanges.flatMap Exchange.accepted

def missedBy (exchanges : List Exchange) : List Document := exchanges.flatMap Exchange.refused

theorem takenBy_append (first second : List Exchange) :
    takenBy (first ++ second) = takenBy first ++ takenBy second := List.flatMap_append

theorem missedBy_append (first second : List Exchange) :
    missedBy (first ++ second) = missedBy first ++ missedBy second := List.flatMap_append

theorem takenBy_singleton (exchange : Exchange) : takenBy [exchange] = exchange.accepted :=
  List.flatMap_singleton _ _

theorem missedBy_singleton (exchange : Exchange) : missedBy [exchange] = exchange.refused :=
  List.flatMap_singleton _ _

namespace DocumentReply

def delivery (document : Document) : DocumentReply → Delivery
  | .ok () => ⟨1, []⟩
  | .error _ => ⟨0, [document]⟩

/-- What is remembered of sending a document on its own. -/
def errorText? (errorText : IndexError → String) : DocumentReply → Option String
  | .ok () => none
  | .error error => some (errorText error)

end DocumentReply

namespace Counters

def noted (counters : Counters) (latency : Nat) (error : Option String) (delivery : Delivery) :
    Counters where
  success := counters.success + .ofNat delivery.succeeded
  failure := counters.failure + .ofNat delivery.failed.length
  lastPush := some (min latency longestPush)
  lastError := match error with
    | some message => remembered message
    | none => counters.lastError

/-- Counters after some requests that are counted in full. -/
structure Gained (before after : Counters) (exchanges : List Exchange) : Prop where
  success : after.success = before.success + .ofNat (takenBy exchanges).length
  failure : after.failure = before.failure + .ofNat (missedBy exchanges).length
  timed : after.lastPush.isSome ↔ before.lastPush.isSome ∨ exchanges ≠ []

theorem Gained.refl (counters : Counters) : counters.Gained counters [] where
  success := (UInt64.add_zero _).symm
  failure := (UInt64.add_zero _).symm
  timed := by simp

/-- Gains of two lists of exchanges add up. -/
theorem Gained.trans {before middle after : Counters} {first second : List Exchange}
    (hfirst : before.Gained middle first) (hsecond : middle.Gained after second) :
    before.Gained after (first ++ second) where
  success := by
    rw [hsecond.success, hfirst.success, takenBy_append, List.length_append, UInt64.ofNat_add,
      UInt64.add_assoc]
  failure := by
    rw [hsecond.failure, hfirst.failure, missedBy_append, List.length_append, UInt64.ofNat_add,
      UInt64.add_assoc]
  timed := by
    rw [hsecond.timed, hfirst.timed, or_assoc, ne_eq, ne_eq, ne_eq, List.append_eq_nil_iff,
      not_and_or]

theorem gained_noted (counters : Counters) (latency : Nat) (error : Option String)
    {delivery : Delivery} {exchange : Exchange}
    (htaken : exchange.accepted.length = delivery.succeeded)
    (hmissed : exchange.refused.length = delivery.failed.length) :
    counters.Gained (counters.noted latency error delivery) [exchange] where
  success := by
    rw [takenBy_singleton, htaken]
    rfl
  failure := by
    rw [missedBy_singleton, hmissed]
    rfl
  timed := by simp [noted]

end Counters

namespace Session

variable (session : Session) (setup : Setup) (world : World) (target : Target)

theorem noteDelivery_get (kind other : IndexKind) (latency : Nat) (error : Option String)
    (delivery : Delivery) :
    (session.noteDelivery kind latency error delivery).stats.get other =
      if other = kind then (session.stats.get other).noted latency error delivery
      else session.stats.get other := by
  unfold noteDelivery
  by_cases hother : other = kind
  · cases error <;> simp [hother, Counters.noted, Stats.get_modify, Stats.addFailure,
      Stats.addSuccess, Stats.noteError, Stats.notePush]
  · cases error <;> simp [hother, Stats.get_modify, Stats.addFailure, Stats.addSuccess,
      Stats.noteError, Stats.notePush]

theorem deliverBulk_get (documents : List Document) (kind : IndexKind) :
    (session.deliverBulk setup world target documents).2.stats.get kind =
      let reply := session.bulkReply setup world target documents
      if kind = target.kind then
        (session.stats.get kind).noted world.latency (Delivery.errorText? documents reply)
          (.ofReply documents reply)
      else session.stats.get kind := by
  simp only [deliverBulk, tell_stats, noteDelivery_get]
  rfl

theorem deliverSingle_get (errorText : IndexError → String) (document : Document)
    (kind : IndexKind) :
    (session.deliverSingle setup world target errorText document).2.stats.get kind =
      let reply := session.singleReply setup world target document
      if kind = target.kind then
        (session.stats.get kind).noted world.latency (DocumentReply.errorText? errorText reply)
          (DocumentReply.delivery document reply)
      else session.stats.get kind := by
  simp only [deliverSingle]
  split
  next hreply =>
    rw [noteDelivery_get, show session.singleReply setup world target document = .ok () from
      hreply]
    rfl
  next error hreply =>
    rw [noteDelivery_get, show session.singleReply setup world target document = .error error
      from hreply]
    rfl

/-- A stretch of work that makes some requests in the name of one sender, and leaves the counters of
other kinds and the switches alone. -/
structure Stint (setup : Setup) (target : Target) (before after : Session)
    (exchanges : List Exchange) : Prop where
  ledger : after.ledger = before.ledger ++ exchanges
  requests : ∀ exchange ∈ exchanges, exchange.request.sender = target.sender ∧
    exchange.request.baseUrl = target.baseUrl ∧
    exchange.request.index = setup.naming.name target.kind
  gained : (before.stats.get target.kind).Gained (after.stats.get target.kind) exchanges
  others (other : IndexKind) : other ≠ target.kind → after.stats.get other = before.stats.get other
  switches : after.switches = before.switches
  queue : before.queue.Reachable → after.queue.Reachable

section Stints

variable {setup target} {before middle after : Session}

theorem Stint.refl (session : Session) : Stint setup target session session [] where
  ledger := (List.append_nil _).symm
  requests := by simp
  gained := .refl _
  others _ _ := rfl
  switches := rfl
  queue := id

theorem Stint.trans {first second : List Exchange} (hfirst : Stint setup target before middle first)
    (hsecond : Stint setup target middle after second) :
    Stint setup target before after (first ++ second) where
  ledger := by rw [hsecond.ledger, hfirst.ledger, List.append_assoc]
  requests exchange hmem := (List.mem_append.mp hmem).elim
    (hfirst.requests exchange) (hsecond.requests exchange)
  gained := hfirst.gained.trans hsecond.gained
  others other hother := (hsecond.others other hother).trans (hfirst.others other hother)
  switches := hsecond.switches.trans hfirst.switches
  queue := hsecond.queue ∘ hfirst.queue

/-- One request is a stretch of work if it is counted in full. -/
theorem Stint.of_request {exchange : Exchange} {latency : Nat} {error : Option String}
    {delivery : Delivery} (hledger : after.ledger = before.ledger ++ [exchange])
    (hsender : exchange.request.sender = target.sender)
    (hbaseUrl : exchange.request.baseUrl = target.baseUrl)
    (hindex : exchange.request.index = setup.naming.name target.kind)
    (hstats : ∀ kind, after.stats.get kind =
      if kind = target.kind then (before.stats.get kind).noted latency error delivery
      else before.stats.get kind)
    (htaken : exchange.accepted.length = delivery.succeeded)
    (hmissed : exchange.refused.length = delivery.failed.length)
    (hswitches : after.switches = before.switches) (hqueue : after.queue = before.queue) :
    Stint setup target before after [exchange] where
  ledger := hledger
  requests other hmem := by
    obtain rfl := List.mem_singleton.mp hmem
    exact ⟨hsender, hbaseUrl, hindex⟩
  gained := by
    rw [hstats, if_pos rfl]
    exact Counters.gained_noted _ latency error htaken hmissed
  others other hother := by rw [hstats, if_neg hother]
  switches := hswitches
  queue hreach := hqueue ▸ hreach

end Stints

@[simp] theorem noteDelivery_switches (kind : IndexKind) (latency : Nat) (error : Option String)
    (delivery : Delivery) :
    (session.noteDelivery kind latency error delivery).switches = session.switches := rfl

theorem deliverBulk_switches (documents : List Document) :
    (session.deliverBulk setup world target documents).2.switches = session.switches := by
  simp [deliverBulk, sendBulk]

/-- A bulk delivery is a stint of one exchange. -/
theorem deliverBulk_stint (documents : List Document) :
    Stint setup target session (session.deliverBulk setup world target documents).2
      [session.bulkExchange setup world target documents] :=
  .of_request (session.deliverBulk_ledger setup world target documents) rfl rfl rfl
    (session.deliverBulk_get setup world target documents)
    (Delivery.ofReply_succeeded documents _).symm rfl
    (session.deliverBulk_switches setup world target documents)
    (session.deliverBulk_queue setup world target documents)

theorem deliverSingle_switches (errorText : IndexError → String) (document : Document) :
    (session.deliverSingle setup world target errorText document).2.switches =
      session.switches := by
  simp only [deliverSingle]
  split <;> rfl

theorem length_singleExchange_accepted (document : Document) :
    (session.singleExchange setup world target document).accepted.length =
      (DocumentReply.delivery document
        (session.singleReply setup world target document)).succeeded := by
  unfold singleExchange Exchange.accepted
  cases session.singleReply setup world target document <;> rfl

theorem length_singleExchange_refused (document : Document) :
    (session.singleExchange setup world target document).refused.length =
      (DocumentReply.delivery document
        (session.singleReply setup world target document)).failed.length := by
  unfold singleExchange Exchange.refused
  cases session.singleReply setup world target document <;> rfl

/-- A single delivery is a stint of one exchange. -/
theorem deliverSingle_stint (errorText : IndexError → String) (document : Document) :
    Stint setup target session (session.deliverSingle setup world target errorText document).2
      [session.singleExchange setup world target document] :=
  .of_request (session.deliverSingle_ledger setup world target errorText document) rfl rfl rfl
    (session.deliverSingle_get setup world target errorText document)
    (session.length_singleExchange_accepted setup world target document)
    (session.length_singleExchange_refused setup world target document)
    (session.deliverSingle_switches setup world target errorText document)
    (session.deliverSingle_queue setup world target errorText document)

section Aside

variable {setup target} {session} {after : Session} {exchanges : List Exchange}

/-- Telling of an event adds nothing to a stretch of work. -/
theorem Stint.tell (hstint : Stint setup target session after exchanges) (now : Instant)
    (event : Event) : Stint setup target session (after.tell now event) exchanges := by
  obtain ⟨logs, hlogs⟩ := after.tell_eq now event
  rw [hlogs]
  exact ⟨hstint.ledger, hstint.requests, hstint.gained, hstint.others, hstint.switches,
    hstint.queue⟩

/-- Neither does keeping documents for another attempt. -/
theorem Stint.enqueueFailed (hstint : Stint setup target session after exchanges) (now : Instant)
    (index : String) (documents : List Document) :
    Stint setup target session (after.enqueueFailed now index documents).2 exchanges where
  ledger := (after.enqueueFailed_ledger now index documents).trans hstint.ledger
  requests := hstint.requests
  gained := (after.enqueueFailed_stats now index documents).symm ▸ hstint.gained
  others other hother := by
    rw [enqueueFailed_stats]
    exact hstint.others other hother
  switches := (after.enqueueFailed_switches now index documents).trans hstint.switches
  queue hreach := by
    rw [enqueueFailed_queue]
    exact (hstint.queue hreach).offerAll index documents

end Aside

end Session

namespace Stream

variable {α κ μ : Type} (stream : Stream α κ μ) (limits : BatchLimits) (filter : ScopeFilter)
  (now : Instant)

/-- What telling, counting a candidate and every flush keep up is kept up by a whole run. -/
theorem runFrom_keeps {holds : Progress μ → Prop}
    (htell : ∀ progress event, holds progress →
      holds { progress with session := progress.session.tell now event })
    (hcount : ∀ (progress : Progress μ) candidates, holds progress →
      holds { progress with summary := { progress.summary with candidates } })
    (hflush : ∀ batch progress, holds progress → holds (stream.flush batch progress))
    (items : List α) (state : Batch κ × Progress μ) (hstart : holds state.2) :
    holds (stream.runFrom limits filter now items state) := by
  have hflushes : ∀ (ready : List (Batch κ)) (progress : Progress μ), holds progress →
      holds (stream.flushAll ready progress) := by
    intro ready
    induction ready with
    | nil => exact fun _ hready => hready
    | cons batch rest ih => exact fun progress hready => ih _ (hflush batch progress hready)
  induction items generalizing state with
  | nil => exact hflushes _ _ hstart
  | cons item rest ih =>
      rw [runFrom_cons]
      apply ih
      rw [take_eq]
      split
      · exact hflushes _ _ (hcount _ _ (htell _ _ hstart))
      · exact htell _ _ hstart

/-- A cycle so far: the work for one index since it began, and a summary that counts just that
work. -/
def Reached (setup : Setup) (target : Target) (before : Session) (progress : Progress μ) : Prop :=
  ∃ exchanges, Session.Stint setup target before progress.session exchanges ∧
    progress.summary.succeeded = (takenBy exchanges).length ∧
    progress.summary.failed = (missedBy exchanges).length

section Reaching

variable {setup : Setup} {target : Target} {before : Session} {progress : Progress μ}

theorem Reached.tell (hreached : Reached setup target before progress) (event : Event) :
    Reached setup target before
      { progress with session := progress.session.tell now event } := by
  obtain ⟨exchanges, hstint, hcounts⟩ := hreached
  exact ⟨exchanges, hstint.tell now event, hcounts⟩

/-- A request for several documents takes a cycle further if its summary counts the reply. -/
theorem Reached.count (hreached : Reached setup target before progress) (world : World)
    (documents : List Document) (queued : Nat) {after : Session}
    (hafter : Session.Stint setup target progress.session after
      [progress.session.bulkExchange setup world target documents]) :
    let reply := progress.session.bulkReply setup world target documents
    Reached setup target before
      ({ progress with session := after }.count (.ofReply documents reply) queued) := by
  intro reply
  obtain ⟨exchanges, hstint, hsucceeded, hfailed⟩ := hreached
  refine ⟨_, hstint.trans hafter, ?_, ?_⟩
  · rw [takenBy_append, takenBy_singleton, List.length_append, ← hsucceeded]
    exact congrArg _ (Delivery.ofReply_succeeded documents reply)
  · rw [missedBy_append, missedBy_singleton, List.length_append, ← hfailed]
    rfl

/-- A stream starts where nothing has been exchanged yet. -/
theorem reached_opened (setup : Setup) (target : Target) (source : DataSource) (memory : μ)
    (session : Session) (items : List α) :
    Reached setup target session (opened source memory session items) := by
  refine ⟨[], ?_, rfl, rfl⟩
  exact ⟨(List.append_nil _).symm, by simp, .refl _, fun _ _ => rfl, rfl, id⟩

end Reaching

end Stream

end SearchFeed
