import SearchFeed.Proofs.LiveMessage
import SearchFeed.Proofs.Masked
import SearchFeed.Proofs.Retrying

/-! # What a session holds for one index

The lane of an index is what the parts of an export that send to it read and
write: the exchanges with it, its counters and, for the traffic index, the
retry queue. A cluster that answers by index does not look at the exchanges
with other indexes, nor at the clock values in documents. Sessions that agree
on a lane then agree on it after the same work, even if other lanes differ and
the clock goes otherwise.
-/

namespace SearchFeed

/-- When a step is taken: a reading of the clock, and how long a request takes at that time. -/
structure Moment where
  now : Instant
  latency : Nat

def World.atMoment (world : World) (moment : Moment) : World :=
  { world with now := moment.now, latency := moment.latency }

/-- What some exchanges with an index were, but for clock values. -/
def historyOf (index : String) (exchanges : List Exchange) : List Exchange :=
  (exchangesWith index exchanges).map Exchange.masked

/-- An exchange is added to the history of its own index. -/
theorem historyOf_concat (exchanges : List Exchange) (exchange : Exchange) :
    historyOf exchange.request.index (exchanges ++ [exchange]) =
      historyOf exchange.request.index exchanges ++ [exchange.masked] := by
  simp [historyOf, exchangesWith]

/-- What a cluster answers depends on the request and on the exchanges with its index before, but
not on clock values. -/
structure Cluster.IsLocal (cluster : Cluster) : Prop where
  bulk {past past' : List Exchange} {request request' : Request} :
    request.masked = request'.masked →
      historyOf request.index past = historyOf request.index past' →
        cluster.bulk past request = cluster.bulk past' request'
  single {past past' : List Exchange} {request request' : Request} :
    request.masked = request'.masked →
      historyOf request.index past = historyOf request.index past' →
        cluster.single past request = cluster.single past' request'

/-- A cluster whose answers are made from the index of a request and what came before for it. -/
def Cluster.perIndex (bulk : String → List Exchange → BulkReply)
    (single : String → List Exchange → DocumentReply) : Cluster where
  bulk past request := bulk request.index (historyOf request.index past)
  single past request := single request.index (historyOf request.index past)

theorem Request.index_masked (request : Request) : request.masked.index = request.index := rfl

/-- A cluster that answers each index from that index's history alone is local. -/
theorem Cluster.perIndex_isLocal (bulk : String → List Exchange → BulkReply)
    (single : String → List Exchange → DocumentReply) : (perIndex bulk single).IsLocal := by
  have hindex {request request' : Request} (hsame : request.masked = request'.masked) :
      request.index = request'.index := by
    rw [← request.index_masked, hsame, request'.index_masked]
  constructor
  · intro past past' request request' hsame hpast
    simp only [perIndex, hpast]
    rw [hindex hsame]
  · intro past past' request request' hsame hpast
    simp only [perIndex, hpast]
    rw [hindex hsame]

/-- What a session holds for an index, but for clock values and durations. -/
structure Lane where
  switches : Switches
  history : List Exchange
  success : UInt64
  failure : UInt64
  lastError : Option String
  queue : RetryQueue

def Lane.noted (lane : Lane) (exchange : Exchange) (error : Option String)
    (succeeded failed : Nat) : Lane :=
  { lane with
    history := lane.history ++ [exchange]
    success := lane.success + .ofNat succeeded
    failure := lane.failure + .ofNat failed
    lastError := match error with
      | some message => Counters.remembered message
      | none => lane.lastError }

/-- What came of a request is the same for the same documents. -/
theorem Delivery.settled_alike {documents documents' : List Document} (reply : BulkReply)
    (hdocuments : documents.map Json.masked = documents'.map Json.masked) :
    errorText? documents reply = errorText? documents' reply ∧
      (ofReply documents reply).succeeded = (ofReply documents' reply).succeeded ∧
      (ofReply documents reply).failed.map Json.masked =
        (ofReply documents' reply).failed.map Json.masked := by
  have hfailed : (BulkReply.refused documents reply).map Json.masked =
      (BulkReply.refused documents' reply).map Json.masked := by
    rw [← BulkReply.refused_map, hdocuments, BulkReply.refused_map]
  have hrefused := congrArg List.length hfailed
  have hlength := congrArg List.length hdocuments
  simp only [List.length_map] at hrefused hlength
  refine ⟨?_, ?_, hfailed⟩
  · simp only [errorText?, hrefused]
  · simp only [ofReply, hrefused, hlength]

/-- How many documents a single reply delivers and loses does not depend on the document. -/
theorem DocumentReply.delivery_alike (document document' : Document) (reply : DocumentReply) :
    (delivery document reply).succeeded = (delivery document' reply).succeeded ∧
      (delivery document reply).failed.length = (delivery document' reply).failed.length := by
  cases reply <;> exact ⟨rfl, rfl⟩

namespace Target

variable {setup : Setup} (target : Target)

theorem masked_request {documents documents' : List Document}
    (hdocuments : documents.map Json.masked = documents'.map Json.masked) :
    (target.request setup documents).masked = (target.request setup documents').masked := by
  simp [request, Request.masked, Payload.masked, hdocuments]

theorem masked_singleRequest {document document' : Document}
    (hdocument : document.masked = document'.masked) :
    (target.singleRequest setup document).masked =
      (target.singleRequest setup document').masked := by
  simp [singleRequest, Request.masked, Payload.masked, hdocument]

end Target

namespace Session

variable (setup : Setup) (kind : IndexKind)

def lane (session : Session) : Lane :=
  let counters := session.stats.get kind
  { switches := session.switches
    history := historyOf (setup.naming.name kind) session.ledger
    success := counters.success
    failure := counters.failure
    lastError := counters.lastError
    queue := if kind = .traffic then session.queue.masked else .ofCapacity 0 }

/-- Telling an event leaves every lane as it is. -/
@[simp] theorem lane_tell (session : Session) (now : Instant) (event : Event) :
    (session.tell now event).lane setup kind = session.lane setup kind := by
  simp [lane]

variable {setup kind}

/-- A request that leaves switches and queue alone moves a lane by its exchange and its counters. -/
theorem lane_of_request {before after : Session} {exchange : Exchange} {latency : Nat}
    {error : Option String} {delivery : Delivery}
    (hledger : after.ledger = before.ledger ++ [exchange])
    (hindex : exchange.request.index = setup.naming.name kind)
    (hstats : after.stats.get kind = (before.stats.get kind).noted latency error delivery)
    (hswitches : after.switches = before.switches) (hqueue : after.queue = before.queue) :
    after.lane setup kind = (before.lane setup kind).noted exchange.masked error
      delivery.succeeded delivery.failed.length := by
  have hhistory : historyOf (setup.naming.name kind) after.ledger =
      historyOf (setup.naming.name kind) before.ledger ++ [exchange.masked] := by
    rw [hledger, ← hindex, historyOf_concat]
  cases error <;>
    simp [lane, Lane.noted, Counters.noted, hhistory, hstats, hswitches, hqueue]

/-- A bulk delivery moves the lane of its target as the reply says. -/
theorem lane_deliverBulk (session : Session) (world : World) (target : Target)
    (documents : List Document) :
    (session.deliverBulk setup world target documents).2.lane setup target.kind =
      let reply := session.bulkReply setup world target documents
      (session.lane setup target.kind).noted
        (session.bulkExchange setup world target documents).masked
        (Delivery.errorText? documents reply) (Delivery.ofReply documents reply).succeeded
        (Delivery.ofReply documents reply).failed.length :=
  lane_of_request (session.deliverBulk_ledger setup world target documents) rfl
    ((session.deliverBulk_get setup world target documents target.kind).trans (if_pos rfl))
    (session.deliverBulk_switches setup world target documents)
    (session.deliverBulk_queue setup world target documents)

/-- A single delivery moves the lane of its target as the reply says. -/
theorem lane_deliverSingle (session : Session) (world : World) (target : Target)
    (errorText : IndexError → String) (document : Document) :
    (session.deliverSingle setup world target errorText document).2.lane setup target.kind =
      let reply := session.singleReply setup world target document
      (session.lane setup target.kind).noted
        (session.singleExchange setup world target document).masked
        (DocumentReply.errorText? errorText reply)
        (DocumentReply.delivery document reply).succeeded
        (DocumentReply.delivery document reply).failed.length :=
  lane_of_request (session.deliverSingle_ledger setup world target errorText document) rfl
    ((session.deliverSingle_get setup world target errorText document target.kind).trans
      (if_pos rfl))
    (session.deliverSingle_switches setup world target errorText document)
    (session.deliverSingle_queue setup world target errorText document)

section Alike

variable {one two : Session} (world : World) (moment moment' : Moment) (target : Target)
  {documents documents' : List Document} {document document' : Document}
  (hlocal : world.cluster.IsLocal)

include hlocal

/-- A local cluster gives lookalike batches on equal lanes the same reply. -/
theorem bulkReply_alike (hlane : one.lane setup target.kind = two.lane setup target.kind)
    (hdocuments : documents.map Json.masked = documents'.map Json.masked) :
    one.bulkReply setup (world.atMoment moment) target documents =
      two.bulkReply setup (world.atMoment moment') target documents' :=
  hlocal.bulk (target.masked_request hdocuments) (congrArg Lane.history hlane)

/-- A local cluster gives lookalike documents on equal lanes the same reply. -/
theorem singleReply_alike (hlane : one.lane setup target.kind = two.lane setup target.kind)
    (hdocument : document.masked = document'.masked) :
    one.singleReply setup (world.atMoment moment) target document =
      two.singleReply setup (world.atMoment moment') target document' :=
  hlocal.single (target.masked_singleRequest hdocument) (congrArg Lane.history hlane)

/-- The same documents have the same effect on a lane, and the same ones of them fail. -/
theorem deliverBulk_alike (hlane : one.lane setup target.kind = two.lane setup target.kind)
    (hdocuments : documents.map Json.masked = documents'.map Json.masked) :
    let sent := one.deliverBulk setup (world.atMoment moment) target documents
    let sent' := two.deliverBulk setup (world.atMoment moment') target documents'
    sent.2.lane setup target.kind = sent'.2.lane setup target.kind ∧
      sent.1.succeeded = sent'.1.succeeded ∧
      sent.1.failed.map Json.masked = sent'.1.failed.map Json.masked := by
  intro sent sent'
  have hreply : one.bulkReply setup (world.atMoment moment) target documents =
      two.bulkReply setup (world.atMoment moment') target documents' :=
    bulkReply_alike world moment moment' target hlocal hlane hdocuments
  have hrequest : (target.request setup documents).masked = _ := target.masked_request hdocuments
  obtain ⟨herror, hsucceeded, hfailed⟩ := Delivery.settled_alike
    (two.bulkReply setup (world.atMoment moment') target documents') hdocuments
  have hlength := congrArg List.length hfailed
  rw [List.length_map, List.length_map] at hlength
  simp only [sent, sent', lane_deliverBulk, deliverBulk_fst, hlane, hreply, herror, hsucceeded,
    hlength, bulkExchange, Exchange.masked, hrequest]
  exact ⟨trivial, trivial, hfailed⟩

theorem deliverSingle_alike (errorText : IndexError → String)
    (hlane : one.lane setup target.kind = two.lane setup target.kind)
    (hdocument : document.masked = document'.masked) :
    let sent := one.deliverSingle setup (world.atMoment moment) target errorText document
    let sent' := two.deliverSingle setup (world.atMoment moment') target errorText document'
    sent.2.lane setup target.kind = sent'.2.lane setup target.kind ∧ sent.1 = sent'.1 := by
  intro sent sent'
  have hreply : one.singleReply setup (world.atMoment moment) target document =
      two.singleReply setup (world.atMoment moment') target document' :=
    singleReply_alike world moment moment' target hlocal hlane hdocument
  have hrequest : (target.singleRequest setup document).masked = _ :=
    target.masked_singleRequest hdocument
  have hdelivery := DocumentReply.delivery_alike document document'
    (two.singleReply setup (world.atMoment moment') target document')
  simp only [sent, sent', lane_deliverSingle, deliverSingle_fst, hlane, hreply, hdelivery,
    singleExchange, Exchange.masked, hrequest]
  exact ⟨trivial, trivial⟩

omit hlocal

/-- The same documents find as much room in the queue of the traffic index. -/
theorem enqueueFailed_alike (now now' : Instant) (index : String)
    (hlane : one.lane setup .traffic = two.lane setup .traffic)
    (hdocuments : documents.map Json.masked = documents'.map Json.masked) :
    let kept := one.enqueueFailed now index documents
    let kept' := two.enqueueFailed now' index documents'
    kept.2.lane setup .traffic = kept'.2.lane setup .traffic ∧ kept.1 = kept'.1 := by
  intro kept kept'
  have hqueue : one.queue.masked = two.queue.masked := congrArg Lane.queue hlane
  have hoffered := one.queue.masked_offerAll index documents
  rw [hqueue, hdocuments, two.queue.masked_offerAll] at hoffered
  obtain ⟨hcount, hroom⟩ := Prod.mk.injEq .. ▸ hoffered
  simp only [lane, Lane.mk.injEq] at hlane
  simp only [kept, kept', lane, enqueueFailed_fst, enqueueFailed_switches, enqueueFailed_ledger,
    enqueueFailed_stats, enqueueFailed_queue, hcount, hroom, hlane, if_true]
  exact ⟨trivial, trivial⟩

include hlocal

/-- A live record does the same to two sessions with one traffic lane, at any two usual moments. -/
theorem recordTraffic_alike (hnow : moment.now.IsUsual) (hnow' : moment'.now.IsUsual)
    (record : TrafficRecord) (hostInScope : Bool)
    (hlane : one.lane setup .traffic = two.lane setup .traffic) :
    (one.recordTraffic setup (world.atMoment moment) record hostInScope).2.lane setup .traffic =
      (two.recordTraffic setup (world.atMoment moment') record hostInScope).2.lane setup
        .traffic := by
  have hswitches : one.switches = two.switches := congrArg Lane.switches hlane
  have hdocument := masked_trafficRecord hnow hnow' record
  cases hpreflight : two.switches.preflight .traffic with
  | error reason =>
      have hpreflight' := hpreflight
      rw [← hswitches] at hpreflight'
      rw [recordTraffic_skipped hpreflight, recordTraffic_skipped hpreflight']
      exact hlane
  | ok baseUrl =>
      have hpreflight' := hpreflight
      rw [← hswitches] at hpreflight'
      have hscope : one.admitsLive record hostInScope = two.admitsLive record hostInScope := by
        rw [admitsLive, admitsLive, hswitches]
      have hdecided : (one.decidedLive (world.atMoment moment) record hostInScope).lane setup
          .traffic = (two.decidedLive (world.atMoment moment') record hostInScope).lane setup
            .traffic := by
        rw [decidedLive, decidedLive, lane_tell, lane_tell, hlane]
      by_cases hadmitted : two.admitsLive record hostInScope
      · have hadmitted' := hscope.trans hadmitted
        obtain ⟨hsent, hreply⟩ := deliverSingle_alike world moment moment'
          ⟨.source .traffic, baseUrl, .traffic⟩ hlocal IndexError.message hdecided hdocument
        cases hresult : (two.sentLive setup (world.atMoment moment') record hostInScope baseUrl).1
          with
        | ok _ =>
            have hresult' := hreply.trans hresult
            rw [recordTraffic_taken hpreflight hadmitted hresult,
              recordTraffic_taken hpreflight' hadmitted' hresult']
            exact hsent
        | error error =>
            have hresult' := hreply.trans hresult
            rw [recordTraffic_failed hpreflight hadmitted hresult,
              recordTraffic_failed hpreflight' hadmitted' hresult']
            refine (enqueueFailed_alike _ _ _ ?_ ?_).1
            · rw [lane_tell, lane_tell]
              exact hsent
            · exact congrArg (fun document => [document]) hdocument
      · have hadmitted' : ¬one.admitsLive record hostInScope := by
          rw [hscope]
          exact hadmitted
        rw [recordTraffic_outOfScope hpreflight hadmitted,
          recordTraffic_outOfScope hpreflight' hadmitted']
        exact hdecided

omit hlocal in
theorem pushSettings_eq (world : World) (baseUrl projectId : String)
    (exported : List (SettingsPart × String)) (lastPushed : Option Digest) (session : Session) :
    pushSettings setup world baseUrl projectId exported lastPushed session =
      let sent := session.deliverSingle setup world ⟨.source .settings, baseUrl, .settings⟩
        (fun _ => "Settings index push failed") (settingsDocument world.now projectId exported)
      let result := .ok (.completed (.ofSingle sent.1))
      match sent.1 with
      | .ok () => (result, some (settingsDigest exported), sent.2)
      | .error error => (result, lastPushed,
          sent.2.tell world.now (settingsEvent (setup.naming.name .settings) error)) := rfl

/-- A settings push does the same to two sessions with one settings lane, at any two usual moments.
-/
theorem pushSettings_alike (hnow : moment.now.IsUsual) (hnow' : moment'.now.IsUsual)
    (baseUrl projectId : String) (exported : List (SettingsPart × String))
    (lastPushed : Option Digest) (hlane : one.lane setup .settings = two.lane setup .settings) :
    let pushed := pushSettings setup (world.atMoment moment) baseUrl projectId exported lastPushed
      one
    let pushed' := pushSettings setup (world.atMoment moment') baseUrl projectId exported lastPushed
      two
    pushed.1 = pushed'.1 ∧ pushed.2.1 = pushed'.2.1 ∧
      pushed.2.2.lane setup .settings = pushed'.2.2.lane setup .settings := by
  intro pushed pushed'
  have hdocument := masked_settingsDocument hnow hnow' projectId exported
  obtain ⟨hsent, hreply⟩ := deliverSingle_alike world moment moment'
    ⟨.source .settings, baseUrl, .settings⟩ hlocal (fun _ => "Settings index push failed") hlane
    hdocument
  simp only [pushed, pushed', pushSettings_eq, World.atMoment] at hreply hsent ⊢
  rw [hreply]
  split
  · exact ⟨rfl, rfl, hsent⟩
  · refine ⟨rfl, rfl, ?_⟩
    rw [lane_tell, lane_tell]
    exact hsent

/-- A settings cycle, skipped or pushed, does the same to two sessions with one settings lane. -/
theorem settingsCycle_alike (hnow : moment.now.IsUsual) (hnow' : moment'.now.IsUsual)
    (mode : RunMode) (lastPushed : Option Digest)
    (hlane : one.lane setup .settings = two.lane setup .settings) :
    let cycle := settingsCycle setup (world.atMoment moment) mode lastPushed one
    let cycle' := settingsCycle setup (world.atMoment moment') mode lastPushed two
    cycle.1 = cycle'.1 ∧ cycle.2.1 = cycle'.2.1 ∧
      cycle.2.2.lane setup .settings = cycle'.2.2.lane setup .settings := by
  intro cycle cycle'
  have hswitches : one.switches = two.switches := congrArg Lane.switches hlane
  simp only [cycle, cycle', settingsCycle, hswitches]
  cases two.switches.preflight .settings with
  | error reason => exact ⟨rfl, rfl, hlane⟩
  | ok baseUrl =>
      dsimp only
      split
      · exact ⟨rfl, rfl, hlane⟩
      have hsources (moment : Moment) : (world.atMoment moment).sources = world.sources := rfl
      simp only [hsources]
      split
      · exact ⟨rfl, rfl, hlane⟩
      next exported _ =>
        split
        · exact ⟨rfl, rfl, hlane⟩
        · split
          · exact ⟨rfl, rfl, hlane⟩
          next projectId _ =>
            exact pushSettings_alike world moment moment' hlocal hnow hnow' baseUrl projectId
              exported lastPushed hlane

end Alike

end Session

end SearchFeed
