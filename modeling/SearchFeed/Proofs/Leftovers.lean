import SearchFeed.Proofs.Labelled
import SearchFeed.Proofs.QueueRun
import SearchFeed.Proofs.Stint

/-! # What recorded messages leave in the retry queue

The batches of a cycle over recorded messages fail in part or as a whole, and
each of them offers what failed before the next one is sent. All the same, what
is left in the queue is what one offer of all that failed would have left: the
first of them, as far as there was room at the beginning of the cycle. So each
message in scope has got in, is kept, or was turned away.
-/

namespace SearchFeed

/-- Whether an exchange sends documents together, and is answered so. -/
def Exchange.IsBulk (exchange : Exchange) : Prop :=
  ∃ documents reply, exchange.request.payload = .bulk documents ∧ exchange.reply = .bulk reply

/-- The documents of some exchanges, labelled by whether they got in. -/
theorem exists_labels_exchanges {exchanges : List Exchange}
    (hbulk : ∀ exchange ∈ exchanges, exchange.IsBulk) :
    ∃ labelled : List (Document × Bool),
      labelled.map Prod.fst = (exchanges.flatMap fun exchange =>
        exchange.request.payload.documents) ∧
      withLabel true labelled = takenBy exchanges ∧
      withLabel false labelled = missedBy exchanges := by
  induction exchanges with
  | nil => exact ⟨[], rfl, rfl, rfl⟩
  | cons exchange rest ih =>
      obtain ⟨hfirst, hrest⟩ := List.forall_mem_cons.mp hbulk
      obtain ⟨documents, reply, hpayload, hreply⟩ := hfirst
      obtain ⟨first, hdocuments, htaken, hmissed⟩ := reply.exists_labels documents
      obtain ⟨others, hothers, htakens, hmisseds⟩ := ih hrest
      have haccepted : exchange.accepted = BulkReply.accepted documents reply := by
        simp only [Exchange.accepted, hpayload, hreply]
      have hrefused : exchange.refused = BulkReply.refused documents reply := by
        simp only [Exchange.refused, hpayload, hreply]
      refine ⟨first ++ others, ?_, ?_, ?_⟩
      · rw [List.map_append, hdocuments, hothers, List.flatMap_cons, hpayload]
        rfl
      · rw [withLabel_append, htaken, htakens, ← haccepted]
        rfl
      · rw [withLabel_append, hmissed, hmisseds, ← hrefused]
        rfl

/-- What becomes of a document that is sent while there is room for some to be kept. -/
inductive Fate where
  | taken
  /-- Missed, and kept for another attempt. -/
  | kept
  /-- Missed, with no room to keep it. -/
  | turnedAway
deriving DecidableEq

/-- The fates of items, by whether they got in: the first ones that are missed are kept while there
is room. -/
def fates {α : Type} : (room : Nat) → List (α × Bool) → List (α × Fate)
  | _, [] => []
  | room, (item, true) :: rest => (item, .taken) :: fates room rest
  | room + 1, (item, false) :: rest => (item, .kept) :: fates room rest
  | 0, (item, false) :: rest => (item, .turnedAway) :: fates 0 rest

section Fates

variable {α : Type} (room : Nat) (labelled : List (α × Bool))

theorem map_fst_fates : (fates room labelled).map Prod.fst = labelled.map Prod.fst := by
  fun_induction fates room labelled <;> simp_all

/-- The taken are those the reply took; of the refused, as many as there is room for are kept and
the others turned away. -/
theorem withLabel_fates :
    withLabel .taken (fates room labelled) = withLabel true labelled ∧
      withLabel .kept (fates room labelled) = (withLabel false labelled).take room ∧
      withLabel .turnedAway (fates room labelled) = (withLabel false labelled).drop room := by
  fun_induction fates room labelled with
  | case1 room => simp [withLabel]
  | case2 room item rest ih => simpa [withLabel_cons] using ih
  | case3 item rest room ih => simpa [withLabel_cons] using ih
  | case4 item rest ih => simpa [withLabel_cons] using ih

end Fates

/-- What is missed by a first send waits after it as far as there is room. -/
theorem Tally.documents_sendFirst (setup : Setup) (exchange : Exchange) (tally : Tally) :
    (tally.sendFirst setup exchange).queue.documents =
      (tally.queue.offerAll (setup.naming.name .traffic) exchange.refused).2.documents := by
  by_cases hmissed : exchange.refused = []
  · rw [sendFirst_of_taken tally hmissed, RetryQueue.documents_offerAll_eq, hmissed, List.take_nil,
      List.append_nil, Function.update_eq_self]
  · rw [sendFirst_of_refused tally hmissed]

theorem Tally.capacity_sendFirst (setup : Setup) (exchange : Exchange) (tally : Tally) :
    (tally.sendFirst setup exchange).queue.capacity = tally.queue.capacity := by
  unfold sendFirst
  split <;> rfl

section Cycles

variable (setup : Setup) (session : Session)

/-- How many more documents may wait for the traffic index. -/
def Session.trafficRoom : Nat :=
  session.queue.capacity - session.queue.size (setup.naming.name .traffic)

/-- A cycle over recorded messages so far: of all that its requests have missed, the first are kept
while there is room, after those that waited before. -/
structure KeepsFirst (progress : Progress Unit) (exchanges : List Exchange) : Prop where
  ledger : progress.session.ledger = session.ledger ++ exchanges
  bulk : ∀ exchange ∈ exchanges, exchange.IsBulk
  capacity : progress.session.queue.capacity = session.queue.capacity
  documents : progress.session.queue.documents =
    Function.update session.queue.documents (setup.naming.name .traffic)
      (session.queue.documents (setup.naming.name .traffic) ++
        (missedBy exchanges).take (session.trafficRoom setup))
  queued : progress.summary.queued = min (session.trafficRoom setup) (missedBy exchanges).length
  failed : progress.summary.failed = (missedBy exchanges).length

variable {setup session}

/-- The room that is left in the course of a cycle is what its failures have not used up. -/
theorem KeepsFirst.room_left {progress : Progress Unit} {exchanges : List Exchange}
    (hkeeps : KeepsFirst setup session progress exchanges) :
    progress.session.trafficRoom setup =
      session.trafficRoom setup - (missedBy exchanges).length := by
  rw [Session.trafficRoom, RetryQueue.size, hkeeps.documents, hkeeps.capacity, Function.update_self,
    List.length_append, List.length_take]
  simp only [Session.trafficRoom, RetryQueue.size]
  omega

/-- A flush adds its exchange, and keeps what the reply refused while there is room. -/
theorem KeepsFirst.flush {progress : Progress Unit} {exchanges : List Exchange}
    (hkeeps : KeepsFirst setup session progress exchanges) (world : World) (baseUrl : String)
    (batch : Batch Unit) :
    KeepsFirst setup session ((historyStream setup world baseUrl).flush batch progress)
      (exchanges ++ [historyExchange setup world baseUrl ⟨batch, progress⟩]) := by
  let exchange := historyExchange setup world baseUrl ⟨batch, progress⟩
  let after := (historyStream setup world baseUrl).flush batch progress
  have hmissed : missedBy (exchanges ++ [exchange]) = missedBy exchanges ++ exchange.refused := by
    rw [missedBy_append, missedBy_singleton]
  have htally : after.session.tally = progress.session.tally.sendFirst setup exchange :=
    history_tracks_tally.flush batch progress
  have hcounts : (after.summary.failed, after.summary.queued) = _ :=
    history_tracks_counts.flush batch progress
  have hroom := hkeeps.room_left
  constructor
  · rw [(history_reports setup world baseUrl).ledger.flush batch progress, hkeeps.ledger,
      List.append_assoc]
  · intro other hmem
    rcases List.mem_append.mp hmem with hearlier | hlast
    · exact hkeeps.bulk other hearlier
    · obtain rfl := List.mem_singleton.mp hlast
      exact ⟨_, _, rfl, rfl⟩
  · change after.session.tally.queue.capacity = _
    rw [htally, Tally.capacity_sendFirst]
    exact hkeeps.capacity
  · change after.session.tally.queue.documents = _
    rw [htally, Tally.documents_sendFirst, RetryQueue.documents_offerAll_eq, hmissed,
      List.take_append, ← hroom]
    change Function.update progress.session.queue.documents _ (progress.session.queue.documents _ ++
      exchange.refused.take (progress.session.trafficRoom setup)) = _
    rw [hkeeps.documents, Function.update_idem, Function.update_self, List.append_assoc]
  · have hqueued := (Prod.ext_iff.mp hcounts).2
    dsimp only at hqueued
    rw [hqueued, hkeeps.queued, hmissed, List.length_append, historyKept,
      RetryQueue.offerAll_accepted]
    change _ + min (progress.session.trafficRoom setup) exchange.refused.length = _
    rw [hroom]
    omega
  · have hfailed := (Prod.ext_iff.mp hcounts).1
    dsimp only at hfailed
    rw [hfailed, hkeeps.failed, hmissed, List.length_append]

theorem KeepsFirst.tell {progress : Progress Unit} {exchanges : List Exchange}
    (hkeeps : KeepsFirst setup session progress exchanges) (now : Instant) (event : Event) :
    KeepsFirst setup session { progress with session := progress.session.tell now event }
      exchanges := by
  obtain ⟨logs, hlogs⟩ := progress.session.tell_eq now event
  rw [hlogs]
  exact ⟨hkeeps.ledger, hkeeps.bulk, hkeeps.capacity, hkeeps.documents, hkeeps.queued,
    hkeeps.failed⟩

theorem keepsFirst_start (setup : Setup) (session : Session) (fetches : List DataSource)
    (fetched : Nat) :
    KeepsFirst setup session ⟨{ session with fetches }, (), { fetched }⟩ [] where
  ledger := (List.append_nil _).symm
  bulk := by simp
  capacity := rfl
  documents := by
    simp only [missedBy, List.flatMap_nil, List.take_nil, List.append_nil, Function.update_eq_self]
  queued := (Nat.min_zero _).symm
  failed := rfl

/-- The whole history stream keeps, in order, the first failures there is room for. -/
theorem keepsFirst_runFrom (setup : Setup) (world : World) (session : Session) (baseUrl : String)
    (items : List TrafficRecord) :
    ∃ exchanges, KeepsFirst setup session
      ((historyStream setup world baseUrl).runFrom setup.limits session.switches.filter world.now
        items (Batch.empty, Stream.opened .proxyHistory () session items)) exchanges := by
  refine @Stream.runFrom_keeps _ _ _ (historyStream setup world baseUrl) _ _ _
    (fun progress => ∃ exchanges, KeepsFirst setup session progress exchanges) ?_ ?_ ?_ items _ ?_
  · rintro progress event ⟨exchanges, hkeeps⟩
    exact ⟨exchanges, hkeeps.tell world.now event⟩
  · rintro progress candidates ⟨exchanges, hkeeps⟩
    exact ⟨exchanges, hkeeps.ledger, hkeeps.bulk, hkeeps.capacity, hkeeps.documents, hkeeps.queued,
      hkeeps.failed⟩
  · rintro batch progress ⟨exchanges, hkeeps⟩
    exact ⟨_, hkeeps.flush world baseUrl batch⟩
  · exact ⟨[], keepsFirst_start setup session _ items.length⟩

/-- A cycle keeps the first of its failures, however it ends, and it is completed if the messages
can be read. -/
theorem historyCycle_keepsFirst (setup : Setup) (world : World) (session : Session) :
    ∃ progress exchanges, KeepsFirst setup session progress exchanges ∧
      (historyCycle setup world session).2 = progress.session ∧
      ∀ (baseUrl : String) (items : List TrafficRecord),
        session.switches.preflight .proxyHistory = .ok baseUrl →
        world.sources.proxyHistory = .ok items →
        (historyCycle setup world session).1 = .ok (.completed progress.summary) := by
  unfold historyCycle
  rcases Stream.cycle_cases .proxyHistory () session (historyStream setup world) setup world
      world.sources.proxyHistory with
    ⟨reason, hblocked, hcycle⟩ | ⟨url, error, -, hunread, hcycle⟩ | ⟨url, read, -, -, hcycle⟩
  · refine ⟨_, [], keepsFirst_start setup session session.fetches 0, by rw [hcycle], ?_⟩
    intro baseUrl items hready
    rw [hblocked] at hready
    cases hready
  · refine ⟨_, [], keepsFirst_start setup session (.proxyHistory :: session.fetches) 0,
      by rw [hcycle]; rfl, ?_⟩
    intro baseUrl items _ hread
    rw [hunread] at hread
    cases hread
  · obtain ⟨exchanges, hkeeps⟩ := keepsFirst_runFrom setup world session url read
    exact ⟨_, exchanges, hkeeps, by rw [hcycle], fun _ _ _ _ => by rw [hcycle]⟩

end Cycles

/-- The messages in scope, each with what has become of it in a completed cycle. -/
theorem exists_fates (setup : Setup) (world : World) (session : Session)
    {items : List TrafficRecord} {exchanges : List Exchange} (hbulk : ∀ exchange ∈ exchanges, exchange.IsBulk)
    (hsubmitted : (exchanges.flatMap fun exchange => exchange.request.payload.documents) =
      (items.filter (recordedInScope world session)).map (Artifact.document world.now)) :
    ∃ settled : List (TrafficRecord × Fate),
      settled.map Prod.fst = items.filter (recordedInScope world session) ∧
      (withLabel .taken settled).map (Artifact.document world.now) = takenBy exchanges ∧
      (withLabel .kept settled).map (Artifact.document world.now) =
        (missedBy exchanges).take (session.trafficRoom setup) ∧
      (withLabel .turnedAway settled).map (Artifact.document world.now) =
        (missedBy exchanges).drop (session.trafficRoom setup) := by
  obtain ⟨labelled, hdocuments, htaken, hmissed⟩ := exists_labels_exchanges hbulk
  obtain ⟨hin, hkept, haway⟩ := withLabel_fates (session.trafficRoom setup) labelled
  obtain ⟨settled, hitems, hlabels⟩ := exists_labels_map
    ((map_fst_fates (session.trafficRoom setup) labelled).trans (hdocuments.trans hsubmitted))
  refine ⟨settled, hitems, ?_, ?_, ?_⟩
  · rw [hlabels, hin, htaken]
  · rw [hlabels, hkept, hmissed]
  · rw [hlabels, haway, hmissed]

/-- Whatever comes of a cycle over recorded messages, what waits for the traffic index afterwards is
what waited before and then the first of all that its requests have missed, in the order in which
they were sent, as far as there was room; and nothing else about the queue is different. If the
messages can be read, each of those in scope has got in, is kept or is turned away, and the
summary tells how many failed and how many are kept. -/
theorem history_keeps_first_failures (setup : Setup) (world : World) (mode : RunMode)
    (pipeline : Pipeline) :
    let session := pipeline.session
    let index := setup.naming.name .traffic
    let waiting := session.queue.documents index
    let room := session.queue.capacity - waiting.length
    let cycle := pipeline.cycle setup world .proxyHistory mode
    let after := cycle.2.session
    let sent := session.exchangesSince after
    after.ledger = session.ledger ++ sent ∧
    after.queue.documents index = waiting ++ (missedBy sent).take room ∧
    (∀ other, other ≠ index → after.queue.documents other = session.queue.documents other) ∧
    ∀ (baseUrl : String) (items : List TrafficRecord),
      session.switches.preflight .proxyHistory = .ok baseUrl →
      world.sources.proxyHistory = .ok items →
      ∃ summary, cycle.1 = .ok (.completed summary) ∧
        summary.failed = (missedBy sent).length ∧
        summary.queued = ((missedBy sent).take room).length ∧
        ∃ settled : List (TrafficRecord × Fate),
          settled.map Prod.fst = items.filter (recordedInScope world session) ∧
          (withLabel .taken settled).map (Artifact.document world.now) = takenBy sent ∧
          (withLabel .kept settled).map (Artifact.document world.now) =
            (missedBy sent).take room ∧
          (withLabel .turnedAway settled).map (Artifact.document world.now) =
            (missedBy sent).drop room := by
  intro session index waiting room cycle after sent
  obtain ⟨progress, exchanges, hkeeps, hafter, hcompletes⟩ :=
    historyCycle_keepsFirst setup world session
  change after = progress.session at hafter
  have hledger : after.ledger = session.ledger ++ exchanges := hafter ▸ hkeeps.ledger
  obtain rfl : sent = exchanges := Session.exchangesSince_eq hledger
  have hdocuments : after.queue.documents =
      Function.update session.queue.documents index (waiting ++ (missedBy sent).take room) :=
    hafter ▸ hkeeps.documents
  refine ⟨hledger, ?_, ?_, ?_⟩
  · rw [hdocuments, Function.update_self]
  · intro other hother
    rw [hdocuments, Function.update_of_ne hother]
  · intro baseUrl items hready hread
    have hcompleted : cycle.1 = .ok (.completed progress.summary) :=
      hcompletes baseUrl items hready hread
    obtain ⟨others, hothers, hsent, -, -⟩ := historyCycle_sentExactly setup world session hcompleted
    obtain rfl : items = others := Except.ok.inj (hread.symm.trans hothers)
    refine ⟨progress.summary, hcompleted, hkeeps.failed, ?_,
      exists_fates setup world session hkeeps.bulk hsent.submitted⟩
    rw [hkeeps.queued, List.length_take]
    rfl

/-- A document waits where two may, and three recorded messages are sent in two batches. Of the
first batch one message is refused and takes the room that is left; the second batch is lost. -/
theorem history_keeps_first_failures_room_for_one :
    let record (id : Nat) : TrafficRecord :=
      ⟨id, "http://a.test/", "GET", "a.test", 80, false, "proxy", none, .null, .null, []⟩
    let items := [record 1, record 2, record 3]
    let setup : Setup := { naming := ⟨"a"⟩, limits := ⟨2, 100000⟩ }
    let world := World.rehearsed ⟨[.reject [0]], .fail "down"⟩ { proxyHistory := .ok items }
    let pipeline : Pipeline :=
      { session := Session.fresh ((RetryQueue.ofCapacity 2).offer "a-traffic" .null).2 }
    let cycle := pipeline.cycle setup world .proxyHistory .pushAll
    let sent := pipeline.session.exchangesSince cycle.2.session
    pipeline.session.switches.preflight .proxyHistory = .ok "http://search.test" ∧
      cycle.1 = .ok (.completed ⟨3, 3, 2, 1, 2, 1⟩) ∧
      (missedBy sent).length = 2 ∧ "a" ≠ "a-traffic" ∧
      cycle.2.session.queue.documents "a" = [] ∧
      cycle.2.session.queue.documents "a-traffic" = [.null] ++ (missedBy sent).take 1 := by
  intro record items setup world pipeline cycle sent
  have hready : pipeline.session.switches.preflight .proxyHistory = .ok "http://search.test" := by
    dsimp only [pipeline]
    rfl
  have hcompleted : cycle.1 = .ok (.completed ⟨3, 3, 2, 1, 2, 1⟩) := by
    dsimp only [record, items, setup, world, pipeline, cycle]
    rfl
  have hindex : setup.naming.name .traffic = "a-traffic" := by decide
  have hbefore : pipeline.session.queue.documents "a-traffic" = [.null] := rfl
  have hcapacity : pipeline.session.queue.capacity = 2 := rfl
  obtain ⟨-, hwaiting, hothers, hcycles⟩ :=
    history_keeps_first_failures setup world .pushAll pipeline
  obtain ⟨summary, hsummary, hfailed, -⟩ := hcycles "http://search.test" items hready rfl
  obtain rfl : ⟨3, 3, 2, 1, 2, 1⟩ = summary :=
    CycleOutcome.completed.inj (Except.ok.inj (hcompleted.symm.trans hsummary))
  rw [hindex, hbefore, hcapacity] at hwaiting
  rw [hindex] at hothers
  exact ⟨hready, hcompleted, hfailed.symm, by decide, hothers "a" (by decide), hwaiting⟩

end SearchFeed
