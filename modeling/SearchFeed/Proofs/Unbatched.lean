import SearchFeed.Proofs.History
import SearchFeed.Proofs.Keyed
import SearchFeed.Pipeline

/-! # A cycle sends what a plain filter picks

Filtering, marking, batching and sending take turns in a cycle. What leaves it
is nevertheless what one filter over the fetched items picks, in their order,
where an item meets the marks as they are when its turn comes. The summary of
the cycle counts just that. Where no marks are asked for, what is sent depends
on the items and the scope only.
-/

namespace SearchFeed

/-- The documents of the requests that have been made since a session was as it was before, in the
order of the requests. -/
def Session.submittedSince (before after : Session) : List Document :=
  (exchangesSince before after).flatMap fun exchange => exchange.request.payload.documents

/-- What a cycle has sent is exactly these documents, and its summary says so. -/
structure SentExactly (before after : Session) (documents : List Document)
    (summary : CycleSummary) : Prop where
  ledger : after.ledger = before.ledger ++ Session.exchangesSince before after
  submitted : Session.submittedSince before after = documents
  candidates : summary.candidates = documents.length
  flushes : summary.flushes = (Session.exchangesSince before after).length
  settled : summary.succeeded + summary.failed = summary.candidates

namespace Stream

variable {α κ μ β : Type} (stream : Stream α κ μ) (limits : BatchLimits) (filter : ScopeFilter)
  (now : Instant)

def turns : List α → Batch κ × Progress μ → List (α × μ)
  | [], _ => []
  | item :: rest, state =>
    (item, state.2.memory) :: turns rest (stream.take limits filter now item state)

/-- Every item has one turn, in order. -/
theorem turns_items (items : List α) (state : Batch κ × Progress μ) :
    (stream.turns limits filter now items state).map Prod.fst = items := by
  induction items generalizing state with
  | nil => rfl
  | cons item rest ih => rw [turns, List.map_cons, ih]

/-- The items that are sent are picked by a filter over the turns. -/
theorem chosen_eq (items : List α) (state : Batch κ × Progress μ) :
    stream.chosen limits filter now items state =
      ((stream.turns limits filter now items state).filter
        fun turn => stream.chooses filter turn.1 turn.2).map Prod.fst := by
  induction items generalizing state with
  | nil => rfl
  | cons item rest ih =>
      rw [chosen, turns, List.filter_cons]
      by_cases hchosen : stream.chooses filter item state.2.memory
      · rw [if_pos hchosen, if_pos hchosen, List.map_cons, ih]
      · rw [if_neg hchosen, if_neg hchosen, ih]

/-- Where everything in scope is wanted, all of it is sent, whatever is remembered. -/
theorem chosen_of_wanted (hwanted : ∀ item memory, stream.wanted item memory = true)
    (items : List α) (state : Batch κ × Progress μ) :
    stream.chosen limits filter now items state = items.filter (stream.admits filter) := by
  have hchooses : (fun turn : α × μ => stream.chooses filter turn.1 turn.2) =
      stream.admits filter ∘ Prod.fst := by
    funext turn
    rw [chooses, hwanted, Bool.and_true, Function.comp_apply]
  rw [chosen_eq, hchooses, ← List.filter_map, turns_items]

/-- What an item meets in its turn is what the requests so far have made of what was there at the
start. -/
theorem Tracks.turn_eq {stream : Stream α κ μ} {change : Dispatch κ μ → μ → μ}
    (htracks : stream.Tracks Progress.memory change) {items : List α}
    {state : Batch κ × Progress μ} {earlier later : List (α × μ)} {turn : α × μ}
    (hturns : stream.turns limits filter now items state = earlier ++ turn :: later) :
    ∃ sent unsent, stream.dispatches limits filter now items state = sent ++ unsent ∧
      turn.2 = sent.foldl (fun memory dispatch => change dispatch memory) state.2.memory := by
  induction items generalizing state earlier with
  | nil => simp [turns] at hturns
  | cons item rest ih =>
      rw [turns] at hturns
      cases earlier with
      | nil =>
          obtain ⟨rfl, -⟩ := List.cons.inj hturns
          exact ⟨[], _, rfl, rfl⟩
      | cons first others =>
          obtain ⟨-, hrest⟩ := List.cons.inj hturns
          obtain ⟨sent, unsent, hsent, hturn⟩ := ih hrest
          refine ⟨stream.dispatchesAt limits filter now item state ++ sent, unsent, ?_, ?_⟩
          · rw [dispatches, hsent, List.append_assoc]
          · rw [hturn, List.foldl_append,
              (htracks.linked_dispatchesAt limits filter now item state).finish_eq]

/-- A stream that makes one request for each batch, and counts the request and its documents. -/
structure Reports (exchange : Dispatch κ μ → Exchange) : Prop where
  ledger : stream.Tracks (fun progress => progress.session.ledger)
    (fun dispatch ledger => ledger ++ [exchange dispatch])
  documents (dispatch : Dispatch κ μ) :
    (exchange dispatch).request.payload.documents = dispatch.batch.documents
  fetched : stream.Tracks (fun progress => progress.summary.fetched) (fun _ fetched => fetched)
  flushes : stream.Tracks (fun progress => progress.summary.flushes)
    (fun _ flushes => flushes + 1)
  settled : stream.Tracks (fun progress => progress.summary.succeeded + progress.summary.failed)
    (fun dispatch settled => settled + dispatch.batch.documents.length)
  candidates (batch : Batch κ) (progress : Progress μ) :
    (stream.flush batch progress).summary.candidates = progress.summary.candidates

section Reporting

variable {stream} {exchange : Dispatch κ μ → Exchange}

theorem Reports.flushAll_candidates (hreports : stream.Reports exchange) (ready : List (Batch κ))
    (progress : Progress μ) :
    (stream.flushAll ready progress).summary.candidates = progress.summary.candidates := by
  induction ready generalizing progress with
  | nil => rfl
  | cons batch rest ih => exact (ih _).trans (hreports.candidates batch progress)

/-- The candidates counted in a run are the items chosen in it. -/
theorem Reports.runFrom_candidates (hreports : stream.Reports exchange) (items : List α)
    (state : Batch κ × Progress μ) :
    (stream.runFrom limits filter now items state).summary.candidates =
      state.2.summary.candidates + (stream.chosen limits filter now items state).length := by
  induction items generalizing state with
  | nil => exact hreports.flushAll_candidates _ _
  | cons item rest ih =>
      rw [runFrom_cons, ih, chosen, take_eq]
      split
      · rw [hreports.flushAll_candidates, List.length_cons]
        simp only [counted]
        omega
      · rfl

/-- A cycle that begins with nothing pending and nothing counted sends exactly what is chosen, and
its summary says so. -/
theorem Reports.sentExactly (hreports : stream.Reports exchange) (items : List α) (memory : μ)
    (source : DataSource) (session : Session) :
    let start := (Batch.empty, opened source memory session items)
    let after := stream.runFrom limits filter now items start
    SentExactly session after.session
        ((stream.chosen limits filter now items start).map stream.document) after.summary ∧
      after.summary.fetched = items.length := by
  intro start after
  let sent := stream.dispatches limits filter now items start
  let chosen := stream.chosen limits filter now items start
  have hledger : after.session.ledger = session.ledger ++ sent.map exchange :=
    (hreports.ledger.linked limits filter now items start).entries_eq
  have hexchanges := Session.exchangesSince_eq hledger
  have hdocuments : (sent.flatMap fun dispatch => dispatch.batch.documents) =
      chosen.map stream.document := by
    have hentries := congrArg (List.map Prod.snd)
      (stream.dispatches_entries limits filter now items start)
    rwa [List.map_flatMap, List.map_append, List.map_map] at hentries
  have hcandidates : after.summary.candidates = chosen.length :=
    (hreports.runFrom_candidates limits filter now items start).trans (Nat.zero_add _)
  have hsettled : after.summary.succeeded + after.summary.failed = chosen.length := by
    refine (hreports.settled.linked limits filter now items start).finish_eq.trans ?_
    have hlength : chosen.length = (chosen.map stream.document).length := by
      rw [List.length_map]
    rw [hlength, ← hdocuments, List.length_flatMap, List.sum_eq_foldl, List.foldl_map]
    rfl
  refine ⟨⟨?_, ?_, ?_, ?_, ?_⟩, ?_⟩
  · rw [hexchanges, hledger]
  · rw [Session.submittedSince, hexchanges, List.flatMap_map]
    simp only [hreports.documents]
    exact hdocuments
  · rw [List.length_map]
    exact hcandidates
  · have hflushes := (hreports.flushes.linked limits filter now items start).finish_eq
    rw [List.foldl_add_const, Nat.one_mul] at hflushes
    rw [hexchanges, List.length_map]
    exact hflushes.trans (Nat.zero_add _)
  · rw [hsettled, hcandidates]
  · exact (hreports.fetched.linked limits filter now items start).unchanged

end Reporting

theorem cycle_completed {stream : String → Stream α κ μ} {setup : Setup} {world : World}
    {source : DataSource} {fetched : Except SourceError (List α)} {memory : μ} {session : Session}
    {summary : CycleSummary}
    (hcompleted : (cycle stream setup world source fetched memory session).1 =
      .ok (.completed summary)) :
    ∃ baseUrl items, session.switches.preflight source = .ok baseUrl ∧ fetched = .ok items ∧
      let finish := (stream baseUrl).runFrom setup.limits session.switches.filter world.now items
        (Batch.empty, opened source memory session items)
      finish.summary = summary ∧
        (cycle stream setup world source fetched memory session).2 =
          (finish.memory, finish.session) := by
  rcases cycle_cases source memory session stream setup world fetched with
    ⟨reason, -, hcycle⟩ | ⟨baseUrl, error, -, -, hcycle⟩ |
      ⟨baseUrl, items, hpreflight, hfetched, hcycle⟩
  · rw [hcycle] at hcompleted
    cases hcompleted
  · rw [hcycle] at hcompleted
    cases hcompleted
  · rw [hcycle] at hcompleted
    exact ⟨baseUrl, items, hpreflight, hfetched,
      CycleOutcome.completed.inj (Except.ok.inj hcompleted), congrArg Prod.snd hcycle⟩

end Stream

theorem Delivery.ofReply_settled (documents : List Document) (reply : BulkReply) :
    (ofReply documents reply).succeeded + (ofReply documents reply).failed.length =
      documents.length :=
  Nat.sub_add_cancel (BulkReply.length_refused_le documents reply)

/-- Each reply settles all documents of its request, as delivered or as failed. -/
theorem Progress.count_settled {μ : Type} (progress : Progress μ) (documents : List Document)
    (reply : BulkReply) (queued : Nat) :
    let counted := progress.count (.ofReply documents reply) queued
    counted.summary.succeeded + counted.summary.failed =
      progress.summary.succeeded + progress.summary.failed + documents.length := by
  intro counted
  rw [← Delivery.ofReply_settled documents reply]
  simp only [counted, Progress.count]
  omega

section Reporters

variable (α : Type) [KeyedArtifact α] (setup : Setup) (world : World) (mode : RunMode)
  (baseUrl : String)

theorem keyed_reports : (keyedStream α setup world mode baseUrl).Reports
    fun dispatch => (shipmentOf α setup world baseUrl dispatch).exchange where
  ledger := keyed_tracks_ledger
  documents _ := rfl
  fetched := ⟨fun _ _ => rfl, fun _ _ => rfl, fun _ _ => rfl⟩
  flushes := ⟨fun _ _ => rfl, fun _ _ => rfl, fun _ _ => rfl⟩
  settled := ⟨fun _ _ => rfl, fun _ _ => rfl, fun batch progress =>
    progress.count_settled batch.documents _ 0⟩
  candidates _ _ := rfl

theorem keyed_tracks_queued : (keyedStream α setup world mode baseUrl).Tracks
    (fun progress => progress.summary.queued) (fun _ queued => queued) :=
  ⟨fun _ _ => rfl, fun _ _ => rfl, fun _ _ => rfl⟩

theorem history_reports : (historyStream setup world baseUrl).Reports
    (historyExchange setup world baseUrl) where
  ledger := ⟨fun _ _ => rfl, fun _ _ => rfl, fun batch progress => by
    rw [history_flush_eq]
    split
    · exact Session.deliverBulk_ledger _ _ _ _ _
    · exact (Session.enqueueFailed_ledger _ _ _ _).trans (Session.deliverBulk_ledger _ _ _ _ _)⟩
  documents _ := rfl
  fetched := ⟨fun _ _ => rfl, fun _ _ => rfl, fun batch progress => by
    rw [history_flush_eq]
    split <;> rfl⟩
  flushes := ⟨fun _ _ => rfl, fun _ _ => rfl, fun batch progress => by
    rw [history_flush_eq]
    split <;> rfl⟩
  settled := ⟨fun _ _ => rfl, fun _ _ => rfl, fun batch progress => by
    rw [history_flush_eq]
    split
    · exact progress.count_settled batch.documents _ 0
    · exact progress.count_settled batch.documents _ _⟩
  candidates batch progress := by
    rw [history_flush_eq]
    split <;> rfl

end Reporters

section Keyed

variable (α : Type) [KeyedArtifact α] (setup : Setup) (world : World) (mode : RunMode)
  (delivered : DeliveredKeys) (session : Session)

/-- Whether an item is sent, given what is marked when its turn comes: it is in scope and, unless
everything is to be sent, not marked. -/
def isCandidate (item : α) (marked : DeliveredKeys) : Bool :=
  inScope α world session item && (mode = .pushAll || !marked.contains (Artifact.key item))

def keyedTurns : List (α × DeliveredKeys) :=
  match session.switches.preflight (Artifact.source α), KeyedArtifact.fetched world.sources with
  | .ok baseUrl, .ok items =>
    (keyedStream α setup world mode baseUrl).turns setup.limits session.switches.filter world.now
      items (keyedStart α delivered session items)
  | _, _ => []

def keyedCandidates : List α :=
  ((keyedTurns α setup world mode delivered session).filter fun turn =>
    isCandidate α world mode session turn.1 turn.2).map Prod.fst

variable {α setup world mode delivered session}

/-- What is marked when the turn of an item comes is what was marked at the start, and what the
requests so far have delivered. -/
theorem keyedTurns_contains_iff {earlier later : List (α × DeliveredKeys)} {item : α}
    {marked : DeliveredKeys}
    (hturns : keyedTurns α setup world mode delivered session =
      earlier ++ (item, marked) :: later) :
    ∃ sent unsent, keyedShipments α setup world mode delivered session = sent ++ unsent ∧
      ∀ key, marked.contains key ↔ delivered.contains key ∨ DeliveredBy key sent := by
  unfold keyedTurns at hturns
  split at hturns
  next baseUrl items hpreflight hfetched =>
    have hshipments : keyedShipments α setup world mode delivered session =
        ((keyedStream α setup world mode baseUrl).dispatches setup.limits session.switches.filter
          world.now items (keyedStart α delivered session items)).map
            (shipmentOf α setup world baseUrl) := by
      rw [keyedShipments, hpreflight, hfetched]
    rw [hshipments]
    have htracks : (keyedStream α setup world mode baseUrl).Tracks Progress.memory _ :=
      keyed_tracks_memory
    obtain ⟨sent, unsent, hsent, hmarked⟩ := htracks.turn_eq _ _ _ hturns
    refine ⟨sent.map (shipmentOf α setup world baseUrl),
      unsent.map (shipmentOf α setup world baseUrl), ?_, ?_⟩
    · rw [← List.map_append, ← hsent]
    · intro key
      dsimp only at hmarked
      rw [hmarked]
      exact contains_foldl_iff sent delivered key
  next => simp at hturns

/-- A push of everything has as candidates all items in scope, whatever was delivered before. -/
theorem keyedCandidates_pushAll :
    keyedCandidates α setup world .pushAll delivered session =
      ((keyedTurns α setup world .pushAll delivered session).map Prod.fst).filter
        (inScope α world session) := by
  rw [List.filter_map, keyedCandidates]
  refine congrArg (List.map Prod.fst) (List.filter_congr ?_)
  intro turn _
  simp [isCandidate]

/-- A completed cycle of a keyed reporter sends exactly its candidates. -/
theorem keyedCycle_sentExactly {summary : CycleSummary}
    (hcompleted : (keyedCycle α setup world mode delivered session).1 =
      .ok (.completed summary)) :
    KeyedArtifact.fetched world.sources =
        .ok ((keyedTurns α setup world mode delivered session).map Prod.fst) ∧
      SentExactly session (keyedCycle α setup world mode delivered session).2.2
        ((keyedCandidates α setup world mode delivered session).map (Artifact.document world.now))
        summary ∧
      summary.fetched = (keyedTurns α setup world mode delivered session).length ∧
      summary.queued = 0 := by
  obtain ⟨baseUrl, items, hpreflight, hfetched, hsummary, hafter⟩ :=
    Stream.cycle_completed hcompleted
  let stream := keyedStream α setup world mode baseUrl
  let start := keyedStart α delivered session items
  have hturns : keyedTurns α setup world mode delivered session =
      stream.turns setup.limits session.switches.filter world.now items start := by
    rw [keyedTurns, hpreflight, hfetched]
  have hitems : (keyedTurns α setup world mode delivered session).map Prod.fst = items :=
    hturns ▸ stream.turns_items _ _ _ items start
  have hchosen : keyedCandidates α setup world mode delivered session =
      stream.chosen setup.limits session.switches.filter world.now items start := by
    rw [keyedCandidates, hturns, Stream.chosen_eq]
    rfl
  obtain ⟨hsent, hcount⟩ := (keyed_reports α setup world mode baseUrl).sentExactly setup.limits
    session.switches.filter world.now items delivered (Artifact.source α) session
  have hqueued := ((keyed_tracks_queued α setup world mode baseUrl).linked setup.limits
    session.switches.filter world.now items start).unchanged
  rw [hsummary] at hsent hcount
  refine ⟨hitems.symm ▸ hfetched, ?_, ?_, ?_⟩
  · have hsession : (keyedCycle α setup world mode delivered session).2.2 = _ :=
      congrArg Prod.snd hafter
    rw [hchosen, hsession]
    exact hsent
  · rw [hcount, ← hitems, List.length_map]
  · rw [← hsummary]
    exact hqueued

end Keyed

section Whole

variable (setup : Setup) (world : World) (session : Session) {summary : CycleSummary}

def recordedInScope (record : TrafficRecord) : Bool :=
  session.switches.filter.admits (Artifact.url record)
    (world.sources.hostInScope .proxyHistory (Artifact.url record))

/-- A completed cycle over recorded messages sends exactly those in scope, and keeps no more of them
than have failed. -/
theorem historyCycle_sentExactly
    (hcompleted : (historyCycle setup world session).1 = .ok (.completed summary)) :
    ∃ items, world.sources.proxyHistory = .ok items ∧
      SentExactly session (historyCycle setup world session).2
        ((items.filter (recordedInScope world session)).map (Artifact.document world.now))
        summary ∧
      summary.fetched = items.length ∧ summary.queued ≤ summary.failed := by
  obtain ⟨baseUrl, items, -, hfetched, hsummary, hafter⟩ := Stream.cycle_completed hcompleted
  let stream := historyStream setup world baseUrl
  let start : Batch Unit × Progress Unit :=
    (Batch.empty, Stream.opened .proxyHistory () session items)
  have hchosen : stream.chosen setup.limits session.switches.filter world.now items start =
      items.filter (recordedInScope world session) :=
    stream.chosen_of_wanted _ _ _ (fun _ _ => rfl) items start
  obtain ⟨hsent, hcount⟩ := (history_reports setup world baseUrl).sentExactly setup.limits
    session.switches.filter world.now items () .proxyHistory session
  have htracks : stream.Tracks
      (fun progress => (progress.summary.failed, progress.summary.queued)) _ :=
    history_tracks_counts
  have hkept := history_counts
    (htracks.linked setup.limits session.switches.filter world.now items start)
  dsimp only at hkept
  rw [hsummary] at hsent hcount hkept
  refine ⟨items, hfetched, ?_, hcount, ?_⟩
  · have hsession : (historyCycle setup world session).2 =
        (stream.runFrom setup.limits session.switches.filter world.now items start).session :=
      congrArg Prod.snd hafter
    rw [← hchosen, hsession]
    exact hsent
  · have hnone : start.2.summary.queued = 0 ∧ start.2.summary.failed = 0 := ⟨rfl, rfl⟩
    omega

/-- Completed cycles that send everything in scope send the same documents if they find the same
items at the same time and in the same scope, whatever is marked. -/
theorem keyedCycle_pushAll_submitted (α : Type) [KeyedArtifact α] {delivered : DeliveredKeys}
    (hcompleted : (keyedCycle α setup world .pushAll delivered session).1 =
      .ok (.completed summary)) :
    ∃ items, KeyedArtifact.fetched world.sources = .ok items ∧
      session.submittedSince (keyedCycle α setup world .pushAll delivered session).2.2 =
        (items.filter (inScope α world session)).map (Artifact.document world.now) := by
  obtain ⟨hfetched, hsent, -⟩ := keyedCycle_sentExactly hcompleted
  exact ⟨_, hfetched, by rw [hsent.submitted, keyedCandidates_pushAll]⟩

end Whole

/-- A completed cycle over site map entries, findings or recorded messages sends exactly the
documents of its candidates, in the order in which they were fetched, and its summary counts them. A
candidate is in scope and, in an incremental cycle of a keyed reporter, not marked when its turn
comes. Where all items in scope are sent, the documents are the same whatever is marked, however
they are batched and whatever the cluster replies. -/
theorem cycle_sends_candidates (setup : Setup) (world : World) (session : Session) :
    (∀ (α : Type) [KeyedArtifact α] (mode : RunMode) (delivered : DeliveredKeys)
        (summary : CycleSummary),
      let cycle := keyedCycle α setup world mode delivered session
      let shipments := keyedShipments α setup world mode delivered session
      let turns := keyedTurns α setup world mode delivered session
      let candidates := (turns.filter fun turn =>
        isCandidate α world mode session turn.1 turn.2).map Prod.fst
      cycle.1 = .ok (.completed summary) →
        KeyedArtifact.fetched world.sources = .ok (turns.map Prod.fst) ∧
        session.exchangesSince cycle.2.2 = shipments.map Shipment.exchange ∧
        (∀ (earlier later : List (α × DeliveredKeys)) (item : α) (marked : DeliveredKeys),
          turns = earlier ++ (item, marked) :: later →
          ∃ sent unsent, shipments = sent ++ unsent ∧
            ∀ key, marked.contains key ↔ delivered.contains key ∨ DeliveredBy key sent) ∧
        SentExactly session cycle.2.2 (candidates.map (Artifact.document world.now)) summary ∧
        summary.fetched = turns.length ∧ summary.queued = 0) ∧
    (∀ (mode : RunMode) (memory : Memory) (summary : CycleSummary),
      let cycle := Pipeline.cycle setup world .proxyHistory mode ⟨session, memory⟩
      cycle.1 = .ok (.completed summary) →
        ∃ items, world.sources.proxyHistory = .ok items ∧
          SentExactly session cycle.2.session
            ((items.filter (recordedInScope world session)).map (Artifact.document world.now))
            summary ∧
          summary.fetched = items.length ∧ summary.queued ≤ summary.failed) ∧
    ∀ (setup' : Setup) (world' : World) (session' : Session), world'.sources = world.sources →
      world'.now = world.now → session'.switches.scope = session.switches.scope →
      (∀ (α : Type) [KeyedArtifact α] (delivered delivered' : DeliveredKeys)
          (summary summary' : CycleSummary),
        let cycle := keyedCycle α setup world .pushAll delivered session
        let cycle' := keyedCycle α setup' world' .pushAll delivered' session'
        cycle.1 = .ok (.completed summary) → cycle'.1 = .ok (.completed summary') →
          session'.submittedSince cycle'.2.2 = session.submittedSince cycle.2.2) ∧
      ∀ (mode mode' : RunMode) (memory memory' : Memory) (summary summary' : CycleSummary),
        let cycle := Pipeline.cycle setup world .proxyHistory mode ⟨session, memory⟩
        let cycle' := Pipeline.cycle setup' world' .proxyHistory mode' ⟨session', memory'⟩
        cycle.1 = .ok (.completed summary) → cycle'.1 = .ok (.completed summary') →
          session'.submittedSince cycle'.2.session = session.submittedSince cycle.2.session := by
  refine ⟨?_, ?_, ?_⟩
  · intro α _ mode delivered summary cycle shipments turns candidates hcompleted
    obtain ⟨hfetched, hsent, hcount, hqueued⟩ := keyedCycle_sentExactly hcompleted
    exact ⟨hfetched,
      Session.exchangesSince_eq (keyedCycle_ledger α setup world mode delivered session),
      fun _ _ _ _ => keyedTurns_contains_iff, hsent, hcount, hqueued⟩
  · intro mode memory summary cycle hcompleted
    exact historyCycle_sentExactly setup world session hcompleted
  · intro setup' world' session' hsources hnow hscope
    have hfilter : session'.switches.filter = session.switches.filter :=
      congrArg ScopeFilter.ofSettings hscope
    refine ⟨?_, ?_⟩
    · intro α _ delivered delivered' summary summary' cycle cycle' hcompleted hcompleted'
      obtain ⟨items, hfetched, hsent⟩ :=
        keyedCycle_pushAll_submitted setup world session α hcompleted
      obtain ⟨items', hfetched', hsent'⟩ :=
        keyedCycle_pushAll_submitted setup' world' session' α hcompleted'
      have hsame : inScope α world' session' = inScope α world session := by
        funext item
        rw [inScope, inScope, hsources, hfilter]
      rw [hsources, hfetched] at hfetched'
      obtain rfl := Except.ok.inj hfetched'
      rw [hsent, hsent', hsame, hnow]
    · intro mode mode' memory memory' summary summary' cycle cycle' hcompleted hcompleted'
      obtain ⟨items, hfetched, hsent, -⟩ :=
        historyCycle_sentExactly setup world session hcompleted
      obtain ⟨items', hfetched', hsent', -⟩ :=
        historyCycle_sentExactly setup' world' session' hcompleted'
      have hsame : recordedInScope world' session' = recordedInScope world session := by
        funext record
        rw [recordedInScope, recordedInScope, hsources, hfilter]
      rw [hsources, hfetched] at hfetched'
      obtain rfl := Except.ok.inj hfetched'
      exact hsent'.submitted.trans (by rw [hsame, hnow, ← hsent.submitted]; rfl)

/-- Two entries of the site map in batches of one, of which the cluster refuses the first, and a
recorded message that is refused and finds no room in the retry queue. Sent in one batch to a
cluster that takes everything, after one of them was marked, the entries are the same documents. -/
theorem cycle_sends_candidates_partly_refused :
    let first : SitemapEntry := ⟨"http://a.test/", "GET", none, none, none⟩
    let second : SitemapEntry := ⟨"http://b.test/", "GET", none, none, none⟩
    let record : TrafficRecord :=
      ⟨1, "http://a.test/", "GET", "a.test", 80, false, "proxy", none, .null, .null, []⟩
    let sources : Sources :=
      { sitemap := .ok [first, second], proxyHistory := .ok [record] }
    let setup : Setup := { naming := ⟨"a"⟩, limits := ⟨1, 300⟩ }
    let setup' : Setup := { naming := ⟨"a"⟩ }
    let world := World.rehearsed ⟨[.reject [0]], .succeed⟩ sources
    let world' := World.rehearsed ⟨[], .succeed⟩ sources
    let session := Session.fresh (.ofCapacity 0)
    let marked : DeliveredKeys := ⟨[Artifact.key first]⟩
    let keyed := keyedCycle SitemapEntry setup world .incremental .empty session
    let whole := keyedCycle SitemapEntry setup world .pushAll .empty session
    let whole' := keyedCycle SitemapEntry setup' world' .pushAll marked session
    let history := Pipeline.cycle setup world .proxyHistory .incremental ⟨session, {}⟩
    keyed.1 = .ok (.completed ⟨2, 2, 2, 1, 1, 0⟩) ∧
      session.submittedSince keyed.2.2 = [first, second].map (Artifact.document world.now) ∧
      history.1 = .ok (.completed ⟨1, 1, 1, 0, 1, 0⟩) ∧
      session.submittedSince history.2.session = [Artifact.document world.now record] ∧
      whole.1 = .ok (.completed ⟨2, 2, 2, 1, 1, 0⟩) ∧
      whole'.1 = .ok (.completed ⟨2, 2, 1, 2, 0, 0⟩) ∧
      session.submittedSince whole'.2.2 = session.submittedSince whole.2.2 := by
  intro first second record sources setup setup' world world' session marked keyed whole whole'
    history
  have hkeyed : keyed.1 = .ok (.completed ⟨2, 2, 2, 1, 1, 0⟩) := by
    dsimp only [first, second, record, sources, setup, world, session, keyed]
    rfl
  have hhistory : history.1 = .ok (.completed ⟨1, 1, 1, 0, 1, 0⟩) := by
    dsimp only [first, second, record, sources, setup, world, session, history]
    rfl
  have hwhole : whole.1 = .ok (.completed ⟨2, 2, 2, 1, 1, 0⟩) := by
    dsimp only [first, second, record, sources, setup, world, session, whole]
    rfl
  have hwhole' : whole'.1 = .ok (.completed ⟨2, 2, 1, 2, 0, 0⟩) := by
    dsimp only [first, second, record, sources, setup', world', session, marked, whole']
    rfl
  obtain ⟨hsends, hrecords, hsame⟩ := cycle_sends_candidates setup world session
  obtain ⟨-, -, -, hsent, -⟩ := hsends SitemapEntry .incremental .empty _ hkeyed
  obtain ⟨items, hitems, hrecorded, -⟩ := hrecords .incremental {} _ hhistory
  obtain rfl : [record] = items := Except.ok.inj hitems
  refine ⟨hkeyed, hsent.submitted.trans ?_, hhistory, hrecorded.submitted.trans ?_, hwhole,
    hwhole', (hsame setup' world' session rfl rfl rfl).1 SitemapEntry .empty marked _ _ hwhole
      hwhole'⟩
  · dsimp only [first, second, record, sources, setup, world, session]
    rfl
  · dsimp only [first, second, record, sources, world, session]
    rfl

end SearchFeed
