import SearchFeed.Proofs.SharedQueue

/-! # What a drain pass hears among producers

The replies that a pass hears decide what becomes of the documents that it sent:
what a reply takes is delivered, and what it refuses goes back or is dropped,
whatever producers do in the meantime. Where they do nothing, the pass is
`Session.drainOnce`, and its requests and replies are those of the ledger.
-/

namespace SearchFeed

/-- A request of the pass and the reply that it has heard. -/
structure HeardReply where
  index : String
  documents : List Document
  reply : BulkReply

namespace HeardReply

variable (heard : HeardReply)

def accepted : List QueueEntry :=
  entriesFor heard.index (BulkReply.accepted heard.documents heard.reply)

def refused : List QueueEntry :=
  entriesFor heard.index (BulkReply.refused heard.documents heard.reply)

def exchange (baseUrl : String) : Exchange :=
  ⟨⟨.retry, baseUrl, heard.index, .bulk heard.documents⟩, .bulk heard.reply⟩

end HeardReply

/-- What was refused and has not been given back yet. -/
def PassPoint.refused : PassPoint → List QueueEntry
  | .starting => []
  | .between _ => []
  | .asking _ _ _ => []
  | .returning index documents _ => entriesFor index documents

namespace SharedQueue

/-- The reply that a move hears, if it is a step of the pass and the pass has asked. -/
def heardBy (state : SharedQueue) : Move → List HeardReply
  | .drain reply =>
    match state.point with
    | .asking index documents _ => [⟨index, documents, reply⟩]
    | _ => []
  | .offer _ _ => []
  | .offerAll _ _ => []

/-- The replies that moves hear, one after the other. -/
def heardIn (batch : Nat) : List Move → SharedQueue → List HeardReply
  | [], _ => []
  | move :: rest, state => state.heardBy move ++ heardIn batch rest (step batch state move)

theorem run_append (batch : Nat) (first second : List Move) (state : SharedQueue) :
    run batch (first ++ second) state = run batch second (run batch first state) :=
  List.foldl_append

/-- What is heard in two stretches of moves is heard in the first and then, from where it left off,
in the second. -/
theorem heardIn_append (batch : Nat) (first second : List Move) (state : SharedQueue) :
    heardIn batch (first ++ second) state =
      heardIn batch first state ++ heardIn batch second (run batch first state) := by
  induction first generalizing state with
  | nil => rfl
  | cons move rest ih =>
      rw [List.cons_append, heardIn, ih, heardIn, List.append_assoc]
      rfl

/-- The documents are where the replies that the pass has heard put them. -/
structure Follows (heard : List HeardReply) (state : SharedQueue) : Prop where
  delivered : state.delivered = heard.flatMap HeardReply.accepted
  refused : (heard.flatMap HeardReply.refused).Perm
    (state.requeued ++ state.dropped.map DroppedEntry.toQueueEntry ++ state.point.refused)
  returning : ∀ index documents rest, state.point = .returning index documents rest →
    ∃ last ∈ heard.getLast?, last.index = index ∧
      BulkReply.refused last.documents last.reply = documents

section Moves

variable {state : SharedQueue} {heard : List HeardReply} {batch : Nat} {index : String}
  {documents : List Document} {rest : List String}

/-- Nothing changes as long as no reply is heard and nothing is given back. -/
theorem Follows.of_unheard (hstate : state.Follows heard) {after : SharedQueue}
    (hdelivered : after.delivered = state.delivered) (hrequeued : after.requeued = state.requeued)
    (hdropped : after.dropped = state.dropped)
    (hrefused : after.point.refused = state.point.refused)
    (hpoint : ∀ index documents rest, after.point = .returning index documents rest →
      state.point = .returning index documents rest) : after.Follows heard where
  delivered := hdelivered.trans hstate.delivered
  refused := by
    rw [hrequeued, hdropped, hrefused]
    exact hstate.refused
  returning index documents rest hreturning :=
    hstate.returning index documents rest (hpoint index documents rest hreturning)

/-- Taking a batch out hears nothing, so the books still follow the replies heard. -/
theorem Follows.takeOut (hstate : state.Follows heard) (hnone : state.point.refused = []) :
    (state.takeOut batch index rest).Follows heard := by
  have hasked : (state.takeOut batch index rest).point = .between rest ∨
      ∃ documents, (state.takeOut batch index rest).point = .asking index documents rest := by
    simp only [SharedQueue.takeOut]
    split
    · exact .inl rfl
    · exact .inr ⟨_, rfl⟩
  refine hstate.of_unheard rfl rfl rfl ?_ fun other documents rest hreturning => ?_
  · rcases hasked with hpoint | ⟨documents, hpoint⟩ <;> rw [hpoint, hnone] <;> rfl
  · rcases hasked with hpoint | ⟨documents, hpoint⟩ <;> cases hpoint.symm.trans hreturning

/-- What a heard reply leaves to be returned is what that reply refused. -/
theorem refused_hear (reply : BulkReply) :
    (state.hear index documents rest reply).point.refused =
      (⟨index, documents, reply⟩ : HeardReply).refused := by
  simp only [SharedQueue.hear, HeardReply.refused]
  cases BulkReply.refused documents reply <;> rfl

/-- Hearing a reply books what it accepted and refused, and adds it to the replies heard. -/
theorem Follows.hear (hstate : state.Follows heard)
    (hpoint : state.point = .asking index documents rest) (reply : BulkReply) :
    (state.hear index documents rest reply).Follows (heard ++ [⟨index, documents, reply⟩]) where
  delivered := by
    rw [List.flatMap_append, List.flatMap_singleton, ← hstate.delivered]
    rfl
  refused := by
    have hrefused := hstate.refused
    rw [hpoint, PassPoint.refused, List.append_nil] at hrefused
    rw [List.flatMap_append, List.flatMap_singleton, refused_hear]
    exact hrefused.append_right _
  returning other failed later hreturning := by
    refine ⟨_, List.getLast?_concat, ?_⟩
    simp only [SharedQueue.hear] at hreturning
    split at hreturning <;> cases hreturning
    exact ⟨rfl, rfl⟩

/-- Giving the refused documents back hears nothing; what the full queue turns away is booked as
dropped. -/
theorem Follows.giveBack (hstate : state.Follows heard)
    (hpoint : state.point = .returning index documents rest) :
    (state.giveBack index documents rest).Follows heard where
  delivered := hstate.delivered
  refused := by
    let count := (state.queue.offerAll index documents).1
    have hrefused := hstate.refused
    rw [hpoint, PassPoint.refused] at hrefused
    have hlost : (state.giveBack index documents rest).dropped.map DroppedEntry.toQueueEntry =
        state.dropped.map DroppedEntry.toQueueEntry ++ entriesFor index (documents.drop count) := by
      simp only [SharedQueue.giveBack, List.map_append, List.map_map]
      rfl
    have hsplit : entriesFor index documents =
        entriesFor index (documents.take count) ++ entriesFor index (documents.drop count) := by
      rw [entriesFor, entriesFor, entriesFor, ← List.map_append, List.take_append_drop]
    rw [hsplit] at hrefused
    refine hrefused.trans ?_
    rw [hlost]
    change List.Perm _ (state.requeued ++ entriesFor index (documents.take count) ++ _ ++ [])
    rw [List.append_nil, ← Multiset.coe_eq_coe]
    simp only [← Multiset.coe_add]
    ac_rfl
  returning _ _ _ hreturning := nomatch hreturning

/-- A move leaves the documents where the replies heard so far and the one that it hears put
them. -/
theorem Follows.step (hstate : state.Follows heard) (move : Move) :
    (step batch state move).Follows (heard ++ state.heardBy move) := by
  cases move with
  | offer index document =>
      rw [heardBy, List.append_nil]
      exact hstate.of_unheard rfl rfl rfl rfl fun _ _ _ hpoint => hpoint
  | offerAll index documents =>
      rw [heardBy, List.append_nil]
      exact hstate.of_unheard rfl rfl rfl rfl fun _ _ _ hpoint => hpoint
  | drain reply =>
      change (state.drain batch reply).Follows _
      unfold SharedQueue.drain
      split
      next hpoint =>
        simp only [heardBy, hpoint, List.append_nil]
        exact hstate.of_unheard rfl rfl rfl (by rw [hpoint]; rfl) fun _ _ _ => nofun
      next hpoint =>
        simp only [heardBy, hpoint, List.append_nil]
        exact hstate
      next index rest hpoint =>
        simp only [heardBy, hpoint, List.append_nil]
        exact hstate.takeOut (by rw [hpoint]; rfl)
      next index documents rest hpoint =>
        simp only [heardBy, hpoint]
        exact hstate.hear hpoint reply
      next index documents rest hpoint =>
        simp only [heardBy, hpoint, List.append_nil]
        exact hstate.giveBack hpoint

/-- Whatever moves happen, the books follow the replies heard. -/
theorem Follows.run (hstate : state.Follows heard) (moves : List Move) :
    (run batch moves state).Follows (heard ++ heardIn batch moves state) := by
  induction moves generalizing state heard with
  | nil =>
      rw [heardIn, List.append_nil]
      exact hstate
  | cons move rest ih =>
      rw [heardIn, ← List.append_assoc]
      exact ih (hstate.step move)

theorem follows_start (queue : RetryQueue) : ({ queue } : SharedQueue).Follows [] where
  delivered := rfl
  refused := .nil
  returning _ _ _ hreturning := nomatch hreturning

end Moves

section Alone

variable {state : SharedQueue} {session : Session} {summary : DrainSummary} {index : String}
  {rest : List String} (setup : Setup) (world : World) (baseUrl : String)

/-- A shared queue at which the pass has come as far as one that nobody disturbs. -/
structure Mirrors (state : SharedQueue) (rest : List String) (pass : DrainSummary × Session) :
    Prop where
  point_eq : state.point = .between rest
  queue_eq : state.queue = pass.2.queue
  summary_eq : state.summary = pass.1

theorem settleRetry_ledger (documents : List Document) (reply : BulkReply) :
    (session.settleRetry setup world index documents reply summary).2.ledger =
      session.ledger := by
  obtain ⟨stats, logs, hheard⟩ := session.heardBack_eq setup world index documents reply
  rw [Session.settleRetry_eq, hheard]
  dsimp only
  split
  · rfl
  · exact Session.enqueueFailed_ledger _ _ _ _

/-- Hearing the reply, and giving back what it refuses, settles the documents of an index. -/
theorem exists_mirrors_settleRetry {documents : List Document} (reply : BulkReply)
    (hpoint : state.point = .asking index documents rest) (hqueue : state.queue = session.queue)
    (hsummary : state.summary = { summary with
      indexes := summary.indexes + 1
      attempted := summary.attempted + documents.length }) :
    ∃ replies : List BulkReply,
      (run setup.drainBatchSize (replies.map .drain) state).Mirrors rest
        (session.settleRetry setup world index documents reply summary) ∧
      heardIn setup.drainBatchSize (replies.map .drain) state = [⟨index, documents, reply⟩] := by
  let failed := BulkReply.refused documents reply
  let heard := state.hear index documents rest reply
  have hhear : state.drain setup.drainBatchSize reply = heard := by
    rw [SharedQueue.drain, hpoint]
  have hfirst : state.heardBy (.drain reply) = [⟨index, documents, reply⟩] := by
    simp only [heardBy, hpoint]
  have hheard : heard.queue = session.queue := hqueue
  obtain ⟨stats, logs, hnoted⟩ := session.heardBack_eq setup world index documents reply
  rw [Session.settleRetry_eq, hnoted]
  dsimp only
  by_cases hnone : failed.isEmpty
  · refine ⟨[reply], ?_, by rw [List.map_singleton, heardIn, hfirst]; rfl⟩
    change (state.drain setup.drainBatchSize reply).Mirrors _ _
    rw [hhear, if_pos hnone]
    refine ⟨if_pos hnone, hheard, ?_⟩
    simp only [heard, SharedQueue.hear, hsummary]
    simp [failed, List.isEmpty_iff.mp hnone]
  · have hreturning : heard.point = .returning index failed rest := if_neg hnone
    have hgive : heard.drain setup.drainBatchSize reply = heard.giveBack index failed rest := by
      rw [SharedQueue.drain, hreturning]
    refine ⟨[reply, reply], ?_, ?_⟩
    · change ((state.drain setup.drainBatchSize reply).drain setup.drainBatchSize reply).Mirrors _ _
      rw [hhear, hgive, if_neg hnone]
      refine ⟨rfl, ?_, ?_⟩
      · rw [Session.enqueueFailed_queue]
        simp only [giveBack, hheard]
        rfl
      · rw [Session.enqueueFailed_fst]
        simp only [giveBack, hheard]
        simp only [heard, SharedQueue.hear, hsummary]
        rfl
    · have hsecond : heard.heardBy (.drain reply) = [] := by
        simp only [heardBy, hreturning]
      change state.heardBy (.drain reply) ++
        ((state.drain setup.drainBatchSize reply).heardBy (.drain reply) ++ []) = _
      rw [hhear, hfirst, hsecond]
      rfl

/-- One, two or three steps send the documents of an index again, and hear the reply that the
ledger notes. -/
theorem Mirrors.exists_drainIndex (hmirrors : state.Mirrors (index :: rest) (summary, session)) :
    ∃ replies : List BulkReply,
      (run setup.drainBatchSize (replies.map .drain) state).Mirrors rest
        (session.drainIndex setup world baseUrl index summary) ∧
      (session.drainIndex setup world baseUrl index summary).2.ledger = session.ledger ++
        (heardIn setup.drainBatchSize (replies.map .drain) state).map (·.exchange baseUrl) := by
  let documents := (session.queue.poll index setup.drainBatchSize).1
  let polled : Session :=
    { session with queue := (session.queue.poll index setup.drainBatchSize).2 }
  let taken := state.takeOut setup.drainBatchSize index rest
  have htake (reply : BulkReply) : step setup.drainBatchSize state (.drain reply) = taken := by
    rw [step, SharedQueue.drain, hmirrors.point_eq]
  have hunheard (reply : BulkReply) : state.heardBy (.drain reply) = [] := by
    simp only [heardBy, hmirrors.point_eq]
  have hqueue : taken.queue = polled.queue := by
    simp only [taken, takeOut, hmirrors.queue_eq]
    rfl
  have hsummary : taken.summary = { summary with
      indexes := summary.indexes + if documents.isEmpty then 0 else 1
      attempted := summary.attempted + documents.length } := by
    simp only [taken, takeOut, hmirrors.queue_eq, hmirrors.summary_eq]
    rfl
  have hpoint : taken.point =
      if documents.isEmpty then .between rest else .asking index documents rest := by
    simp only [taken, takeOut, hmirrors.queue_eq]
    rfl
  by_cases hempty : documents.isEmpty
  · have hdrain : session.drainIndex setup world baseUrl index summary = (summary, polled) :=
      if_pos hempty
    refine ⟨[.ok (.complete 0)], ?_, ?_⟩
    · change (step setup.drainBatchSize state (.drain (.ok (.complete 0)))).Mirrors _ _
      rw [htake, hdrain]
      refine ⟨hpoint.trans (if_pos hempty), hqueue, ?_⟩
      simp [hsummary, List.isEmpty_iff.mp hempty]
    · rw [hdrain, List.map_singleton, heardIn, hunheard]
      exact (List.append_nil _).symm
  · let asked := polled.sendBulk world.cluster .retry baseUrl index documents
    have hdrain : session.drainIndex setup world baseUrl index summary =
        asked.2.settleRetry setup world index documents asked.1 summary := if_neg hempty
    have hasked : taken.queue = asked.2.queue := hqueue
    rw [if_neg hempty] at hpoint hsummary
    obtain ⟨replies, hsettled, hheard⟩ :=
      exists_mirrors_settleRetry setup world asked.1 hpoint hasked hsummary
    refine ⟨asked.1 :: replies, ?_, ?_⟩
    · change (run _ (replies.map .drain) (step _ state (.drain asked.1))).Mirrors _ _
      rw [htake, hdrain]
      exact hsettled
    · rw [hdrain, settleRetry_ledger, List.map_cons, heardIn, hunheard, htake, hheard]
      rfl

/-- The fold of a drain over its indexes is mirrored by moves of the shared queue, one index after
another. -/
theorem Mirrors.exists_foldl (indexes : List String) {pass : DrainSummary × Session}
    (hmirrors : state.Mirrors indexes pass) :
    let after := indexes.foldl (fun (summary, session) index =>
      session.drainIndex setup world baseUrl index summary) pass
    ∃ replies : List BulkReply,
      (run setup.drainBatchSize (replies.map .drain) state).Mirrors [] after ∧
      after.2.ledger = pass.2.ledger ++
        (heardIn setup.drainBatchSize (replies.map .drain) state).map (·.exchange baseUrl) := by
  induction indexes generalizing state pass with
  | nil => exact ⟨[], hmirrors, (List.append_nil _).symm⟩
  | cons index rest ih =>
      obtain ⟨first, hfirst, hsent⟩ := hmirrors.exists_drainIndex setup world baseUrl
      obtain ⟨others, hothers, hmore⟩ := ih hfirst
      refine ⟨first ++ others, ?_, ?_⟩
      · rw [List.map_append, run_append]
        exact hothers
      · rw [List.map_append, heardIn_append, List.map_append, ← List.append_assoc, ← hsent]
        exact hmore

/-- Where no producer offers anything in between, the steps of a pass are a drain pass: they end
with its queue and its summary, and hear the replies that its ledger has to the same requests. -/
theorem exists_mirrors_drainOnce (session : Session)
    (hready : session.switches.destination = .ok baseUrl) :
    ∃ replies : List BulkReply,
      (run setup.drainBatchSize (replies.map .drain) { queue := session.queue }).Mirrors []
        (session.drainOnce setup world) ∧
      session.exchangesSince (session.drainOnce setup world).2 =
        (heardIn setup.drainBatchSize (replies.map .drain) { queue := session.queue }).map
          (·.exchange baseUrl) := by
  have hbegun : ({ queue := session.queue, point := .between session.queue.pending } :
      SharedQueue).Mirrors session.queue.pending ({}, session) := ⟨rfl, rfl, rfl⟩
  obtain ⟨replies, hpass, hledger⟩ := hbegun.exists_foldl setup world baseUrl
  refine ⟨.ok (.complete 0) :: replies, ?_⟩
  change (run setup.drainBatchSize (replies.map .drain)
    { queue := session.queue, point := .between session.queue.pending }).Mirrors [] _ ∧ _
  unfold Session.drainOnce
  rw [hready]
  dsimp only
  split
  · refine ⟨⟨hpass.point_eq, by rw [Session.tell_queue, hpass.queue_eq], hpass.summary_eq⟩, ?_⟩
    exact Session.exchangesSince_eq (by rw [Session.tell_ledger]; exact hledger)
  · exact ⟨hpass, Session.exchangesSince_eq hledger⟩

end Alone

section Whole

/-- However the calls of producers fall among the steps of a drain pass, no queue outgrows the
capacity, and every document that waited at the start or that a producer has got in since is in
exactly one place: it waits, the pass holds it, it was delivered, or it was dropped. The replies
that the pass has heard decide on the places: what they take was delivered, and what they refuse was
let in again, was dropped at a full queue, or is what the pass is about to give back. Between two
indexes, and so at its end, the summary accounts for all that was taken out. Without producers the
steps are a drain pass, with the requests and replies of its ledger. -/
theorem run_conserves (queue : RetryQueue) (batch : Nat) (moves : List Move)
    (hqueue : queue.Reachable) :
    let state := run batch moves { queue }
    let heard := heardIn batch moves { queue }
    (∀ index, state.queue.size index ≤ queue.capacity) ∧
    (∀ index,
      let places :=
        state.waiting index ++ state.held index ++ state.taken index ++ state.lost index
      places.Perm (queue.documents index ++ state.entered index) ∧
        ((queue.documents index ++ state.entered index).Nodup → places.Nodup)) ∧
    state.delivered = heard.flatMap HeardReply.accepted ∧
    (heard.flatMap HeardReply.refused).Perm
      (state.requeued ++ state.dropped.map DroppedEntry.toQueueEntry ++ state.point.refused) ∧
    (∀ index documents rest, state.point = .returning index documents rest →
      ∃ last ∈ heard.getLast?, last.index = index ∧
        BulkReply.refused last.documents last.reply = documents) ∧
    (∀ entry ∈ state.dropped, entry.met.size entry.index = queue.capacity) ∧
    state.summary.delivered = state.delivered.length ∧
    state.summary.requeued = state.requeued.length ∧
    state.summary.dropped = state.dropped.length ∧
    (∀ rest, state.point = .between rest → state.summary.attempted =
      state.summary.delivered + state.summary.requeued + state.summary.dropped) ∧
    ∀ (session : Session) (setup : Setup) (world : World) (baseUrl : String),
      session.queue = queue → setup.drainBatchSize = batch →
      session.switches.destination = .ok baseUrl →
      ∃ replies : List BulkReply,
        (run batch (replies.map .drain) { queue }).Mirrors [] (session.drainOnce setup world) ∧
        session.exchangesSince (session.drainOnce setup world).2 =
          (heardIn batch (replies.map .drain) { queue }).map (·.exchange baseUrl) := by
  intro state heard
  have hstate : state.Conserves queue := (conserves_start hqueue.sound).run moves
  have hfollows : state.Follows heard := (follows_start queue).run moves
  refine ⟨?_, ?_, hfollows.delivered, hfollows.refused, hfollows.returning, hstate.full,
    hstate.deliveries, hstate.requeues, hstate.drops, ?_, ?_⟩
  · intro index
    rw [← hstate.capacity]
    exact hstate.sound.size_le index
  · intro index places
    have hperm : places.Perm (queue.documents index ++ state.entered index) := by
      have hbalance := hstate.balance index
      simp only [present, Multiset.coe_add] at hbalance
      exact Multiset.coe_eq_coe.mp hbalance
    exact ⟨hperm, hperm.nodup_iff.mpr⟩
  · intro rest hpoint
    have hattempts := hstate.attempts
    rw [hpoint] at hattempts
    exact hattempts
  · rintro session setup world baseUrl rfl rfl hready
    exact exists_mirrors_drainOnce setup world baseUrl session hready

/-- Of two documents the cluster refuses the first. Producers have taken the room of both while the
pass waited for the reply, so that document is dropped. A pass over the same queue without producers
ends with the summary of its steps. -/
theorem run_conserves_room_taken :
    let queue := ((RetryQueue.ofCapacity 2).offerAll "a" [.null, .int 7]).2
    let reply : BulkReply := .ok ⟨1, [0], none⟩
    let moves : List Move := [.drain reply, .drain reply, .offer "a" (.bool true),
      .offer "a" (.bool false), .drain reply, .drain reply]
    let state := run 2 moves { queue }
    let setup : Setup := { naming := ⟨"a"⟩, drainBatchSize := 2 }
    let world := World.rehearsed ⟨[.reject [0]], .succeed⟩ {}
    queue.Reachable ∧ heardIn 2 moves { queue } = [⟨"a", [.null, .int 7], reply⟩] ∧
      state.waiting "a" = [.bool true, .bool false] ∧ state.lost "a" = [.null] ∧
      state.delivered = [⟨"a", .int 7⟩] ∧
      (∀ entry ∈ state.dropped, entry.met.size entry.index = 2) ∧
      state.point = .between [] ∧ state.summary = ⟨1, 2, 1, 0, 1⟩ ∧
      state.summary.attempted =
        state.summary.delivered + state.summary.requeued + state.summary.dropped ∧
      ∃ replies : List BulkReply, (run 2 (replies.map .drain) { queue }).summary =
        ((Session.fresh queue).drainOnce setup world).1 := by
  intro queue reply moves state setup world
  have hqueue : queue.Reachable := (RetryQueue.Reachable.start 2).offerAll "a" [.null, .int 7]
  have hpending : queue.pending = ["a"] := List.mergeSort_singleton "a"
  have hstate : state = run 2 moves.tail { queue, point := .between ["a"] } := by
    rw [← hpending]
    rfl
  have hheard : heardIn 2 moves { queue } = [⟨"a", [.null, .int 7], reply⟩] := by
    have htail : heardIn 2 moves { queue } =
        heardIn 2 moves.tail { queue, point := .between ["a"] } := by
      rw [← hpending]
      rfl
    rw [htail]
    dsimp only [queue, reply, moves]
    rfl
  have hpoint : state.point = .between [] := by
    rw [hstate]
    dsimp only [queue, reply, moves]
    rfl
  obtain ⟨-, -, hdelivered, -, -, hfull, -, -, -, hattempts, halone⟩ :=
    run_conserves queue 2 moves hqueue
  obtain ⟨replies, hmirrors, -⟩ :=
    halone (Session.fresh queue) setup world "http://search.test" rfl rfl (by decide)
  refine ⟨hqueue, hheard, ?_, ?_, ?_, hfull, hpoint, ?_, hattempts [] hpoint, replies,
    hmirrors.summary_eq⟩
  · rw [hstate]
    dsimp only [queue, reply, moves]
    rfl
  · rw [hstate]
    dsimp only [queue, reply, moves]
    rfl
  · rw [hdelivered, hheard]
    rfl
  · rw [hstate]
    dsimp only [queue, reply, moves]
    rfl

end Whole

end SharedQueue

end SearchFeed
