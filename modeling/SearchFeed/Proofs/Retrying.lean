import SearchFeed.Proofs.Drain
import SearchFeed.Proofs.Stint

/-! # What a drain pass asks for

A pass asks for the documents of each index at most once, with the oldest ones
that waited when it began, and credits what the replies take to the kind of
their index. This holds at any batch size, and for a queue in any state.
-/

namespace SearchFeed

def exchangesWith (index : String) (exchanges : List Exchange) : List Exchange :=
  exchanges.filter fun exchange => exchange.request.index = index

theorem exchangesWith_append (index : String) (first second : List Exchange) :
    exchangesWith index (first ++ second) =
      exchangesWith index first ++ exchangesWith index second := List.filter_append ..

theorem Counters.credited_nil (counters : Counters) : counters.credited [] = counters := by
  simp [Counters.credited]

theorem Counters.credited_append (counters : Counters) (first second : List Document) :
    counters.credited (first ++ second) = (counters.credited first).credited second := by
  simp only [Counters.credited, List.length_append, UInt64.ofNat_add, UInt64.add_assoc]

namespace Session

/-- What a pass over some indexes does, as far as it can be told without the replies. -/
structure Retries (setup : Setup) (baseUrl : String) (indexes : List String)
    (before after : Session) (exchanges : List Exchange) : Prop where
  ledger : after.ledger = before.ledger ++ exchanges
  requests : ∀ exchange ∈ exchanges, ∃ index ∈ indexes,
    exchange.request = ⟨.retry, baseUrl, index, .bulk (before.resent setup index)⟩
  counters (kind : IndexKind) : after.stats.get kind = (before.stats.get kind).credited
    (takenBy (exchangesWith (setup.naming.name kind) exchanges))
  others (index : String) : index ∉ indexes →
    after.queue.documents index = before.queue.documents index
  switches : after.switches = before.switches
  queue : before.queue.Reachable → after.queue.Reachable

section Retrying

variable {setup : Setup} {baseUrl : String} {before middle after : Session}

theorem Retries.refl (indexes : List String) (session : Session) :
    Retries setup baseUrl indexes session session [] where
  ledger := (List.append_nil _).symm
  requests := by simp
  counters kind := (Counters.credited_nil _).symm
  others _ _ := rfl
  switches := rfl
  queue := id

/-- What retries an index and then others, of which it is none, retries all of them. -/
theorem Retries.cons {index : String} {rest : List String} {first second : List Exchange}
    (hnew : index ∉ rest) (hfirst : Retries setup baseUrl [index] before middle first)
    (hrest : Retries setup baseUrl rest middle after second) :
    Retries setup baseUrl (index :: rest) before after (first ++ second) where
  ledger := by rw [hrest.ledger, hfirst.ledger, List.append_assoc]
  requests exchange hmem := by
    rcases List.mem_append.mp hmem with hmem | hmem
    · obtain ⟨other, hother, hrequest⟩ := hfirst.requests exchange hmem
      obtain rfl := List.mem_singleton.mp hother
      exact ⟨other, List.mem_cons_self, hrequest⟩
    -- What waits for the indexes to come has not been touched.
    · obtain ⟨other, hother, hrequest⟩ := hrest.requests exchange hmem
      have hapart : other ∉ [index] := fun h => hnew (List.mem_singleton.mp h ▸ hother)
      refine ⟨other, List.mem_cons_of_mem _ hother, ?_⟩
      rw [hrequest, resent, hfirst.others other hapart, resent]
  counters kind := by
    rw [hrest.counters, hfirst.counters, exchangesWith_append, takenBy_append,
      Counters.credited_append]
  others other hother := by
    rw [List.mem_cons, not_or] at hother
    rw [hrest.others other hother.2, hfirst.others other (by simpa using hother.1)]
  switches := hrest.switches.trans hfirst.switches
  queue := hrest.queue ∘ hfirst.queue

variable (setup) (baseUrl) (session : Session) (world : World) (index : String)
  (summary : DrainSummary)

theorem settleRetry_retries (polled : RetryQueue) (documents : List Document) (reply : BulkReply) :
    let asked : Session := { session with
      queue := polled
      ledger := session.ledger ++ [⟨⟨.retry, baseUrl, index, .bulk documents⟩, .bulk reply⟩] }
    let after := (asked.settleRetry setup world index documents reply summary).2
    after.ledger = asked.ledger ∧ after.switches = session.switches ∧
      (∀ kind, after.stats.get kind = if setup.naming.name kind = index then
        (session.stats.get kind).credited (BulkReply.accepted documents reply)
        else session.stats.get kind) ∧
      (after.queue = polled ∨
        ∃ failed, after.queue = (polled.offerAll index failed).2) := by
  intro asked after
  obtain ⟨stats, logs, hheard⟩ := asked.heardBack_eq setup world index documents reply
  have hget (kind : IndexKind) := asked.heardBack_get setup world index documents reply kind
  rw [hheard] at hget
  have hafter : after = (let failed := BulkReply.refused documents reply
      let told : Session := { asked with stats, logs }
      if failed.isEmpty then told else (told.enqueueFailed world.now index failed).2) := by
    simp only [after, settleRetry_eq, hheard]
    split <;> rfl
  rw [hafter]
  dsimp only
  split
  · exact ⟨rfl, rfl, hget, .inl rfl⟩
  · refine ⟨enqueueFailed_ledger _ _ _ _, enqueueFailed_switches _ _ _ _, ?_,
      .inr ⟨BulkReply.refused documents reply, enqueueFailed_queue _ _ _ _⟩⟩
    rw [enqueueFailed_stats]
    exact hget

/-- The drain of an index retries that index only. -/
theorem drainIndex_retries : ∃ exchanges, Retries setup baseUrl [index] session
    (session.drainIndex setup world baseUrl index summary).2 exchanges := by
  let documents := session.resent setup index
  let polled := (session.queue.poll index setup.drainBatchSize).2
  have hpolled (other : String) (hother : other ∉ [index]) :
      polled.documents other = session.queue.documents other := by
    rw [RetryQueue.documents_poll, if_neg (mt List.mem_singleton.mpr hother)]
  by_cases hnone : documents = []
  · have hdrain : session.drainIndex setup world baseUrl index summary =
        (summary, { session with queue := polled }) := if_pos (List.isEmpty_iff.mpr hnone)
    rw [hdrain]
    exact ⟨[], (List.append_nil _).symm, by simp, fun _ => (Counters.credited_nil _).symm, hpolled,
      rfl, fun hreach => hreach.poll index setup.drainBatchSize⟩
  · let reply := world.cluster.bulk session.ledger ⟨.retry, baseUrl, index, .bulk documents⟩
    let exchange : Exchange := ⟨⟨.retry, baseUrl, index, .bulk documents⟩, .bulk reply⟩
    let asked : Session := { session with queue := polled, ledger := session.ledger ++ [exchange] }
    have hdrain : session.drainIndex setup world baseUrl index summary =
        asked.settleRetry setup world index documents reply summary :=
      if_neg (mt List.isEmpty_iff.mp hnone)
    obtain ⟨hledger, hswitches, hcounters, hqueue⟩ := settleRetry_retries setup baseUrl session
      world index summary polled documents reply
    rw [hdrain]
    refine ⟨[exchange], hledger, ?_, ?_, ?_, hswitches, ?_⟩
    · intro other hmem
      obtain rfl := List.mem_singleton.mp hmem
      exact ⟨index, List.mem_cons_self, rfl⟩
    · intro kind
      refine (hcounters kind).trans ?_
      by_cases hname : setup.naming.name kind = index
      · rw [if_pos hname, exchangesWith, List.filter_singleton, decide_eq_true hname.symm]
        exact congrArg _ (takenBy_singleton exchange).symm
      · rw [if_neg hname, exchangesWith, List.filter_singleton, decide_eq_false (Ne.symm hname)]
        exact (Counters.credited_nil _).symm
    · intro other hother
      refine Eq.trans ?_ (hpolled other hother)
      rcases hqueue with hqueue | ⟨failed, hqueue⟩
      · exact congrArg (RetryQueue.documents · other) hqueue
      · refine (congrArg (RetryQueue.documents · other) hqueue).trans ?_
        exact (RetryQueue.documents_offerAll _ _ _ _).trans
          (if_neg (mt List.mem_singleton.mpr hother))
    · intro hreach
      have hreached := hreach.poll index setup.drainBatchSize
      rcases hqueue with hqueue | ⟨failed, hqueue⟩
      · exact hqueue ▸ hreached
      · exact hqueue ▸ hreached.offerAll index failed

/-- A drain over several indexes retries each of them in its turn. -/
theorem foldl_drainIndex_retries (indexes : List String) (hnodup : indexes.Nodup)
    (before : DrainSummary × Session) :
    ∃ exchanges, Retries setup baseUrl indexes before.2
      (indexes.foldl (fun (summary, session) index =>
        session.drainIndex setup world baseUrl index summary) before).2 exchanges := by
  induction indexes generalizing before with
  | nil => exact ⟨[], .refl [] before.2⟩
  | cons index rest ih =>
      obtain ⟨hnew, hrest⟩ := List.nodup_cons.mp hnodup
      obtain ⟨first, hfirst⟩ :=
        drainIndex_retries setup baseUrl before.2 world index before.1
      obtain ⟨second, hsecond⟩ :=
        ih hrest (before.2.drainIndex setup world baseUrl index before.1)
      exact ⟨first ++ second, hfirst.cons hnew hsecond⟩

/-- A whole pass, at any batch size. -/
theorem drainOnce_retries (hready : session.switches.destination = .ok baseUrl)
    (hnodup : session.queue.pending.Nodup) :
    ∃ exchanges, Retries setup baseUrl session.queue.pending session
      (session.drainOnce setup world).2 exchanges := by
  obtain ⟨exchanges, hpass⟩ :=
    foldl_drainIndex_retries setup baseUrl world session.queue.pending hnodup ({}, session)
  refine ⟨exchanges, ?_⟩
  unfold drainOnce
  rw [hready]
  dsimp only
  split
  · constructor
    · rw [tell_ledger, hpass.ledger]
    · exact hpass.requests
    · intro kind
      rw [tell_stats, hpass.counters]
    · intro index hother
      rw [tell_queue, hpass.others index hother]
    · rw [tell_switches, hpass.switches]
    · rw [tell_queue]
      exact hpass.queue
  · exact hpass

end Retrying

end Session

end SearchFeed
