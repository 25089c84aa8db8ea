import Mathlib.Algebra.BigOperators.Group.List.Basic
import Mathlib.Algebra.GroupWithZero.Nat
import Mathlib.Data.List.Nodup
import SearchFeed.Proofs.RetryQueue
import SearchFeed.Proofs.Session
import SearchFeed.Drain

/-! # What a drain pass does

Sending the documents of one index again changes the queue of that index, the
ledger by one exchange, and the successes of one kind. Passes over different
indexes therefore compose without disturbing each other: each index ends with
what its own documents and its own reply determine.
-/

namespace SearchFeed

def Counters.credited (counters : Counters) (documents : List Document) : Counters :=
  { counters with success := counters.success + .ofNat documents.length }

namespace Session

/-- The documents of an index that a pass sends again. -/
def resent (session : Session) (setup : Setup) (index : String) : List Document :=
  (session.queue.documents index).take setup.drainBatchSize

/-- The documents of an index that a pass leaves where they are. -/
def untouched (session : Session) (setup : Setup) (index : String) : List Document :=
  (session.queue.documents index).drop setup.drainBatchSize

def retryExchange (session : Session) (setup : Setup) (baseUrl index : String)
    (reply : BulkReply) : Exchange :=
  ⟨⟨.retry, baseUrl, index, .bulk (session.resent setup index)⟩, .bulk reply⟩

/-- What a pass over some indexes comes to, given the reply for each of them. -/
structure Redelivery (setup : Setup) (baseUrl : String) (indexes : List String)
    (replies : String → BulkReply) (before after : DrainSummary × Session) : Prop where
  ledger : after.2.ledger = before.2.ledger ++
    indexes.map fun index => before.2.retryExchange setup baseUrl index (replies index)
  documents (index : String) : after.2.queue.documents index =
    if index ∈ indexes then before.2.untouched setup index ++
      BulkReply.refused (before.2.resent setup index) (replies index)
    else before.2.queue.documents index
  counters (kind : IndexKind) : after.2.stats.get kind =
    if setup.naming.name kind ∈ indexes then (before.2.stats.get kind).credited
      (BulkReply.accepted (before.2.resent setup (setup.naming.name kind))
        (replies (setup.naming.name kind)))
    else before.2.stats.get kind
  summary : after.1 =
    { indexes := before.1.indexes + indexes.length
      attempted := before.1.attempted +
        (indexes.map fun index => (before.2.resent setup index).length).sum
      delivered := before.1.delivered + (indexes.map fun index =>
        (BulkReply.accepted (before.2.resent setup index) (replies index)).length).sum
      requeued := before.1.requeued + (indexes.map fun index =>
        (BulkReply.refused (before.2.resent setup index) (replies index)).length).sum
      dropped := before.1.dropped }
  sound : after.2.queue.Sound
  switches : after.2.switches = before.2.switches

section Single

variable (session : Session) (setup : Setup) (world : World) (baseUrl index : String)
  (documents : List Document) (reply : BulkReply) (summary : DrainSummary)

/-- The session once the reply to a further attempt has been taken note of, and before what was
refused goes back. -/
def heardBack : Session :=
  match reply with
  | .ok _ => session.creditDelivered setup.naming index
      (documents.length - (BulkReply.refused documents reply).length)
  | .error error => session.tell world.now (retryFailedEvent index error)

theorem creditDelivered_eq (naming : IndexNaming) (count : Nat) :
    ∃ stats, session.creditDelivered naming index count = { session with stats } := by
  unfold creditDelivered
  split
  · exact ⟨_, rfl⟩
  · exact ⟨session.stats, rfl⟩

/-- Documents that got in are counted for the index that they are for, and for no other one. -/
theorem creditDelivered_get (delivered : List Document) (kind : IndexKind) :
    (session.creditDelivered setup.naming index delivered.length).stats.get kind =
      if setup.naming.name kind = index then (session.stats.get kind).credited delivered
      else session.stats.get kind := by
  unfold creditDelivered
  split
  next known hknown =>
    have hname := (setup.naming.kind?_eq_some_iff index known).mp hknown
    change (session.stats.addSuccess known (.ofNat delivered.length)).get kind = _
    rw [Stats.get_addSuccess]
    by_cases hkind : kind = known
    · subst kind
      rw [if_pos rfl, if_pos hname, Counters.credited]
    · rw [if_neg hkind, if_neg]
      exact fun h => hkind (setup.naming.name_injective (h.trans hname.symm))
  next hunknown =>
    rw [if_neg]
    intro hname
    rw [(setup.naming.kind?_eq_some_iff index kind).mpr hname] at hunknown
    exact Option.some_ne_none kind hunknown

/-- Taking note of a reply changes the successes of one kind and the buffered log documents. -/
theorem heardBack_eq : ∃ stats logs,
    session.heardBack setup world index documents reply = { session with stats, logs } := by
  unfold heardBack
  cases reply with
  | ok outcome =>
      obtain ⟨stats, hstats⟩ := session.creditDelivered_eq index setup.naming
        (documents.length - (BulkReply.refused documents (.ok outcome)).length)
      exact ⟨stats, session.logs, hstats⟩
  | error error =>
      obtain ⟨logs, hlogs⟩ := session.tell_eq world.now (retryFailedEvent index error)
      exact ⟨session.stats, logs, hlogs⟩

/-- A reply credits what it takes to its index, and nothing to the others. -/
theorem heardBack_get (kind : IndexKind) :
    (session.heardBack setup world index documents reply).stats.get kind =
      if setup.naming.name kind = index then
        (session.stats.get kind).credited (BulkReply.accepted documents reply)
      else session.stats.get kind := by
  unfold heardBack
  cases reply with
  | ok outcome =>
      dsimp only
      rw [← BulkReply.length_accepted, creditDelivered_get]
  | error error =>
      rw [tell_stats]
      split
      · simp [BulkReply.accepted, Counters.credited]
      · rfl

/-- What a pass does after the reply for an index: the reply is taken note of, and what was refused
is offered to the queue again. -/
theorem settleRetry_eq :
    session.settleRetry setup world index documents reply summary =
      (let failed := BulkReply.refused documents reply
       let told := session.heardBack setup world index documents reply
       let kept := if failed.isEmpty then (0, told) else told.enqueueFailed world.now index failed
       ({ indexes := summary.indexes + 1
          attempted := summary.attempted + documents.length
          delivered := summary.delivered + (documents.length - failed.length)
          requeued := summary.requeued + kept.1
          dropped := summary.dropped + (failed.length - kept.1) }, kept.2)) := rfl

/-- Offering back what was refused, where there is room for it, puts it at the end of its queue. -/
theorem offerBack (failed : List Document) (hsound : session.queue.Sound)
    (hroom : session.queue.size index + failed.length ≤ session.queue.capacity) :
    let kept := if failed.isEmpty then (0, session)
      else session.enqueueFailed world.now index failed
    kept.1 = failed.length ∧ kept.2.queue.Sound ∧ kept.2.ledger = session.ledger ∧
      kept.2.stats = session.stats ∧ kept.2.switches = session.switches ∧
      ∀ other, kept.2.queue.documents other =
        if other = index then session.queue.documents index ++ failed
        else session.queue.documents other := by
  intro kept
  by_cases hempty : failed = []
  · subst failed
    refine ⟨rfl, hsound, rfl, rfl, rfl, ?_⟩
    intro other
    by_cases hother : other = index
    · simp [kept, hother]
    · simp [kept, hother]
  · have hkept : kept = session.enqueueFailed world.now index failed :=
      if_neg (by simpa using hempty)
    have haccepted : (session.queue.offerAll index failed).1 = failed.length := by
      rw [RetryQueue.offerAll_accepted]
      omega
    rw [hkept]
    refine ⟨by simpa using haccepted, ?_, by simp, by simp, by simp, ?_⟩
    · simpa using hsound.offerAll index failed
    · intro other
      rw [enqueueFailed_queue, RetryQueue.documents_offerAll, haccepted, List.take_length]

variable {session setup index}

/-- Sending the documents of one index again comes to what its reply says. There is room for all
that is refused, because it was taken from the same queue. -/
theorem redelivery_drainIndex (hsound : session.queue.Sound)
    (hsent : session.resent setup index ≠ []) :
    ∃ reply, Redelivery setup baseUrl [index] (fun _ => reply) (summary, session)
      (session.drainIndex setup world baseUrl index summary) := by
  let sent := session.resent setup index
  let polled := (session.queue.poll index setup.drainBatchSize).2
  let reply := world.cluster.bulk session.ledger ⟨.retry, baseUrl, index, .bulk sent⟩
  let asked : Session := { session with
    queue := polled
    ledger := session.ledger ++ [session.retryExchange setup baseUrl index reply] }
  refine ⟨reply, ?_⟩
  have hdrain : session.drainIndex setup world baseUrl index summary =
      asked.settleRetry setup world index sent reply summary := by
    unfold drainIndex
    exact if_neg (by simpa [sent, resent] using hsent)
  obtain ⟨stats, logs, hheard⟩ := asked.heardBack_eq setup world index sent reply
  have hpolled (other : String) : polled.documents other =
      if other = index then session.untouched setup index else session.queue.documents other :=
    session.queue.documents_poll index other setup.drainBatchSize
  have hroom : polled.size index + (BulkReply.refused sent reply).length ≤ polled.capacity := by
    have hlength := BulkReply.length_refused_le sent reply
    have hsize := hsound.size_le index
    have htaken : sent.length = min setup.drainBatchSize (session.queue.documents index).length :=
      List.length_take
    simp only [RetryQueue.size, hpolled, if_true, untouched, List.length_drop] at hsize ⊢
    rw [htaken] at hlength
    rw [RetryQueue.capacity_poll]
    omega
  obtain ⟨hcount, hsettled, hledger, hstats, hswitches, hdocuments⟩ :=
    (asked.heardBack setup world index sent reply).offerBack world index
      (BulkReply.refused sent reply)
      (by rw [hheard]; exact hsound.poll index setup.drainBatchSize) (by rw [hheard]; exact hroom)
  rw [hdrain, settleRetry_eq]
  constructor
  · rw [hledger, hheard]
    rfl
  · intro other
    rw [hdocuments, hheard]
    simp only [asked, hpolled, List.mem_singleton, if_true]
    by_cases hother : other = index
    · subst other
      simp only [if_true]
      rfl
    · simp only [if_neg hother]
  · intro kind
    rw [hstats, heardBack_get]
    by_cases hname : setup.naming.name kind = index
    · rw [if_pos hname, if_pos (List.mem_singleton.mpr hname), hname]
    · rw [if_neg hname, if_neg (mt List.mem_singleton.mp hname)]
  · simp only [hcount, Nat.sub_self, Nat.add_zero, List.map_cons, List.map_nil, List.sum_cons,
      List.sum_nil, BulkReply.length_accepted, List.length_singleton]
    rfl
  · exact hsettled
  · rw [hswitches, hheard]

end Single

section Composing

variable {setup : Setup} {baseUrl : String} {before middle after : DrainSummary × Session}

/-- A pass over no index changes nothing. -/
theorem Redelivery.nil (replies : String → BulkReply) (hsound : before.2.queue.Sound) :
    Redelivery setup baseUrl [] replies before before := by
  constructor <;> simp [hsound]

/-- What a pass over some indexes leaves for any other index is what was there before. -/
theorem Redelivery.resent_eq {indexes : List String} {replies : String → BulkReply}
    (hpass : Redelivery setup baseUrl indexes replies before after) {index : String}
    (hother : index ∉ indexes) : after.2.resent setup index = before.2.resent setup index := by
  rw [resent, hpass.documents, if_neg hother, resent]

/-- A pass over one index and a pass over others come to a pass over all of them. -/
theorem Redelivery.cons {index : String} {rest : List String} {reply : BulkReply}
    {replies : String → BulkReply} (hnew : index ∉ rest)
    (hfirst : Redelivery setup baseUrl [index] (fun _ => reply) before middle)
    (hrest : Redelivery setup baseUrl rest replies middle after) :
    Redelivery setup baseUrl (index :: rest)
      (fun other => if other = index then reply else replies other) before after := by
  have hapart {other : String} (hmem : other ∈ rest) : other ≠ index :=
    fun h => hnew (h ▸ hmem)
  have hresent {other : String} (hmem : other ∈ rest) :
      middle.2.resent setup other = before.2.resent setup other :=
    hfirst.resent_eq (mt List.mem_singleton.mp (hapart hmem))
  have hsum (measure : List Document → BulkReply → Nat) :
      (rest.map fun other => measure (middle.2.resent setup other) (replies other)) =
        rest.map fun other => measure (before.2.resent setup other)
          (if other = index then reply else replies other) := by
    apply List.map_congr_left
    intro other hmem
    rw [hresent hmem, if_neg (hapart hmem)]
  constructor
  · have hexchanges : (rest.map fun other => middle.2.retryExchange setup baseUrl other
        (replies other)) = rest.map fun other => before.2.retryExchange setup baseUrl other
          (if other = index then reply else replies other) := by
      apply List.map_congr_left
      intro other hmem
      rw [retryExchange, hresent hmem, if_neg (hapart hmem), retryExchange]
    rw [hrest.ledger, hfirst.ledger, hexchanges]
    simp
  · intro other
    rw [hrest.documents, hfirst.documents]
    by_cases hmem : other ∈ rest
    · rw [if_pos hmem, if_pos (List.mem_cons_of_mem _ hmem), hresent hmem, if_neg (hapart hmem),
        untouched, hfirst.documents, if_neg (mt List.mem_singleton.mp (hapart hmem)), untouched]
    · by_cases hother : other = index
      · subst other
        simp [hmem]
      · simp [hmem, hother]
  · intro kind
    rw [hrest.counters, hfirst.counters]
    by_cases hmem : setup.naming.name kind ∈ rest
    · rw [if_pos hmem, if_pos (List.mem_cons_of_mem _ hmem), hresent hmem, if_neg (hapart hmem),
        if_neg (mt List.mem_singleton.mp (hapart hmem))]
    · by_cases hname : setup.naming.name kind = index
      · rw [hname] at hmem ⊢
        simp [hmem]
      · simp [hmem, hname]
  · rw [hrest.summary, hfirst.summary]
    simp only [hsum fun documents _ => documents.length,
      hsum fun documents reply => (BulkReply.accepted documents reply).length,
      hsum fun documents reply => (BulkReply.refused documents reply).length]
    simp [Nat.add_assoc, Nat.add_comm rest.length]
  · exact hrest.sound
  · rw [hrest.switches, hfirst.switches]

/-- A pass over distinct indexes that documents wait for comes to what the replies say. -/
theorem redelivery_foldl (world : World) (baseUrl : String) (before : DrainSummary × Session)
    (hbatch : 0 < setup.drainBatchSize) (indexes : List String) (hnodup : indexes.Nodup)
    (hsound : before.2.queue.Sound)
    (hwaits : ∀ index ∈ indexes, before.2.queue.documents index ≠ []) :
    ∃ replies, Redelivery setup baseUrl indexes replies before
      (indexes.foldl (fun (summary, session) index =>
        session.drainIndex setup world baseUrl index summary) before) := by
  induction indexes generalizing before with
  | nil => exact ⟨fun _ => .ok (.complete 0), .nil _ hsound⟩
  | cons index rest ih =>
      obtain ⟨hnew, hrest⟩ := List.nodup_cons.mp hnodup
      have hsent : before.2.resent setup index ≠ [] := by
        have hwait := hwaits index List.mem_cons_self
        simp only [resent, ne_eq, List.take_eq_nil_iff, not_or]
        exact ⟨by omega, hwait⟩
      -- The names are distinct, so this request leaves what waits for the others alone.
      obtain ⟨reply, hfirst⟩ := redelivery_drainIndex world baseUrl before.1 hsound hsent
      have hremaining : ∀ other ∈ rest, (before.2.drainIndex setup world baseUrl index
          before.1).2.queue.documents other ≠ [] := by
        intro other hmem
        rw [hfirst.documents, if_neg]
        · exact hwaits other (List.mem_cons_of_mem _ hmem)
        · exact fun h => hnew (List.mem_singleton.mp h ▸ hmem)
      obtain ⟨replies, htail⟩ := ih _ hrest hfirst.sound hremaining
      exact ⟨_, hfirst.cons hnew htail⟩

end Composing

section Whole

variable {session : Session} {setup : Setup} {baseUrl : String}

/-- A whole pass comes to what the replies for the pending indexes say. -/
theorem redelivery_drainOnce (world : World) (hsound : session.queue.Sound)
    (hbatch : 0 < setup.drainBatchSize) (hready : session.switches.destination = .ok baseUrl) :
    ∃ replies, Redelivery setup baseUrl session.queue.pending replies ({}, session)
      (session.drainOnce setup world) := by
  obtain ⟨replies, hpass⟩ := redelivery_foldl world baseUrl ({}, session) hbatch
    session.queue.pending hsound.pending_nodup hsound
    (fun index hmem => (hsound.mem_pending_iff index).mp hmem)
  refine ⟨replies, ?_⟩
  unfold drainOnce
  rw [hready]
  dsimp only
  split
  · constructor
    · rw [tell_ledger, hpass.ledger]
    · intro index
      rw [tell_queue, hpass.documents]
    · intro kind
      rw [tell_stats, hpass.counters]
    · exact hpass.summary
    · rw [tell_queue]
      exact hpass.sound
    · rw [tell_switches, hpass.switches]
  · exact hpass

/-- After a pass, what it left alone waits, and behind it what was refused and found room. -/
theorem Redelivery.documents_pending {replies : String → BulkReply}
    {after : DrainSummary × Session} (hsound : session.queue.Sound)
    (hpass : Redelivery setup baseUrl session.queue.pending replies ({}, session) after)
    (index : String) : after.2.queue.documents index = session.untouched setup index ++
      BulkReply.refused (session.resent setup index) (replies index) := by
  rw [hpass.documents]
  split
  · rfl
  next hidle =>
    have hnone : session.queue.documents index = [] :=
      not_not.mp (mt (hsound.mem_pending_iff index).mpr hidle)
    simp [untouched, resent, hnone]

end Whole

end Session

end SearchFeed
