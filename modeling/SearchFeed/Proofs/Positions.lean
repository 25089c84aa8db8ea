import Mathlib.Data.List.Destutter
import Mathlib.Data.List.Sort
import SearchFeed.Proofs.Credit

/-! # The positions of a reply stay within its request

A client may name positions in any order, more than once, or beyond the request.
Those that count are in ascending order and below the number of documents that
were sent, so looking up the documents at them never fails and there are never
more of them than documents. An evaluation that gives up where a look-up or a
difference has no result therefore always comes to an end, and to the same one.
-/

namespace SearchFeed

namespace BulkOutcome

variable (outcome : BulkOutcome) (submitted : Nat)

/-- The positions that count as refused, worked out from what a client names: those that were sent
are put in order and repeats are dropped. If it names none, they are all after as many as were
taken. -/
def orderedPositions : List Nat :=
  if outcome.failed ≠ [] then
    ((outcome.failed.filter (· < submitted)).mergeSort (· ≤ ·)).destutter (· ≠ ·)
  else if outcome.succeeded < submitted then
    List.range' outcome.succeeded (submitted - outcome.succeeded)
  else []

/-- The failed positions strictly increase, whatever the cluster repeats. -/
theorem failedPositions_ascending : (outcome.failedPositions submitted).Pairwise (· < ·) := by
  rw [failedPositions_eq]
  exact List.pairwise_lt_range.filter outcome.refuses

/-- A position fails when it is in range and the reply refuses it. -/
theorem mem_failedPositions_iff (position : Nat) :
    position ∈ outcome.failedPositions submitted ↔
      position < submitted ∧ outcome.refuses position := by
  rw [failedPositions_eq, List.mem_filter, List.mem_range]

section Ordering

theorem mem_destutter_ne {items : List Nat} {position : Nat} :
    position ∈ items.destutter (· ≠ ·) ↔ position ∈ items := by
  cases items with
  | nil => rfl
  | cons first rest =>
      rw [List.destutter_cons']
      induction rest generalizing first with
      | nil => rfl
      | cons next rest ih =>
          rw [List.destutter'_cons]
          split
          · simp only [List.mem_cons, ih]
          next hsame =>
            obtain rfl := not_not.mp hsame
            simp only [ih, List.mem_cons, ← or_assoc, or_self]

/-- Repeats in a sorted list follow each other, so dropping those leaves none. -/
theorem destutter_ne_ascending {items : List Nat} (hsorted : items.Pairwise (· ≤ ·)) :
    (items.destutter (· ≠ ·)).Pairwise (· < ·) := by
  cases items with
  | nil => exact List.Pairwise.nil
  | cons first rest =>
      rw [List.destutter_cons']
      induction rest generalizing first with
      | nil => exact List.pairwise_singleton _ _
      | cons next rest ih =>
          obtain ⟨hfirst, hrest⟩ := List.pairwise_cons.mp hsorted
          rw [List.destutter'_cons]
          split
          next hother =>
            have hnext : first < next := lt_of_le_of_ne (hfirst next List.mem_cons_self) hother
            refine List.pairwise_cons.mpr ⟨?_, ih next hrest⟩
            intro position hmem
            rw [← List.destutter_cons', mem_destutter_ne] at hmem
            rcases List.mem_cons.mp hmem with rfl | hlater
            · exact hnext
            · exact hnext.trans_le ((List.pairwise_cons.mp hrest).1 position hlater)
          next hsame =>
            obtain rfl := not_not.mp hsame
            exact ih first hrest

theorem orderedPositions_ascending : (outcome.orderedPositions submitted).Pairwise (· < ·) := by
  unfold orderedPositions
  split
  · apply destutter_ne_ascending
    simpa using @List.pairwise_mergeSort Nat (fun a b => decide (a ≤ b))
      (fun a b c => by simpa using le_trans) (fun a b => by simpa using le_total a b)
      (outcome.failed.filter (· < submitted))
  · split
    · exact List.pairwise_lt_range'
    · exact List.Pairwise.nil

theorem mem_orderedPositions_iff (position : Nat) :
    position ∈ outcome.orderedPositions submitted ↔
      position < submitted ∧ outcome.refuses position := by
  unfold orderedPositions refuses
  by_cases hnone : outcome.failed = []
  · simp only [hnone, List.isEmpty_nil]
    by_cases hsome : outcome.succeeded < submitted
    · simp [hsome, List.mem_range'_1]
      omega
    · simp [hsome]
      omega
  · simp [hnone, mem_destutter_ne, and_comm]

/-- Both ways of telling which positions count as refused agree: they give the same positions, and
both in ascending order. -/
theorem orderedPositions_eq :
    outcome.orderedPositions submitted = outcome.failedPositions submitted := by
  apply (outcome.orderedPositions_ascending submitted).eq_of_mem_iff
    (outcome.failedPositions_ascending submitted)
  intro position
  rw [mem_orderedPositions_iff, mem_failedPositions_iff]

end Ordering

end BulkOutcome

/-- A difference of counts; there is none if more is taken away than there is. -/
def countLeft? (total part : Nat) : Option Nat := if part ≤ total then some (total - part) else none

theorem countLeft?_eq_some {total part : Nat} (hpart : part ≤ total) :
    countLeft? total part = some (total - part) := if_pos hpart

namespace BulkReply

/-- How many documents a reply takes and which ones it leaves, worked out step by step. There is no
result if a document that was not sent is looked up, or if more of them are left than were sent. -/
def divide? (documents : List Document) : BulkReply → Option (Nat × List Document)
  | .ok outcome => do
    let failed ← (outcome.orderedPositions documents.length).mapM (documents[·]?)
    let taken ← countLeft? documents.length failed.length
    return (taken, failed)
  | .error _ => some (0, documents)

theorem mapM_getElem?_eq_some {documents : List Document} {positions : List Nat}
    (hsent : ∀ position ∈ positions, position < documents.length) :
    positions.mapM (documents[·]?) = some (positions.filterMap (documents[·]?)) := by
  induction positions with
  | nil => rfl
  | cons position rest ih =>
      obtain ⟨hposition, hrest⟩ := List.forall_mem_cons.mp hsent
      rw [List.mapM_cons, ih hrest, List.filterMap_cons, List.getElem?_eq_getElem hposition]
      rfl

variable (documents : List Document)

/-- The documents that a reply leaves undelivered are found at its positions. -/
theorem mapM_failedPositions (outcome : BulkOutcome) :
    (outcome.failedPositions documents.length).mapM (documents[·]?) =
      some (refused documents (.ok outcome)) :=
  mapM_getElem?_eq_some fun position hposition =>
    ((outcome.mem_failedPositions_iff documents.length position).mp hposition).1

/-- The checked split of a request never fails and is the plain one. -/
theorem divide?_eq_some (reply : BulkReply) : divide? documents reply =
    some (documents.length - (refused documents reply).length, refused documents reply) := by
  cases reply with
  | ok outcome =>
      have hleft := countLeft?_eq_some (length_refused_le documents (.ok outcome))
      rw [divide?, outcome.orderedPositions_eq, mapM_failedPositions]
      change (countLeft? documents.length _).bind _ = _
      rw [hleft]
      rfl
  | error _ => rw [divide?, refused, Nat.sub_self]

end BulkReply

namespace Session

variable (session : Session) (setup : Setup) (world : World)

/-- Sends documents in one request and counts what came of it, unless a step of that has no
result. -/
def deliverBulk? (target : Target) (documents : List Document) : Option (Delivery × Session) := do
  let index := setup.naming.name target.kind
  let (reply, sent) :=
    session.sendBulk world.cluster target.sender target.baseUrl index documents
  let (succeeded, failed) ← BulkReply.divide? documents reply
  let counted := sent.noteDelivery target.kind world.latency
    (Delivery.errorText? documents reply) ⟨succeeded, failed⟩
  return (⟨succeeded, failed⟩,
    counted.tell world.now (flushEvent index documents.length ⟨succeeded, failed⟩))

/-- No check in a bulk delivery ever fails. -/
theorem deliverBulk?_eq_some (target : Target) (documents : List Document) :
    session.deliverBulk? setup world target documents =
      some (session.deliverBulk setup world target documents) := by
  unfold deliverBulk?
  dsimp only
  rw [BulkReply.divide?_eq_some]
  rfl

def settleRetry? (index : String) (documents : List Document) (reply : BulkReply)
    (summary : DrainSummary) : Option (DrainSummary × Session) := do
  let (delivered, failed) ← BulkReply.divide? documents reply
  let heard := match reply with
    | .ok _ => session.creditDelivered setup.naming index delivered
    | .error error => session.tell world.now (retryFailedEvent index error)
  let (requeued, kept) :=
    if failed.isEmpty then (0, heard) else heard.enqueueFailed world.now index failed
  let dropped ← countLeft? failed.length requeued
  return ({ indexes := summary.indexes + 1
            attempted := summary.attempted + documents.length
            delivered := summary.delivered + delivered
            requeued := summary.requeued + requeued
            dropped := summary.dropped + dropped }, kept)

/-- No check in settling a redelivery ever fails. -/
theorem settleRetry?_eq_some (index : String) (documents : List Document) (reply : BulkReply)
    (summary : DrainSummary) : session.settleRetry? setup world index documents reply summary =
      some (session.settleRetry setup world index documents reply summary) := by
  let failed := BulkReply.refused documents reply
  let heard := session.heardBack setup world index documents reply
  let kept := if failed.isEmpty then (0, heard) else heard.enqueueFailed world.now index failed
  have hkept : kept.1 ≤ failed.length := by
    simp only [kept]
    split
    · exact Nat.zero_le _
    · rw [enqueueFailed_fst, RetryQueue.offerAll_accepted]
      exact Nat.min_le_right _ _
  unfold settleRetry?
  rw [BulkReply.divide?_eq_some, settleRetry_eq]
  change (countLeft? failed.length kept.1).bind _ = _
  rw [countLeft?_eq_some hkept]
  rfl

def drainIndex? (baseUrl index : String) (summary : DrainSummary) :
    Option (DrainSummary × Session) :=
  let (documents, queue) := session.queue.poll index setup.drainBatchSize
  let polled := { session with queue }
  if documents.isEmpty then some (summary, polled)
  else
    let (reply, asked) := polled.sendBulk world.cluster .retry baseUrl index documents
    asked.settleRetry? setup world index documents reply summary

theorem drainIndex?_eq_some (baseUrl index : String) (summary : DrainSummary) :
    session.drainIndex? setup world baseUrl index summary =
      some (session.drainIndex setup world baseUrl index summary) := by
  unfold drainIndex? drainIndex
  dsimp only
  split
  · rfl
  · rw [settleRetry?_eq_some]

/-- One pass over the indexes that documents wait for, unless a step of it has no result. -/
def drainOnce? : Option (DrainSummary × Session) :=
  match session.switches.destination with
  | .error reason =>
    some ({}, session.tell world.now (retrySkippedEvent reason session.queue.totalSize))
  | .ok baseUrl => do
    let (summary, drained) ← session.queue.pending.foldlM
      (fun (summary, session) index => session.drainIndex? setup world baseUrl index summary)
      ({}, session)
    if 0 < summary.attempted then
      return (summary,
        drained.tell world.now (retryFinishedEvent summary drained.queue.totalSize))
    else return (summary, drained)

/-- No check in any index's drain ever fails, so the drains can be folded without them. -/
theorem foldlM_drainIndex?_eq_some (baseUrl : String) (indexes : List String)
    (before : DrainSummary × Session) :
    indexes.foldlM (fun (summary, session) index =>
        session.drainIndex? setup world baseUrl index summary) before =
      some (indexes.foldl (fun (summary, session) index =>
        session.drainIndex setup world baseUrl index summary) before) := by
  induction indexes generalizing before with
  | nil => rfl
  | cons index rest ih =>
      obtain ⟨summary, session⟩ := before
      rw [List.foldlM_cons]
      dsimp only
      rw [drainIndex?_eq_some]
      exact ih _

theorem drainOnce?_eq_some :
    session.drainOnce? setup world = some (session.drainOnce setup world) := by
  unfold drainOnce? drainOnce
  cases session.switches.destination with
  | error reason => rfl
  | ok baseUrl =>
      dsimp only
      rw [foldlM_drainIndex?_eq_some]
      exact (apply_ite some _ _ _).symm

end Session

/-- For every reply, the positions that count as refused come of putting those named in order; they
are ascending and below the number of documents sent, and every position named that was sent is
among them. A delivery fails for exactly the documents found there, or for all of them if there was
no answer, and the others count as delivered. No step of a delivery or of a drain pass looks up a
document that was not sent or takes away more than there is. -/
theorem reply_splits_request (setup : Setup) (world : World) :
    (∀ (outcome : BulkOutcome) (submitted : Nat),
      let positions := outcome.failedPositions submitted
      positions = outcome.orderedPositions submitted ∧ positions.Pairwise (· < ·) ∧
      (∀ position ∈ positions, position < submitted) ∧
      ∀ position ∈ outcome.failed, position < submitted → position ∈ positions) ∧
    (∀ (session : Session) (target : Target) (documents : List Document),
      let delivery := (session.deliverBulk setup world target documents).1
      (match session.bulkReply setup world target documents with
        | .ok outcome => (outcome.failedPositions documents.length).mapM (documents[·]?) =
          some delivery.failed
        | .error _ => delivery.failed = documents) ∧
      delivery.succeeded + delivery.failed.length = documents.length ∧
      session.deliverBulk? setup world target documents =
        some (session.deliverBulk setup world target documents)) ∧
    ∀ session : Session, session.drainOnce? setup world = some (session.drainOnce setup world) := by
  refine ⟨?_, ?_, fun session => session.drainOnce?_eq_some setup world⟩
  · intro outcome submitted positions
    have hmem := outcome.mem_failedPositions_iff submitted
    refine ⟨(outcome.orderedPositions_eq submitted).symm,
      outcome.failedPositions_ascending submitted, fun position h => ((hmem position).mp h).1, ?_⟩
    intro position hnamed hsent
    have hsome : outcome.failed.isEmpty = false :=
      List.isEmpty_eq_false_iff.mpr (List.ne_nil_of_mem hnamed)
    exact (hmem position).mpr ⟨hsent, by simpa [BulkOutcome.refuses, hsome] using hnamed⟩
  · intro session target documents delivery
    have hdelivery : delivery = Delivery.ofReply documents
        (session.bulkReply setup world target documents) :=
      session.deliverBulk_fst setup world target documents
    refine ⟨?_, ?_, session.deliverBulk?_eq_some setup world target documents⟩
    · rw [hdelivery]
      cases session.bulkReply setup world target documents with
      | ok outcome => exact BulkReply.mapM_failedPositions documents outcome
      | error _ => rfl
    · rw [hdelivery, Delivery.ofReply_succeeded]
      exact BulkReply.length_accepted_add_refused documents _

/-- Positions out of order, twice, and beyond the four documents sent. -/
theorem reply_splits_request_unordered :
    let setup : Setup := { naming := ⟨"a"⟩ }
    let outcome : BulkOutcome := ⟨2, [3, 1, 1, 9], none⟩
    let world := World.rehearsed ⟨[], .outcome outcome⟩ {}
    let session := Session.fresh (.ofCapacity 3)
    let target : Target := ⟨.source .sitemap, "http://search.test", .sitemap⟩
    let documents : List Document := [.int 0, .int 1, .int 2, .int 3]
    let delivery := (session.deliverBulk setup world target documents).1
    3 ∈ outcome.failed ∧ 3 < documents.length ∧ 3 ∈ outcome.orderedPositions documents.length ∧
      (outcome.failedPositions documents.length).mapM (documents[·]?) = some delivery.failed ∧
      delivery.failed = [.int 1, .int 3] ∧
      delivery.succeeded + delivery.failed.length = documents.length := by
  intro setup outcome world session target documents delivery
  obtain ⟨hpositions, hdeliveries, -⟩ := reply_splits_request setup world
  obtain ⟨hordered, -, -, hnamed⟩ := hpositions outcome documents.length
  obtain ⟨hfound, hcount, -⟩ := hdeliveries session target documents
  refine ⟨by decide, by decide, ?_, hfound, rfl, hcount⟩
  rw [← hordered]
  exact hnamed 3 (by decide) (by decide)

end SearchFeed
