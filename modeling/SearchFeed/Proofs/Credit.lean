import SearchFeed.Proofs.Drain
import SearchFeed.Proofs.Keyed

/-! # How many documents a reply gets credit for

A reply says twice what became of a request: how many documents were taken, and
at which positions some were refused. Where it names positions, its count is
not looked at, and positions that were not sent are passed over. So the
documents that count as delivered outnumber those reported as taken exactly if
a reply names fewer of the documents sent than its count leaves out.
-/

namespace SearchFeed

namespace BulkOutcome

variable (outcome : BulkOutcome) (submitted : Nat)

/-- How many of the documents sent a reply names as refused. -/
def named : Nat := (List.range submitted).countP (outcome.failed.contains ·)

/-- A reply that names refused positions, but fewer of those sent than its count leaves out. -/
def Understates : Prop :=
  outcome.failed ≠ [] ∧ outcome.succeeded + outcome.named submitted < submitted

/-- A reply that names refused positions, none of which was sent. -/
def NamesOthersOnly : Prop :=
  outcome.failed ≠ [] ∧ ∀ position ∈ outcome.failed, submitted ≤ position

instance : Decidable (outcome.Understates submitted) := inferInstanceAs (Decidable (_ ∧ _))

instance : Decidable (outcome.NamesOthersOnly submitted) := inferInstanceAs (Decidable (_ ∧ _))

theorem countP_range_le (least : Nat) :
    (List.range submitted).countP (fun position => decide (least ≤ position)) =
      submitted - least := by
  induction submitted with
  | zero => simp
  | succ last ih =>
      rw [List.range_succ, List.countP_append, ih, List.countP_singleton]
      by_cases hlast : least ≤ last
      · rw [if_pos (decide_eq_true hlast)]
        omega
      · rw [if_neg (by simpa using hlast)]
        omega

/-- Either description alone tells how many documents count as refused. -/
theorem length_failedPositions : (outcome.failedPositions submitted).length =
    if outcome.failed = [] then submitted - outcome.succeeded else outcome.named submitted := by
  rw [failedPositions, ← List.countP_eq_length_filter]
  by_cases hnone : outcome.failed = []
  · simp only [hnone, List.isEmpty_nil, if_true]
    exact countP_range_le submitted outcome.succeeded
  · have hsome : outcome.failed.isEmpty = false := by simpa using hnone
    simp only [hsome, if_neg hnone]
    rfl

/-- No position failed just if none was named and all got in, or if all that were named lie outside
of the request. -/
theorem failedPositions_eq_nil_iff : outcome.failedPositions submitted = [] ↔
    (outcome.failed = [] ∧ outcome.isComplete submitted) ∨ outcome.NamesOthersOnly submitted := by
  rw [← List.length_eq_zero_iff, length_failedPositions]
  by_cases hnone : outcome.failed = []
  · simp [hnone, NamesOthersOnly, isComplete, Nat.sub_eq_zero_iff_le]
  · rw [if_neg hnone, named, List.countP_eq_zero]
    simp only [hnone, false_and, false_or, NamesOthersOnly, ne_eq, not_false_eq_true, true_and,
      List.mem_range, List.contains_iff_mem]
    constructor
    · intro hothers position hnamed
      exact Nat.not_lt.mp fun hsent => hothers position hsent hnamed
    · intro hothers position hsent hnamed
      exact Nat.not_lt.mpr (hothers position hnamed) hsent

end BulkOutcome

namespace BulkReply

variable (documents : List Document) (outcome : BulkOutcome)

/-- As many documents are refused as positions have failed. -/
theorem length_refused_ok : (refused documents (.ok outcome)).length =
    (outcome.failedPositions documents.length).length := by
  rw [refused, List.length_filterMap_eq_countP, List.countP_eq_length]
  intro position hposition
  have hsent : position < documents.length := by
    rw [BulkOutcome.failedPositions_eq] at hposition
    exact List.mem_range.mp (List.mem_filter.mp hposition).1
  simp [hsent]

/-- More documents count as delivered than are reported as taken exactly if the reply understates
what was refused. -/
theorem lt_length_accepted_iff : outcome.succeeded < (accepted documents (.ok outcome)).length ↔
    outcome.Understates documents.length := by
  have hrefused := length_refused_le documents (.ok outcome)
  rw [length_accepted]
  rw [length_refused_ok, BulkOutcome.length_failedPositions] at hrefused ⊢
  by_cases hnone : outcome.failed = []
  · rw [if_pos hnone]
    simp only [BulkOutcome.Understates, hnone, ne_eq, not_true_eq_false, false_and, iff_false]
    omega
  · rw [if_neg hnone] at hrefused ⊢
    simp only [BulkOutcome.Understates, hnone, ne_eq, not_false_eq_true, true_and]
    omega

/-- A reply that does not report all documents as taken leaves none undelivered exactly if it names
only positions that were not sent. -/
theorem refused_eq_nil_iff (hpartial : outcome.isComplete documents.length = false) :
    refused documents (.ok outcome) = [] ↔ outcome.NamesOthersOnly documents.length := by
  rw [← List.length_eq_zero_iff, length_refused_ok, List.length_eq_zero_iff,
    BulkOutcome.failedPositions_eq_nil_iff, hpartial]
  simp

end BulkReply

theorem Session.deliverBulk_fst (session : Session) (setup : Setup) (world : World)
    (target : Target) (documents : List Document) :
    (session.deliverBulk setup world target documents).1 =
      Delivery.ofReply documents (session.bulkReply setup world target documents) := rfl

/-- As many documents are credited as were taken. -/
theorem Delivery.ofReply_succeeded (documents : List Document) (reply : BulkReply) :
    (ofReply documents reply).succeeded = (BulkReply.accepted documents reply).length :=
  (BulkReply.length_accepted documents reply).symm

/-- A flush marks its keys exactly if no document was refused. -/
theorem keyed_flush_memory {α : Type} [KeyedArtifact α] (setup : Setup) (world : World)
    (mode : RunMode) (baseUrl : String) (batch : Batch PushKey)
    (progress : Progress DeliveredKeys) :
    ((keyedStream α setup world mode baseUrl).flush batch progress).memory =
      if BulkReply.refused batch.documents
          (progress.session.bulkReply setup world (keyedTarget α baseUrl) batch.documents) = []
      then progress.memory.markAll batch.keys else progress.memory := by
  simp only [← List.isEmpty_iff]
  rfl

/-- For a reply that the cluster gave, more documents count as delivered than it reports as taken
exactly if it names fewer of the documents sent than its count leaves out. If it does not report all
of them as taken, the keys of the batch are nevertheless marked, and all documents of a further
attempt leave the retry queue, exactly if it names only positions that were not sent. -/
theorem credit_exceeds_report_iff (setup : Setup) (world : World) :
    (∀ (session : Session) (target : Target) (documents : List Document) (outcome : BulkOutcome),
      session.bulkReply setup world target documents = .ok outcome →
      let delivery := (session.deliverBulk setup world target documents).1
      (outcome.succeeded < delivery.succeeded ↔ outcome.Understates documents.length) ∧
      (outcome.isComplete documents.length = false →
        (delivery.isComplete ↔ outcome.NamesOthersOnly documents.length))) ∧
    (∀ (α : Type) [KeyedArtifact α] (mode : RunMode) (baseUrl : String) (batch : Batch PushKey)
        (progress : Progress DeliveredKeys) (outcome : BulkOutcome),
      progress.session.bulkReply setup world (keyedTarget α baseUrl) batch.documents =
        .ok outcome →
      outcome.isComplete batch.documents.length = false →
      ((keyedStream α setup world mode baseUrl).flush batch progress).memory =
        if outcome.NamesOthersOnly batch.documents.length then progress.memory.markAll batch.keys
        else progress.memory) ∧
    ∀ (session : Session) (baseUrl : String), session.queue.Reachable →
      1 ≤ setup.drainBatchSize → session.switches.destination = .ok baseUrl →
      let pending := session.queue.pending
      let pass := session.drainOnce setup world
      ∃ replies : String → BulkReply,
        let credited := fun index =>
          BulkReply.accepted (session.resent setup index) (replies index)
        session.exchangesSince pass.2 =
          (pending.map fun index => session.retryExchange setup baseUrl index (replies index)) ∧
        pass.1.delivered = (pending.map fun index => (credited index).length).sum ∧
        ∀ index ∈ pending, ∀ outcome, replies index = .ok outcome →
          let sent := session.resent setup index
          (outcome.succeeded < (credited index).length ↔ outcome.Understates sent.length) ∧
          (outcome.isComplete sent.length = false →
            (pass.2.queue.documents index = session.untouched setup index ↔
              outcome.NamesOthersOnly sent.length)) := by
  refine ⟨?_, ?_, ?_⟩
  · intro session target documents outcome hreply delivery
    have hdelivery : delivery = Delivery.ofReply documents (.ok outcome) := by
      rw [← hreply]
      exact session.deliverBulk_fst setup world target documents
    constructor
    · rw [hdelivery, Delivery.ofReply_succeeded]
      exact BulkReply.lt_length_accepted_iff documents outcome
    · intro hpartial
      rw [← BulkReply.refused_eq_nil_iff documents outcome hpartial, hdelivery]
      exact List.isEmpty_iff
  · intro α _ mode baseUrl batch progress outcome hreply hpartial
    rw [keyed_flush_memory, hreply]
    simp only [BulkReply.refused_eq_nil_iff batch.documents outcome hpartial]
  · intro session baseUrl hqueue hbatch hready pending pass
    have hsound := hqueue.sound
    obtain ⟨replies, hpass⟩ := Session.redelivery_drainOnce world hsound hbatch hready
    refine ⟨replies, Session.exchangesSince_eq hpass.ledger, ?_, ?_⟩
    · simp [pass, pending, hpass.summary]
    · intro index _ outcome hreply sent
      have hdocuments := hpass.documents_pending hsound index
      rw [hreply] at hdocuments
      constructor
      · dsimp only
        rw [hreply]
        exact BulkReply.lt_length_accepted_iff sent outcome
      · intro hpartial
        rw [← BulkReply.refused_eq_nil_iff sent outcome hpartial, hdocuments,
          List.append_right_eq_self]

/-- A cluster that reports nothing as taken and names a position that was not sent: a key is marked,
and two documents leave the retry queue. -/
theorem credit_exceeds_report_at_unsent_position :
    let entry : SitemapEntry := ⟨"http://a.test/", "GET", none, none, none⟩
    let setup : Setup := { naming := ⟨"a"⟩ }
    let world := World.rehearsed ⟨[], .outcome ⟨0, [7], none⟩⟩ {}
    let session :=
      Session.fresh ((RetryQueue.ofCapacity 3).offerAll "a-traffic" [.null, .bool true]).2
    let batch := Batch.empty.add (Artifact.key entry) (Artifact.document world.now entry)
    let target := keyedTarget SitemapEntry "http://search.test"
    let flushed := (keyedStream SitemapEntry setup world .incremental target.baseUrl).flush batch
      ⟨session, .empty, {}⟩
    let pass := session.drainOnce setup world
    0 < (session.deliverBulk setup world target batch.documents).1.succeeded ∧
      flushed.memory = DeliveredKeys.empty.markAll [Artifact.key entry] ∧
      "a-traffic" ∈ session.queue.pending ∧ pass.2.queue.documents "a-traffic" = [] := by
  intro entry setup world session batch target flushed pass
  let outcome : BulkOutcome := ⟨0, [7], none⟩
  have hqueue : session.queue.Reachable := (RetryQueue.Reachable.start 3).offerAll _ _
  have hpending : "a-traffic" ∈ session.queue.pending :=
    (hqueue.sound.mem_pending_iff "a-traffic").mpr (by decide)
  obtain ⟨hdelivered, hmarked, hdrained⟩ := credit_exceeds_report_iff setup world
  refine ⟨?_, ?_, hpending, ?_⟩
  · exact (hdelivered session target batch.documents outcome rfl).1.mpr (by decide)
  · exact hmarked SitemapEntry .incremental target.baseUrl batch ⟨session, .empty, {}⟩ outcome rfl
      rfl
  · obtain ⟨replies, hsent, -, hindexes⟩ :=
      hdrained session "http://search.test" hqueue (by decide) rfl
    have honly : session.queue.pending = ["a-traffic"] := List.mergeSort_singleton "a-traffic"
    have hpass : session.exchangesSince pass.2 =
        [session.retryExchange setup "http://search.test" "a-traffic" (.ok outcome)] := by
      dsimp only [pass]
      unfold Session.drainOnce
      rw [honly]
      rfl
    have hreply : replies "a-traffic" = .ok outcome := by
      rw [honly] at hsent
      simpa [Session.retryExchange] using hsent.symm.trans hpass
    exact ((hindexes "a-traffic" hpending outcome hreply).2 rfl).mpr (by decide)

end SearchFeed
