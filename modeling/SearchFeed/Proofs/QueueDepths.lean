import Mathlib.Algebra.GroupWithZero.Nat
import SearchFeed.Proofs.Index
import SearchFeed.Proofs.QueueRun

/-! # Queue depths in a snapshot

A snapshot of the statistics tells how many documents wait for each kind of
index, and how many wait in all. The two are read off the queue apart from each
other. What the depths leave out is what waits for indexes that are of no kind,
for the kinds have different names, whatever their stem.
-/

namespace SearchFeed

namespace IndexNaming

variable (naming : IndexNaming)

def kindNames : Finset String := (IndexKind.all.map naming.name).toFinset

theorem mem_kindNames {index : String} :
    index ∈ naming.kindNames ↔ ∃ kind, naming.name kind = index := by
  simp only [kindNames, List.mem_toFinset, List.mem_map]
  refine exists_congr fun kind => and_iff_right ?_
  cases kind <;> decide

theorem nodup_kindNames : (IndexKind.all.map naming.name).Nodup :=
  List.Nodup.map naming.name_injective (by decide)

end IndexNaming

namespace RetryQueue

variable {queue : RetryQueue}

/-- What waits in all is what waits under some names and what is pending under others. -/
theorem Sound.totalSize_eq_add (hsound : queue.Sound) (names : Finset String) :
    queue.totalSize = ∑ index ∈ names, queue.size index +
      ∑ index ∈ queue.pending.toFinset \ names, queue.size index := by
  rw [hsound.totalSize_eq (names ∪ (queue.pending.toFinset \ names)),
    Finset.sum_union Finset.disjoint_sdiff]
  intro index hwaits
  rw [Finset.union_sdiff_self_eq_union]
  apply Finset.mem_union_right
  exact List.mem_toFinset.mpr ((hsound.mem_pending_iff index).mpr hwaits)

/-- Names account for all that waits just if they have all that is pending among them. -/
theorem Sound.sum_size_eq_iff (hsound : queue.Sound) (names : Finset String) :
    ∑ index ∈ names, queue.size index = queue.totalSize ↔
      ∀ index, 0 < queue.size index → index ∈ names := by
  rw [hsound.totalSize_eq_add names, left_eq_add, Finset.sum_eq_zero_iff]
  refine forall_congr' fun index => ?_
  rw [Finset.mem_sdiff, List.mem_toFinset, hsound.sumsUp.mem_pending, and_imp]
  constructor
  · intro hnone hwaits
    by_contra hother
    exact hwaits.ne' (hnone hwaits hother)
  · exact fun hnamed hwaits hother => absurd (hnamed hwaits) hother

end RetryQueue

namespace Stats

variable (stats : Stats) (naming : IndexNaming) {queue : RetryQueue} (now : Instant)

/-- The depths that a snapshot tells are those under the names of the kinds. -/
theorem sum_queueSize_snapshot :
    ((stats.snapshot naming queue now).indexes.map IndexSnapshot.queueSize).sum =
      ∑ index ∈ naming.kindNames, queue.size index := by
  rw [IndexNaming.kindNames, List.sum_toFinset _ naming.nodup_kindNames, List.map_map]
  simp only [snapshot, List.map_map]
  rfl

/-- The depths in a snapshot never come to more than what waits in all. They come to as much just if
nothing waits for an index that is not of any kind; and the kind of an index is known exactly if
its name is the one of that kind. -/
theorem queue_depths_add_up (hsound : queue.Sound) :
    let snapshot := stats.snapshot naming queue now
    let depths := snapshot.indexes.map IndexSnapshot.queueSize
    snapshot.indexes.map IndexSnapshot.kind = IndexKind.all ∧
      depths.sum ≤ snapshot.totalQueued ∧
      (depths.sum = snapshot.totalQueued ↔
        ∀ index, 0 < queue.size index → ∃ kind, naming.name kind = index) ∧
      ∀ index kind, naming.kind? index = some kind ↔ index = naming.name kind := by
  intro snapshot depths
  have hdepths : depths.sum = ∑ index ∈ naming.kindNames, queue.size index :=
    stats.sum_queueSize_snapshot naming now
  have htotal : snapshot.totalQueued = queue.totalSize := rfl
  refine ⟨?_, ?_, ?_, ?_⟩
  · simp [snapshot, Stats.snapshot, Function.comp_def]
  · rw [hdepths, htotal, hsound.totalSize_eq_add naming.kindNames]
    exact Nat.le_add_right _ _
  · rw [hdepths, htotal, hsound.sum_size_eq_iff]
    simp only [naming.mem_kindNames]
  · exact fun index kind => (naming.kind?_eq_some_iff index kind).trans eq_comm

/-- Two documents wait for the index of the findings and one for an index whose name goes on after
that of the findings; the stem is empty. -/
theorem queue_depths_add_up_foreign_index :
    let queue := ((RetryQueue.ofCapacity 3).askAll
      [.offerAll "-findings" [.int 1, .int 2], .offer "-findings-old" (.int 3)]).2
    let snapshot := (Stats.start ⟨0⟩).snapshot ⟨""⟩ queue ⟨0⟩
    queue.Sound ∧ (snapshot.indexes.map IndexSnapshot.queueSize).sum < snapshot.totalQueued := by
  intro queue snapshot
  have hsound : queue.Sound := ((RetryQueue.Reachable.start 3).askAll _).sound
  obtain ⟨-, hle, hiff, -⟩ := queue_depths_add_up (Stats.start ⟨0⟩) ⟨""⟩ ⟨0⟩ hsound
  refine ⟨hsound, lt_of_le_of_ne hle fun heq => ?_⟩
  obtain ⟨kind, hkind⟩ := hiff.mp heq "-findings-old" (by decide)
  revert hkind
  cases kind <;> decide

end Stats

end SearchFeed
