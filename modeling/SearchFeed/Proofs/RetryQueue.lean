import Mathlib.Data.List.Nodup
import Mathlib.Data.String.Basic
import SearchFeed.RetryQueue

/-! # The retry queue as bounded queues apart

An operation on one index changes what waits for that index and nothing else.
Along every run of operations the names stay distinct and no queue outgrows
the capacity, so the list of pending indexes is exact and strictly ascending.
-/

namespace SearchFeed

namespace RetryQueue

variable (queue : RetryQueue) (index other : String)

/-- Replacing the list of one index changes what is looked up there, and there only. -/
theorem lookup_replaced (documents : List Document) (queues : List (String × List Document)) :
    (replaced index documents queues).lookup other =
      if other = index then some documents else queues.lookup other := by
  induction queues with
  | nil =>
      by_cases h : other = index
      · simp [replaced, h]
      · simp [replaced, List.lookup_cons, beq_eq_false_iff_ne.mpr h, h]
  | cons entry rest ih =>
      obtain ⟨name, waiting⟩ := entry
      unfold replaced
      by_cases hname : name = index
      · subst name
        by_cases h : other = index
        · simp [h]
        · simp [List.lookup_cons, beq_eq_false_iff_ne.mpr h, h]
      · rw [if_neg hname]
        by_cases hother : other = name
        · subst other
          simp [hname]
        · simp [List.lookup_cons, beq_eq_false_iff_ne.mpr hother, ih]

theorem documents_set (documents : List Document) :
    (queue.set index documents).documents other =
      if other = index then documents else queue.documents other := by
  unfold set RetryQueue.documents
  rw [lookup_replaced]
  split <;> rfl

@[simp] theorem capacity_offer (document : Document) :
    (queue.offer index document).2.capacity = queue.capacity := by
  simp only [offer]
  split <;> rfl

@[simp] theorem capacity_offerAll (documents : List Document) :
    (queue.offerAll index documents).2.capacity = queue.capacity := rfl

@[simp] theorem capacity_poll (count : Nat) :
    (queue.poll index count).2.capacity = queue.capacity := by
  simp only [poll]
  split <;> rfl

/-- What an offer leaves waiting: a document that finds room follows those that waited before. -/
theorem documents_offer (document : Document) :
    (queue.offer index document).2.documents other =
      if other = index then
        queue.documents index ++ if (queue.offer index document).1 then [document] else []
      else queue.documents other := by
  unfold offer
  by_cases hfull : queue.capacity ≤ (queue.documents index).length
  · rw [if_pos hfull, documents_set]
    simp
  · rw [if_neg hfull]
    exact queue.documents_set index other _

/-- What an offer of several documents leaves waiting: the first ones that find room follow those
that waited before. -/
theorem documents_offerAll (documents : List Document) :
    (queue.offerAll index documents).2.documents other =
      if other = index then
        queue.documents index ++ documents.take (queue.offerAll index documents).1
      else queue.documents other := by
  simp only [offerAll, documents_set, List.length_take]
  split
  · congr 1
    rcases Nat.le_total (queue.capacity - (queue.documents index).length) documents.length
      with h | h
    · rw [Nat.min_eq_left h]
    · rw [Nat.min_eq_right h, List.take_of_length_le h, List.take_length]
  · rfl

/-- An offer is accepted as far as there is room. -/
theorem offerAll_accepted (documents : List Document) :
    (queue.offerAll index documents).1 =
      min (queue.capacity - queue.size index) documents.length := by
  simp [offerAll, size]

theorem size_offerAll (documents : List Document) :
    (queue.offerAll index documents).2.size index =
      queue.size index + (queue.offerAll index documents).1 := by
  rw [size, documents_offerAll, if_pos rfl, List.length_append, List.length_take,
    offerAll_accepted]
  simp [size]

theorem documents_poll (count : Nat) :
    (queue.poll index count).2.documents other =
      if other = index then (queue.documents index).drop count else queue.documents other := by
  simp only [poll]
  split
  · exact documents_set queue index other _
  next hnone =>
    have hempty : queue.documents index = [] := by
      rw [documents, Option.not_isSome_iff_eq_none.mp hnone]
      rfl
    split
    next hother => rw [hother, hempty, List.drop_nil]
    · rfl

theorem names_replaced (documents : List Document) (queues : List (String × List Document)) :
    (replaced index documents queues).map Prod.fst =
      if index ∈ queues.map Prod.fst then queues.map Prod.fst
      else queues.map Prod.fst ++ [index] := by
  induction queues with
  | nil => rfl
  | cons entry rest ih =>
      obtain ⟨name, waiting⟩ := entry
      unfold replaced
      by_cases hname : name = index
      · subst name
        simp
      · rw [if_neg hname, List.map_cons, ih]
        simp only [List.map_cons, List.mem_cons, Ne.symm hname, false_or]
        split <;> rfl

/-- Every index has one queue, and no queue is larger than the capacity. -/
structure Sound : Prop where
  names_nodup : (queue.queues.map Prod.fst).Nodup
  size_le (index : String) : queue.size index ≤ queue.capacity

/-- The queues that offers and polls lead to from an empty one, at any indexes. -/
inductive Reachable : RetryQueue → Prop where
  | start (capacity : Nat) : Reachable (ofCapacity capacity)
  | offer {queue : RetryQueue} (index : String) (document : Document) :
      Reachable queue → Reachable (queue.offer index document).2
  | offerAll {queue : RetryQueue} (index : String) (documents : List Document) :
      Reachable queue → Reachable (queue.offerAll index documents).2
  | poll {queue : RetryQueue} (index : String) (count : Nat) :
      Reachable queue → Reachable (queue.poll index count).2

variable {queue}

theorem Sound.set (hsound : queue.Sound) {documents : List Document}
    (hfits : documents.length ≤ queue.capacity) : (queue.set index documents).Sound := by
  constructor
  · change ((replaced index documents queue.queues).map Prod.fst).Nodup
    rw [names_replaced]
    split
    · exact hsound.names_nodup
    next hnew =>
      refine List.Nodup.append hsound.names_nodup (List.nodup_singleton index) ?_
      exact List.disjoint_singleton.mpr hnew
  · intro other
    unfold size
    rw [documents_set]
    split
    · exact hfits
    · exact hsound.size_le other

/-- No offer fills a queue beyond its capacity. -/
theorem Sound.offerAll (hsound : queue.Sound) (documents : List Document) :
    (queue.offerAll index documents).2.Sound := by
  apply hsound.set
  have hsize := hsound.size_le index
  simp only [size, List.length_append, List.length_take] at hsize ⊢
  omega

theorem Sound.poll (hsound : queue.Sound) (count : Nat) :
    (queue.poll index count).2.Sound := by
  simp only [RetryQueue.poll]
  split
  · apply hsound.set
    have hsize := hsound.size_le index
    simp only [size, List.length_drop] at hsize ⊢
    omega
  · exact hsound

theorem Sound.offer (hsound : queue.Sound) (document : Document) :
    (queue.offer index document).2.Sound := by
  by_cases hroom : queue.capacity ≤ (queue.documents index).length
  · simp only [RetryQueue.offer, if_pos hroom]
    exact hsound.set index (hsound.size_le index)
  · simp only [RetryQueue.offer, if_neg hroom]
    apply hsound.set
    simp only [List.length_append, List.length_singleton]
    omega

theorem sound_ofCapacity (capacity : Nat) : (ofCapacity capacity).Sound :=
  ⟨List.nodup_nil, fun _ => Nat.zero_le _⟩

theorem Reachable.sound (hreach : queue.Reachable) : queue.Sound := by
  induction hreach with
  | start capacity => exact sound_ofCapacity capacity
  | offer index document _ ih => exact ih.offer index document
  | offerAll index documents _ ih => exact ih.offerAll index documents
  | poll index count _ ih => exact ih.poll index count

/-- With distinct names, the entry of an index is what looking it up finds. -/
theorem Sound.mem_queues_iff (hsound : queue.Sound) {waiting : List Document} :
    (index, waiting) ∈ queue.queues ↔ queue.queues.lookup index = some waiting := by
  have hnodup := hsound.names_nodup
  generalize queue.queues = queues at hnodup
  induction queues with
  | nil => simp
  | cons entry rest ih =>
      obtain ⟨name, documents⟩ := entry
      -- Looking up finds the first entry of a name, and distinct names make it the only one.
      obtain ⟨hnew, hrest⟩ := List.nodup_cons.mp hnodup
      by_cases hname : index = name
      · subst name
        have habsent : (index, waiting) ∉ rest := fun hmem =>
          hnew (List.mem_map.mpr ⟨(index, waiting), hmem, rfl⟩)
        simp [habsent, eq_comm]
      · simp [List.lookup_cons, beq_eq_false_iff_ne.mpr hname, hname, ih hrest]

/-- The pending indexes are exactly those that documents wait for. -/
theorem Sound.mem_pending_iff (hsound : queue.Sound) :
    index ∈ queue.pending ↔ queue.documents index ≠ [] := by
  have hentry : index ∈ queue.pending ↔
      ∃ waiting, queue.queues.lookup index = some waiting ∧ waiting ≠ [] := by
    simp [pending, ← hsound.mem_queues_iff index]
  rw [hentry, RetryQueue.documents]
  cases queue.queues.lookup index with
  | none => simp
  | some waiting => simp

theorem Sound.pending_nodup (hsound : queue.Sound) : queue.pending.Nodup := by
  apply (List.mergeSort_perm _ _).nodup_iff.mpr
  exact hsound.names_nodup.sublist (List.filter_sublist.map Prod.fst)

/-- The pending indexes come in strictly ascending order, so each comes once. -/
theorem Sound.pending_ascending (hsound : queue.Sound) : queue.pending.Pairwise (· < ·) := by
  have hsorted : queue.pending.Pairwise (· ≤ ·) := by
    have h : queue.pending.Pairwise fun a b => decide (a ≤ b) = true :=
      List.pairwise_mergeSort (fun a b c => by simpa using le_trans)
        (fun a b => by simpa using le_total a b) _
    simpa using h
  exact hsorted.imp₂ (fun _ _ hle hne => lt_of_le_of_ne hle hne) hsound.pending_nodup

/-- A queue is empty exactly when nothing waits for any index. -/
theorem isEmpty_iff (hsound : queue.Sound) :
    queue.isEmpty ↔ ∀ index, queue.documents index = [] := by
  constructor
  · intro hempty index
    by_contra hwaits
    have hmem := (hsound.mem_pending_iff index).mpr hwaits
    simp only [pending, List.mem_mergeSort, List.mem_map, List.mem_filter] at hmem
    obtain ⟨entry, ⟨hentry, hsome⟩, -⟩ := hmem
    rw [List.all_eq_true.mp hempty entry hentry] at hsome
    exact Bool.noConfusion hsome
  · intro hnone
    apply List.all_eq_true.mpr
    rintro ⟨name, waiting⟩ hentry
    have hlookup := (hsound.mem_queues_iff name).mp hentry
    have hdocuments := hnone name
    rw [RetryQueue.documents, hlookup] at hdocuments
    simpa using hdocuments

end RetryQueue

end SearchFeed
