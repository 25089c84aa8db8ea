import Mathlib.Algebra.BigOperators.Group.Finset.Basic
import Mathlib.Data.Finset.Dedup
import SearchFeed.Proofs.RetryQueue

/-! # The retry queue as a family of lists

All that can be told from the answers of a retry queue is a list for each name,
which an offer lengthens while it is shorter than the capacity and a poll
shortens at its beginning. Along a run the documents of a name come out in the
order in which they were let in, and what is left waits.
-/

namespace SearchFeed

inductive QueueMove where
  | offer (index : String) (document : Document)
  | offerAll (index : String) (documents : List Document)
  | poll (index : String) (count : Nat)

inductive QueueAnswer where
  | taken (accepted : Bool)
  | counted (accepted : Nat)
  | handed (documents : List Document)

def QueueMove.index : QueueMove → String
  | .offer index _ => index
  | .offerAll index _ => index
  | .poll index _ => index

/-- What waits for each name, each list apart from the others. -/
abbrev WaitingLists := String → List Document

namespace WaitingLists

/-- What a move is answered, and what waits after it, if no list outgrows the capacity. -/
def ask (capacity : Nat) (lists : WaitingLists) : QueueMove → QueueAnswer × WaitingLists
  | .offer index document =>
    if (lists index).length < capacity then
      (.taken true, Function.update lists index (lists index ++ [document]))
    else (.taken false, lists)
  | .offerAll index documents =>
    let room := capacity - (lists index).length
    (.counted (min documents.length room),
      Function.update lists index (lists index ++ documents.take room))
  | .poll index count =>
    (.handed ((lists index).take count),
      Function.update lists index ((lists index).drop count))

def askAll (capacity : Nat) (lists : WaitingLists) :
    List QueueMove → List QueueAnswer × WaitingLists
  | [] => ([], lists)
  | move :: rest =>
    let asked := lists.ask capacity move
    let others := askAll capacity asked.2 rest
    (asked.1 :: others.1, others.2)

end WaitingLists

/-- The documents that a move has got in for an index, as its answer tells. -/
def letIn (index : String) : QueueMove × QueueAnswer → List Document
  | (.offer name document, .taken true) => if name = index then [document] else []
  | (.offerAll name documents, .counted count) =>
    if name = index then documents.take count else []
  | _ => []

/-- The documents of an index that a move has got out, as its answer tells. -/
def handedOut (index : String) : QueueMove × QueueAnswer → List Document
  | (.poll name _, .handed documents) => if name = index then documents else []
  | _ => []

namespace RetryQueue

variable (queue : RetryQueue) (index : String)

def ask (queue : RetryQueue) : QueueMove → QueueAnswer × RetryQueue
  | .offer index document =>
    let (taken, after) := queue.offer index document
    (.taken taken, after)
  | .offerAll index documents =>
    let (count, after) := queue.offerAll index documents
    (.counted count, after)
  | .poll index count =>
    let (documents, after) := queue.poll index count
    (.handed documents, after)

def askAll (queue : RetryQueue) : List QueueMove → List QueueAnswer × RetryQueue
  | [] => ([], queue)
  | move :: rest =>
    let asked := queue.ask move
    let others := askAll asked.2 rest
    (asked.1 :: others.1, others.2)

/-- Offers documents one at a time; says how many found room. -/
def offerEach (queue : RetryQueue) (index : String) : List Document → Nat × RetryQueue
  | [] => (0, queue)
  | document :: rest =>
    let offered := queue.offer index document
    let others := offered.2.offerEach index rest
    (others.1 + (if offered.1 then 1 else 0), others.2)

theorem offer_fst (document : Document) : (queue.offer index document).1 =
    decide ((queue.documents index).length < queue.capacity) := by
  simp only [offer]
  split
  next hfull => simp [Nat.not_lt.mpr hfull]
  next hroom => simp [Nat.not_le.mp hroom]

theorem documents_offer_eq (document : Document) :
    (queue.offer index document).2.documents =
      if (queue.documents index).length < queue.capacity then
        Function.update queue.documents index (queue.documents index ++ [document])
      else queue.documents := by
  funext other
  rw [documents_offer, offer_fst]
  by_cases hroom : (queue.documents index).length < queue.capacity
  · simp [hroom, Function.update_apply]
  · by_cases hother : other = index <;> simp [hroom, hother]

/-- An offer of documents appends as many as there is room for. -/
theorem documents_offerAll_eq (documents : List Document) :
    (queue.offerAll index documents).2.documents = Function.update queue.documents index
      (queue.documents index ++
        documents.take (queue.capacity - (queue.documents index).length)) := by
  funext other
  rw [Function.update_apply]
  exact queue.documents_set index other _

/-- A poll takes the oldest documents of one index and leaves the other indexes alone. -/
theorem documents_poll_eq (count : Nat) : (queue.poll index count).2.documents =
    Function.update queue.documents index ((queue.documents index).drop count) := by
  funext other
  rw [documents_poll, Function.update_apply]

/-- A move is answered as the lists say, and leaves them as they say. -/
theorem ask_eq (move : QueueMove) :
    ((queue.ask move).1, (queue.ask move).2.documents) =
      WaitingLists.ask queue.capacity queue.documents move := by
  cases move with
  | offer index document =>
      simp only [ask, WaitingLists.ask, offer_fst, documents_offer_eq]
      by_cases hroom : (queue.documents index).length < queue.capacity
      · rw [if_pos hroom, if_pos hroom, decide_eq_true hroom]
      · rw [if_neg hroom, if_neg hroom, decide_eq_false hroom]
  | offerAll index documents =>
      simp only [ask, WaitingLists.ask, documents_offerAll_eq, offerAll_accepted, Nat.min_comm]
      rfl
  | poll index count =>
      simp only [ask, WaitingLists.ask, documents_poll_eq]
      rfl

@[simp] theorem capacity_ask (move : QueueMove) :
    (queue.ask move).2.capacity = queue.capacity := by
  cases move <;> simp [ask]

/-- Along any moves the queue gives the answers of the bounded lists, and holds what they hold. -/
theorem askAll_eq (moves : List QueueMove) :
    ((queue.askAll moves).1, (queue.askAll moves).2.documents) =
      WaitingLists.askAll queue.capacity queue.documents moves := by
  induction moves generalizing queue with
  | nil => rfl
  | cons move rest ih =>
      have hfirst := queue.ask_eq move
      have hrest := ih (queue.ask move).2
      rw [capacity_ask] at hrest
      simp only [askAll, WaitingLists.askAll, ← hfirst, ← hrest]

theorem capacity_askAll (moves : List QueueMove) :
    (queue.askAll moves).2.capacity = queue.capacity := by
  induction moves generalizing queue with
  | nil => rfl
  | cons move rest ih => exact (ih _).trans (queue.capacity_ask move)

theorem Reachable.askAll {queue : RetryQueue} (hreach : queue.Reachable) (moves : List QueueMove) :
    (queue.askAll moves).2.Reachable := by
  induction moves generalizing queue with
  | nil => exact hreach
  | cons move rest ih =>
      apply ih
      cases move with
      | offer index document => exact hreach.offer index document
      | offerAll index documents => exact hreach.offerAll index documents
      | poll index count => exact hreach.poll index count

/-- Moves about other names leave what waits for a name alone. -/
theorem documents_ask_other (move : QueueMove) (hother : index ≠ move.index) :
    (queue.ask move).2.documents index = queue.documents index := by
  cases move with
  | offer name document => exact (documents_offer ..).trans (if_neg hother)
  | offerAll name documents => exact (documents_offerAll ..).trans (if_neg hother)
  | poll name count => exact (documents_poll ..).trans (if_neg hother)

/-- What a move takes out is what was first, and what it gets in comes last. -/
theorem handedOut_ask (move : QueueMove) :
    handedOut index (move, (queue.ask move).1) ++ (queue.ask move).2.documents index =
      queue.documents index ++ letIn index (move, (queue.ask move).1) := by
  by_cases hindex : index = move.index
  · subst hindex
    cases move with
    | offer name document =>
        have hwaiting := queue.documents_offer name name document
        rw [if_pos rfl] at hwaiting
        simp only [ask, handedOut, QueueMove.index, hwaiting]
        cases (queue.offer name document).1 <;> simp [letIn]
    | offerAll name documents =>
        have hwaiting := queue.documents_offerAll name name documents
        rw [if_pos rfl] at hwaiting
        simp [ask, handedOut, letIn, QueueMove.index, hwaiting]
    | poll name count =>
        have hwaiting := queue.documents_poll name name count
        rw [if_pos rfl] at hwaiting
        simp only [ask, handedOut, letIn, QueueMove.index, hwaiting, if_true, List.append_nil]
        exact List.take_append_drop count _
  · rw [documents_ask_other queue index move hindex]
    cases move with
    | offer name document =>
        have hname : name ≠ index := Ne.symm hindex
        simp only [ask, handedOut, List.nil_append]
        cases (queue.offer name document).1 <;> simp [letIn, hname]
    | offerAll name documents =>
        have hname : name ≠ index := Ne.symm hindex
        simp [ask, handedOut, letIn, hname]
    | poll name count =>
        have hname : name ≠ index := Ne.symm hindex
        simp [ask, handedOut, letIn, hname]

/-- Along a run, what has come out and what still waits is what waited at first and what was let in,
in this order. -/
theorem handedOut_askAll (moves : List QueueMove) :
    let history := moves.zip (queue.askAll moves).1
    history.flatMap (handedOut index) ++ (queue.askAll moves).2.documents index =
      queue.documents index ++ history.flatMap (letIn index) := by
  induction moves generalizing queue with
  | nil => simp [askAll]
  | cons move rest ih =>
      have hrest := ih (queue.ask move).2
      dsimp only at hrest
      simp only [askAll, List.zip_cons_cons, List.flatMap_cons]
      rw [List.append_assoc, hrest, ← List.append_assoc, handedOut_ask, List.append_assoc]

/-- Offering documents together and one at a time comes to the same. -/
theorem offerEach_eq (documents : List Document) :
    (queue.offerEach index documents).1 = (queue.offerAll index documents).1 ∧
      (queue.offerEach index documents).2.documents =
        (queue.offerAll index documents).2.documents := by
  rw [offerAll_accepted, documents_offerAll_eq]
  induction documents generalizing queue with
  | nil => simp [offerEach]
  | cons document rest ih =>
      obtain ⟨hcount, hdocuments⟩ := ih (queue.offer index document).2
      have hafter := queue.documents_offer_eq index document
      rw [capacity_offer] at hcount hdocuments
      simp only [offerEach, hcount, hdocuments, offer_fst, size, hafter]
      by_cases hroom : (queue.documents index).length < queue.capacity
      · obtain ⟨room, hleft⟩ : ∃ room, queue.capacity - (queue.documents index).length = room + 1 :=
          Nat.exists_eq_succ_of_ne_zero (by omega)
        have hleft' : queue.capacity - ((queue.documents index).length + 1) = room := by omega
        simp [hroom, hleft, hleft', Nat.add_min_add_right]
      · have hfull : queue.capacity - (queue.documents index).length = 0 := by omega
        simp [hroom, hfull]

/-- Two polls take out together what one poll for both would take out. -/
theorem poll_poll (first second : Nat) :
    let polled := queue.poll index first
    let polled' := polled.2.poll index second
    polled.1 ++ polled'.1 = (queue.poll index (first + second)).1 ∧
      polled'.2.documents = (queue.poll index (first + second)).2.documents := by
  intro polled polled'
  have hafter : polled.2.documents index = (queue.documents index).drop first :=
    (queue.documents_poll index index first).trans (if_pos rfl)
  constructor
  · change _ ++ (polled.2.documents index).take second = _
    rw [hafter]
    exact List.take_add.symm
  · simp only [polled', documents_poll_eq, hafter, polled, List.drop_drop, Function.update_idem]

variable {queue}

theorem Sound.size_of_mem (hsound : queue.Sound) {entry : String × List Document}
    (hentry : entry ∈ queue.queues) : queue.size entry.1 = entry.2.length := by
  rw [size, RetryQueue.documents, (hsound.mem_queues_iff entry.1).mp hentry]
  rfl

/-- The total size is the sum of the sizes of the queues, whichever names are summed over, as long
as none is left out that documents wait for. -/
theorem Sound.totalSize_eq (hsound : queue.Sound) (names : Finset String)
    (hnames : ∀ index, queue.documents index ≠ [] → index ∈ names) :
    queue.totalSize = ∑ index ∈ names, queue.size index := by
  have hknown : queue.totalSize =
      ∑ index ∈ (queue.queues.map Prod.fst).toFinset, queue.size index := by
    rw [List.sum_toFinset _ hsound.names_nodup, List.map_map, totalSize, List.length_flatMap]
    congr 1
    apply List.map_congr_left
    intro entry hentry
    exact (hsound.size_of_mem hentry).symm
  -- Either sum leaves out empty queues only, so each is the sum over the names of both.
  let both := names ∪ (queue.queues.map Prod.fst).toFinset
  have hwidened {some : Finset String} (hsome : some ⊆ both)
      (hwaiting : ∀ index, queue.documents index ≠ [] → index ∈ some) :
      ∑ index ∈ some, queue.size index = ∑ index ∈ both, queue.size index := by
    apply Finset.sum_subset hsome
    intro index _ hleft
    exact congrArg List.length (by_contra (hleft ∘ hwaiting index))
  rw [hknown, hwidened Finset.subset_union_right, hwidened Finset.subset_union_left hnames]
  intro index hwaits
  rw [List.mem_toFinset]
  have hpending := (hsound.mem_pending_iff index).mpr hwaits
  simp only [pending, List.mem_mergeSort, List.mem_map, List.mem_filter] at hpending
  obtain ⟨entry, ⟨hentry, -⟩, rfl⟩ := hpending
  exact List.mem_map_of_mem hentry

theorem isEmpty_iff_totalSize : queue.isEmpty = true ↔ queue.totalSize = 0 := by
  rw [totalSize, List.length_eq_zero_iff, List.flatMap_eq_nil_iff, isEmpty, List.all_eq_true]
  simp

theorem Sound.pending_eq_nil_iff (hsound : queue.Sound) :
    queue.pending = [] ↔ queue.isEmpty = true := by
  rw [isEmpty_iff hsound, List.eq_nil_iff_forall_not_mem]
  simp only [hsound.mem_pending_iff, not_not]

/-- What a retry queue says about all of its lists at once. -/
structure SumsUp (queue : RetryQueue) : Prop where
  size_le (index : String) : queue.size index ≤ queue.capacity
  totalSize_eq (names : Finset String) :
    (∀ index, 0 < queue.size index → index ∈ names) →
      queue.totalSize = ∑ index ∈ names, queue.size index
  ascending : queue.pending.Pairwise (· < ·)
  mem_pending (index : String) : index ∈ queue.pending ↔ 0 < queue.size index
  none_pending : queue.pending = [] ↔ queue.isEmpty = true
  none_waiting : queue.isEmpty = true ↔ queue.totalSize = 0

theorem Sound.sumsUp (hsound : queue.Sound) : queue.SumsUp where
  size_le := hsound.size_le
  totalSize_eq names hnames := by
    apply hsound.totalSize_eq
    exact fun index hwaits => hnames index (List.length_pos_iff.mpr hwaits)
  ascending := hsound.pending_ascending
  mem_pending index := (hsound.mem_pending_iff index).trans List.length_pos_iff.symm
  none_pending := hsound.pending_eq_nil_iff
  none_waiting := isEmpty_iff_totalSize

/-- Whatever is asked of an empty retry queue, it answers as bounded lists apart would, and it sums
them up. Documents may be offered together or one at a time and polled together or in two parts. -/
theorem behaves_as_bounded_lists (capacity : Nat) (moves : List QueueMove) :
    let answers := ((ofCapacity capacity).askAll moves).1
    let queue := ((ofCapacity capacity).askAll moves).2
    let history := moves.zip answers
    (answers, queue.documents) = WaitingLists.askAll capacity (fun _ => []) moves ∧
    (∀ index, history.flatMap (handedOut index) ++ queue.documents index =
      history.flatMap (letIn index)) ∧
    queue.capacity = capacity ∧ queue.SumsUp ∧
    (∀ index documents,
      let together := queue.offerAll index documents
      let apart := queue.offerEach index documents
      together.1 = min documents.length (capacity - queue.size index) ∧
        apart.1 = together.1 ∧ apart.2.documents = together.2.documents) ∧
    (∀ index first second,
      let one := queue.poll index first
      let two := one.2.poll index second
      let both := queue.poll index (first + second)
      one.1 ++ two.1 = both.1 ∧ two.2.documents = both.2.documents) ∧
    ∀ (move : QueueMove) (index : String), index ≠ move.index →
      (queue.ask move).2.documents index = queue.documents index := by
  intro answers queue history
  have hcapacity : queue.capacity = capacity := (ofCapacity capacity).capacity_askAll moves
  have hreach : queue.Reachable := (Reachable.start capacity).askAll moves
  refine ⟨(ofCapacity capacity).askAll_eq moves, ?_, hcapacity, hreach.sound.sumsUp, ?_, ?_, ?_⟩
  · exact fun index => (ofCapacity capacity).handedOut_askAll index moves
  · intro index documents together apart
    have hcount := queue.offerAll_accepted index documents
    rw [hcapacity, Nat.min_comm] at hcount
    exact ⟨hcount, queue.offerEach_eq index documents⟩
  · exact fun index first second => queue.poll_poll index first second
  · exact fun move index hother => queue.documents_ask_other index move hother

/-- Three documents are offered where two find room, one of them is polled so that one more fits,
and the next is turned away; another index holds a document of its own. -/
theorem behaves_as_bounded_lists_full :
    let moves : List QueueMove :=
      [.offerAll "b" [.null, .bool true, .int 7], .poll "b" 1, .offer "c" (.int 1),
        .offer "b" (.int 2), .offer "b" (.int 3)]
    let queue := ((ofCapacity 2).askAll moves).2
    "c" ≠ (QueueMove.poll "b" 2).index ∧
      (queue.ask (.poll "b" 2)).2.documents "c" = [.int 1] ∧
      queue.documents "b" = [.bool true, .int 2] ∧ queue.totalSize = 3 ∧
      "b" ∈ queue.pending := by
  intro moves queue
  obtain ⟨hlists, -, -, hsums, -, -, hapart⟩ := behaves_as_bounded_lists 2 moves
  have hb : queue.documents "b" = [.bool true, .int 2] := congrFun (congrArg Prod.snd hlists) "b"
  have hc : queue.documents "c" = [.int 1] := congrFun (congrArg Prod.snd hlists) "c"
  have hnames : ∀ index, 0 < queue.size index → index ∈ ({"b", "c"} : Finset String) := by
    intro index hwaits
    by_contra hnot
    simp only [Finset.mem_insert, Finset.mem_singleton, not_or] at hnot
    have hnone : queue.documents index = [] := by
      refine (congrFun (congrArg Prod.snd hlists) index).trans ?_
      simp [moves, WaitingLists.askAll, WaitingLists.ask, hnot]
    rw [size, hnone] at hwaits
    exact absurd hwaits (by decide)
  refine ⟨by decide, (hapart (.poll "b" 2) "c" (by decide)).trans hc, hb, ?_, ?_⟩
  · rw [hsums.totalSize_eq {"b", "c"} hnames, Finset.sum_pair (by decide), size, size, hb, hc]
    rfl
  · exact (hsums.mem_pending "b").mpr (by rw [size, hb]; decide)

end RetryQueue

end SearchFeed
