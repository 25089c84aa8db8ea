import Mathlib.Algebra.Order.Group.Multiset
import SearchFeed.Proofs.Drain

/-! # A drain pass among producers

Producers offer documents to the retry queue at any time, and a drain pass does
not keep them out while it waits for a reply. What it took may therefore find
its room gone when it comes back. A call of a producer and a step of the pass
are one move each, and an interleaving is a list of moves. Producers keep
nothing between their calls, so such a list stands for any number of them. A
pass whose steps follow each other is `Session.drainOnce`.
-/

namespace SearchFeed

/-- A document that waits or has waited for an index. -/
structure QueueEntry where
  index : String
  document : Document

/-- A document that was not let in again, and the queue that it met. -/
structure DroppedEntry extends QueueEntry where
  met : RetryQueue

def entriesFor (index : String) (documents : List Document) : List QueueEntry :=
  documents.map fun document => ⟨index, document⟩

def documentsFor (index : String) (entries : List QueueEntry) : List Document :=
  (entries.filter fun entry => entry.index = index).map QueueEntry.document

theorem documentsFor_append (index : String) (first second : List QueueEntry) :
    documentsFor index (first ++ second) =
      documentsFor index first ++ documentsFor index second := by
  simp [documentsFor]

theorem documentsFor_entriesFor (index other : String) (documents : List Document) :
    documentsFor index (entriesFor other documents) = if other = index then documents else [] := by
  by_cases hother : other = index
  · simp [documentsFor, entriesFor, List.filter_map, Function.comp_def, hother]
  · simp [documentsFor, entriesFor, List.filter_map, Function.comp_def, hother]

/-- Where a drain pass is between two of its steps. -/
inductive PassPoint where
  | starting
  /-- The pass goes on with these indexes, and is over if there are none. -/
  | between (rest : List String)
  /-- These documents of an index were taken out and sent. -/
  | asking (index : String) (documents : List Document) (rest : List String)
  /-- These documents of an index were refused and go back. -/
  | returning (index : String) (documents : List Document) (rest : List String)

def PassPoint.held : PassPoint → List QueueEntry
  | .starting => []
  | .between _ => []
  | .asking index documents _ => entriesFor index documents
  | .returning index documents _ => entriesFor index documents

/-- A retry queue that a drain pass shares with producers, and a record of what has become of the
documents, which no move looks at. -/
structure SharedQueue where
  queue : RetryQueue
  point : PassPoint := .starting
  summary : DrainSummary := {}
  /-- What producers have got in. -/
  accepted : List QueueEntry := []
  delivered : List QueueEntry := []
  /-- What the pass has got in again. -/
  requeued : List QueueEntry := []
  dropped : List DroppedEntry := []

namespace SharedQueue

/-- What happens to a shared queue without interruption. -/
inductive Move where
  | offer (index : String) (document : Document)
  | offerAll (index : String) (documents : List Document)
  /-- The pass takes its next step; if it has asked the cluster, this is the reply. -/
  | drain (reply : BulkReply)

def enter (state : SharedQueue) (queue : RetryQueue) (index : String)
    (documents : List Document) : SharedQueue :=
  { state with queue, accepted := state.accepted ++ entriesFor index documents }

def offer (state : SharedQueue) (index : String) (document : Document) : SharedQueue :=
  let offered := state.queue.offer index document
  state.enter offered.2 index (if offered.1 then [document] else [])

def offerAll (state : SharedQueue) (index : String) (documents : List Document) : SharedQueue :=
  let offered := state.queue.offerAll index documents
  state.enter offered.2 index (documents.take offered.1)

def takeOut (state : SharedQueue) (batch : Nat) (index : String) (rest : List String) :
    SharedQueue :=
  let (documents, queue) := state.queue.poll index batch
  { state with
    queue
    point := if documents.isEmpty then .between rest else .asking index documents rest
    summary := { state.summary with
      indexes := state.summary.indexes + if documents.isEmpty then 0 else 1
      attempted := state.summary.attempted + documents.length } }

def hear (state : SharedQueue) (index : String) (documents : List Document) (rest : List String)
    (reply : BulkReply) : SharedQueue :=
  let failed := BulkReply.refused documents reply
  { state with
    point := if failed.isEmpty then .between rest else .returning index failed rest
    summary := { state.summary with
      delivered := state.summary.delivered + (documents.length - failed.length) }
    delivered := state.delivered ++ entriesFor index (BulkReply.accepted documents reply) }

/-- The pass offers refused documents of an index again, and drops those that meet a full queue. -/
def giveBack (state : SharedQueue) (index : String) (documents : List Document)
    (rest : List String) : SharedQueue :=
  let (count, queue) := state.queue.offerAll index documents
  let lost := documents.drop count
  { state with
    queue
    point := .between rest
    summary := { state.summary with
      requeued := state.summary.requeued + count
      dropped := state.summary.dropped + (documents.length - count) }
    requeued := state.requeued ++ entriesFor index (documents.take count)
    dropped := state.dropped ++ lost.map fun document => ⟨⟨index, document⟩, queue⟩ }

def drain (state : SharedQueue) (batch : Nat) (reply : BulkReply) : SharedQueue :=
  match state.point with
  | .starting => { state with point := .between state.queue.pending }
  | .between [] => state
  | .between (index :: rest) => state.takeOut batch index rest
  | .asking index documents rest => state.hear index documents rest reply
  | .returning index documents rest => state.giveBack index documents rest

def step (batch : Nat) (state : SharedQueue) : Move → SharedQueue
  | .offer index document => state.offer index document
  | .offerAll index documents => state.offerAll index documents
  | .drain reply => state.drain batch reply

def run (batch : Nat) (moves : List Move) (state : SharedQueue) : SharedQueue :=
  moves.foldl (step batch) state

variable (state : SharedQueue) (batch : Nat) (index : String)

def waiting : List Document := state.queue.documents index

def held : List Document := documentsFor index state.point.held

def taken : List Document := documentsFor index state.delivered

def lost : List Document := documentsFor index (state.dropped.map DroppedEntry.toQueueEntry)

def entered : List Document := documentsFor index state.accepted

/-- All documents for an index, wherever they are. -/
def present : Multiset Document :=
  state.waiting index + state.held index + state.taken index + state.lost index

/-- What holds after every move, for documents that waited at the start. -/
structure Conserves (start : RetryQueue) (state : SharedQueue) : Prop where
  sound : state.queue.Sound
  capacity : state.queue.capacity = start.capacity
  balance (index : String) :
    state.present index = (start.documents index : Multiset Document) + state.entered index
  attempts : state.summary.attempted = state.summary.delivered + state.summary.requeued +
    state.summary.dropped + state.point.held.length
  deliveries : state.summary.delivered = state.delivered.length
  requeues : state.summary.requeued = state.requeued.length
  drops : state.summary.dropped = state.dropped.length
  full : ∀ entry ∈ state.dropped, entry.met.size entry.index = start.capacity

section Moves

variable {state batch index} {start : RetryQueue} {rest : List String}
  {documents : List Document}

/-- What a producer gets in waits behind what was there. -/
theorem Conserves.enter (hstate : state.Conserves start) {queue : RetryQueue}
    (hsound : queue.Sound) (hcapacity : queue.capacity = state.queue.capacity)
    (hdocuments : ∀ other, queue.documents other =
      if other = index then state.waiting index ++ documents else state.waiting other) :
    (state.enter queue index documents).Conserves start where
  sound := hsound
  capacity := hcapacity.trans hstate.capacity
  balance other := by
    have hbalance := hstate.balance other
    have hwaiting : queue.documents other =
        state.waiting other ++ documentsFor other (entriesFor index documents) := by
      rw [hdocuments, documentsFor_entriesFor]
      by_cases hother : other = index
      · simp [hother]
      · simp [hother, Ne.symm hother]
    simp only [present, waiting, held, taken, lost, entered, SharedQueue.enter,
      documentsFor_append, hwaiting, ← Multiset.coe_add] at hbalance ⊢
    rw [← add_assoc, ← hbalance]
    ac_rfl
  attempts := hstate.attempts
  deliveries := hstate.deliveries
  requeues := hstate.requeues
  drops := hstate.drops
  full := hstate.full

/-- What an offer accepts waits from then on. -/
theorem Conserves.offer (hstate : state.Conserves start) (document : Document) :
    (state.offer index document).Conserves start :=
  hstate.enter (hstate.sound.offer index document) (state.queue.capacity_offer index document)
    fun other => state.queue.documents_offer index other document

theorem Conserves.offerAll (hstate : state.Conserves start) (documents : List Document) :
    (state.offerAll index documents).Conserves start :=
  hstate.enter (hstate.sound.offerAll index documents) rfl
    fun other => state.queue.documents_offerAll index other documents

theorem held_unless_empty {point : PassPoint} (hheld : point.held = entriesFor index documents) :
    (if documents.isEmpty then .between rest else point : PassPoint).held =
      entriesFor index documents := by
  cases documents with
  | nil => rfl
  | cons document others => exact hheld

theorem held_takeOut : (state.takeOut batch index rest).point.held =
    entriesFor index ((state.queue.documents index).take batch) := held_unless_empty rfl

/-- After a reply the pass holds what the reply refused. -/
theorem held_hear (reply : BulkReply) : (state.hear index documents rest reply).point.held =
    entriesFor index (BulkReply.refused documents reply) := held_unless_empty rfl

/-- Taking documents out for a request loses none of them. -/
theorem present_takeOut (hnone : state.point.held = []) (other : String) :
    (state.takeOut batch index rest).present other = state.present other := by
  have hwaiting : (state.takeOut batch index rest).waiting other =
      if other = index then (state.waiting index).drop batch else state.waiting other :=
    state.queue.documents_poll index other batch
  have hrest : (state.takeOut batch index rest).taken other = state.taken other ∧
      (state.takeOut batch index rest).lost other = state.lost other := ⟨rfl, rfl⟩
  rw [present, present, hwaiting, held, held, held_takeOut, hnone, documentsFor_entriesFor,
    hrest.1, hrest.2]
  by_cases hother : other = index
  · subst other
    have hsplit : ((state.waiting index).drop batch : Multiset Document) +
        (state.queue.documents index).take batch = state.waiting index := by
      rw [Multiset.coe_add, Multiset.coe_eq_coe]
      exact List.perm_append_comm.trans (List.Perm.of_eq (List.take_append_drop _ _))
    rw [if_pos rfl, if_pos rfl, hsplit]
    exact congrArg (· + _ + _) (add_zero _).symm
  · rw [if_neg hother, if_neg (Ne.symm hother)]
    rfl

theorem Conserves.takeOut (hstate : state.Conserves start) (hnone : state.point.held = []) :
    (state.takeOut batch index rest).Conserves start where
  sound := hstate.sound.poll index batch
  capacity := (state.queue.capacity_poll index batch).trans hstate.capacity
  balance other := (present_takeOut hnone other).trans (hstate.balance other)
  attempts := by
    have hattempts := hstate.attempts
    rw [held_takeOut]
    rw [hnone] at hattempts
    simp only [SharedQueue.takeOut, RetryQueue.poll, entriesFor, List.length_map,
      List.length_nil] at hattempts ⊢
    omega
  deliveries := hstate.deliveries
  requeues := hstate.requeues
  drops := hstate.drops
  full := hstate.full

theorem present_hear (hpoint : state.point = .asking index documents rest) (reply : BulkReply)
    (other : String) :
    (state.hear index documents rest reply).present other = state.present other := by
  have hasked : state.point.held = entriesFor index documents := by
    rw [hpoint]
    rfl
  have htaken : (state.hear index documents rest reply).taken other = state.taken other ++
      documentsFor other (entriesFor index (BulkReply.accepted documents reply)) :=
    documentsFor_append other _ _
  have hrest : (state.hear index documents rest reply).waiting other = state.waiting other ∧
      (state.hear index documents rest reply).lost other = state.lost other := ⟨rfl, rfl⟩
  rw [present, present, held, held, held_hear, hasked, htaken, hrest.1, hrest.2,
    documentsFor_entriesFor, documentsFor_entriesFor, documentsFor_entriesFor]
  by_cases hother : index = other
  · rw [if_pos hother, if_pos hother, if_pos hother]
    have hsplit : (documents : Multiset Document) =
        BulkReply.accepted documents reply + BulkReply.refused documents reply := by
      rw [Multiset.coe_add, Multiset.coe_eq_coe]
      exact (BulkReply.accepted_append_refused_perm documents reply).symm
    rw [hsplit, ← Multiset.coe_add]
    ac_rfl
  · rw [if_neg hother, if_neg hother, if_neg hother, List.append_nil]

theorem Conserves.hear (hstate : state.Conserves start)
    (hpoint : state.point = .asking index documents rest) (reply : BulkReply) :
    (state.hear index documents rest reply).Conserves start where
  sound := hstate.sound
  capacity := hstate.capacity
  balance other := (present_hear hpoint reply other).trans (hstate.balance other)
  attempts := by
    have hattempts := hstate.attempts
    have hlength := BulkReply.length_refused_le documents reply
    rw [held_hear]
    rw [hpoint] at hattempts
    simp only [SharedQueue.hear, PassPoint.held, entriesFor, List.length_map] at hattempts ⊢
    omega
  deliveries := by
    have hdeliveries := hstate.deliveries
    simp only [SharedQueue.hear, entriesFor, List.length_append, List.length_map,
      BulkReply.length_accepted]
    omega
  requeues := hstate.requeues
  drops := hstate.drops
  full := hstate.full

/-- What the pass gives back waits again if it finds room, and is lost otherwise. -/
theorem present_giveBack (hpoint : state.point = .returning index documents rest)
    (other : String) :
    (state.giveBack index documents rest).present other = state.present other := by
  let count := (state.queue.offerAll index documents).1
  have hwaiting : (state.giveBack index documents rest).waiting other =
      if other = index then state.waiting index ++ documents.take count
      else state.waiting other := state.queue.documents_offerAll index other documents
  have hasked : state.point.held = entriesFor index documents := by
    rw [hpoint]
    rfl
  have hlost : (state.giveBack index documents rest).lost other = state.lost other ++
      documentsFor other (entriesFor index (documents.drop count)) := by
    simp only [lost, SharedQueue.giveBack, List.map_append, documentsFor_append, List.map_map]
    rfl
  have hrest : (state.giveBack index documents rest).held other = [] ∧
      (state.giveBack index documents rest).taken other = state.taken other := ⟨rfl, rfl⟩
  rw [present, present, hwaiting, hlost, hrest.1, hrest.2, held, hasked, documentsFor_entriesFor,
    documentsFor_entriesFor]
  by_cases hother : index = other
  · subst other
    rw [if_pos rfl, if_pos rfl, if_pos rfl]
    have hsplit : (documents : Multiset Document) =
        documents.take count + documents.drop count := by
      rw [Multiset.coe_add, List.take_append_drop]
    rw [hsplit, ← Multiset.coe_add, ← Multiset.coe_add, Multiset.coe_nil, add_zero]
    ac_rfl
  · rw [if_neg hother, if_neg (Ne.symm hother), if_neg hother, List.append_nil]

theorem Conserves.giveBack (hstate : state.Conserves start)
    (hpoint : state.point = .returning index documents rest) :
    (state.giveBack index documents rest).Conserves start where
  sound := hstate.sound.offerAll index documents
  capacity := hstate.capacity
  balance other := (present_giveBack hpoint other).trans (hstate.balance other)
  attempts := by
    have hattempts := hstate.attempts
    have hcount := state.queue.offerAll_accepted index documents
    rw [hpoint] at hattempts
    simp only [SharedQueue.giveBack, PassPoint.held, entriesFor, List.length_map,
      List.length_nil] at hattempts ⊢
    omega
  deliveries := hstate.deliveries
  requeues := by
    have hrequeues := hstate.requeues
    have hcount := state.queue.offerAll_accepted index documents
    simp only [SharedQueue.giveBack, entriesFor, List.length_append, List.length_map,
      List.length_take]
    omega
  drops := by
    have hdrops := hstate.drops
    simp only [SharedQueue.giveBack, List.length_append, List.length_map, List.length_drop]
    omega
  full := by
    intro entry hentry
    rcases List.mem_append.mp hentry with hold | hnew
    · exact hstate.full entry hold
    -- A document goes back in unless those before it have used up the room.
    · obtain ⟨document, hdocument, rfl⟩ := List.mem_map.mp hnew
      change document ∈ documents.drop (state.queue.offerAll index documents).1 at hdocument
      have hleft := List.length_pos_of_mem hdocument
      have hsize := hstate.sound.size_le index
      have hcount := state.queue.offerAll_accepted index documents
      have hcapacity := hstate.capacity
      change (state.queue.offerAll index documents).2.size index = start.capacity
      rw [RetryQueue.size_offerAll]
      rw [List.length_drop] at hleft
      omega

theorem Conserves.begin (hstate : state.Conserves start) (hnone : state.point.held = []) :
    ({ state with point := .between rest } : SharedQueue).Conserves start where
  sound := hstate.sound
  capacity := hstate.capacity
  balance other := by
    have hpresent : ({ state with point := .between rest } : SharedQueue).present other =
        state.present other := by
      rw [present, present, held, held, hnone]
      rfl
    exact hpresent.trans (hstate.balance other)
  attempts := by
    have hattempts := hstate.attempts
    rw [hnone] at hattempts
    exact hattempts
  deliveries := hstate.deliveries
  requeues := hstate.requeues
  drops := hstate.drops
  full := hstate.full

/-- Each step of the pass moves documents between the queue, the request and the two ways out. -/
theorem Conserves.drain (hstate : state.Conserves start) (reply : BulkReply) :
    (state.drain batch reply).Conserves start := by
  unfold SharedQueue.drain
  split
  next hpoint => exact hstate.begin (by rw [hpoint]; rfl)
  next hpoint => exact hstate
  next index rest hpoint => exact hstate.takeOut (by rw [hpoint]; rfl)
  next index documents rest hpoint => exact hstate.hear hpoint reply
  next index documents rest hpoint => exact hstate.giveBack hpoint

theorem Conserves.step (hstate : state.Conserves start) (move : Move) :
    (step batch state move).Conserves start := by
  cases move with
  | offer index document => exact hstate.offer document
  | offerAll index documents => exact hstate.offerAll documents
  | drain reply => exact hstate.drain reply

/-- Whatever moves happen in whatever order, no document is lost or made. -/
theorem Conserves.run (hstate : state.Conserves start) (moves : List Move) :
    (run batch moves state).Conserves start := by
  induction moves generalizing state with
  | nil => exact hstate
  | cons move rest ih => exact ih (hstate.step move)

end Moves

theorem conserves_start {queue : RetryQueue} (hsound : queue.Sound) :
    ({ queue } : SharedQueue).Conserves queue where
  sound := hsound
  capacity := rfl
  balance index := by
    have hnone : ({ queue } : SharedQueue).present index =
        (queue.documents index : Multiset Document) + 0 + 0 + 0 := rfl
    rw [hnone, add_zero, add_zero]
    rfl
  attempts := rfl
  deliveries := rfl
  requeues := rfl
  drops := rfl
  full entry hentry := absurd hentry List.not_mem_nil

end SharedQueue

end SearchFeed
