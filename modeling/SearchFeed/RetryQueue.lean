import SearchFeed.Json

/-! # Retry queue

Documents that could not be delivered wait in one queue per index. Every queue
holds a limited number of documents; a full one refuses what is offered and
keeps what it has.
-/

namespace SearchFeed

/-- A queue of documents for each index, and the size that none of them exceeds. -/
structure RetryQueue where
  capacity : Nat
  queues : List (String × List Document)
deriving Repr, Inhabited

namespace RetryQueue

/-- Nothing waits. -/
def ofCapacity (capacity : Nat) : RetryQueue := ⟨capacity, []⟩

/-- The documents that wait for an index, oldest first. -/
def documents (queue : RetryQueue) (index : String) : List Document :=
  (queue.queues.lookup index).getD []

/-- How many documents wait for an index. -/
def size (queue : RetryQueue) (index : String) : Nat := (queue.documents index).length

/-- The queues with the one of an index replaced. -/
def replaced (index : String) (documents : List Document) :
    List (String × List Document) → List (String × List Document)
  | [] => [(index, documents)]
  | (name, waiting) :: rest =>
    if name = index then (name, documents) :: rest
    else (name, waiting) :: replaced index documents rest

/-- The queue with the documents of one index replaced. -/
def set (queue : RetryQueue) (index : String) (documents : List Document) : RetryQueue :=
  { queue with queues := replaced index documents queue.queues }

/-- Offers one document; says whether there was room. An index has a queue from then on, though it
may be an empty one. -/
def offer (queue : RetryQueue) (index : String) (document : Document) : Bool × RetryQueue :=
  let waiting := queue.documents index
  if queue.capacity ≤ waiting.length then (false, queue.set index waiting)
  else (true, queue.set index (waiting ++ [document]))

/-- Offers documents in order; says how many found room, which are the first ones. -/
def offerAll (queue : RetryQueue) (index : String) (documents : List Document) :
    Nat × RetryQueue :=
  let waiting := queue.documents index
  let accepted := documents.take (queue.capacity - waiting.length)
  (accepted.length, queue.set index (waiting ++ accepted))

/-- Takes out up to that many of the oldest documents of an index. -/
def poll (queue : RetryQueue) (index : String) (count : Nat) : List Document × RetryQueue :=
  let waiting := queue.documents index
  (waiting.take count,
    if (queue.queues.lookup index).isSome then queue.set index (waiting.drop count) else queue)

/-- Whether nothing waits for an index. -/
def isEmptyAt (queue : RetryQueue) (index : String) : Bool := (queue.documents index).isEmpty

/-- How many documents wait in all. -/
def totalSize (queue : RetryQueue) : Nat :=
  (queue.queues.flatMap fun entry => entry.2).length

/-- Whether nothing waits at all. -/
def isEmpty (queue : RetryQueue) : Bool := queue.queues.all fun entry => entry.2.isEmpty

/-- The indexes that documents wait for, in ascending order of their names. -/
def pending (queue : RetryQueue) : List String :=
  ((queue.queues.filter fun entry => !entry.2.isEmpty).map Prod.fst).mergeSort (· ≤ ·)

end RetryQueue

end SearchFeed
