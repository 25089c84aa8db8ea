import SearchFeed.Json.Size

/-! # Batches

Documents are collected until a batch has enough of them or is large enough,
and handed back in the order in which they came. A document that would make
the batch too large starts a new one, so only a single document can exceed the
limit on bytes.
-/

namespace SearchFeed

/-- The greatest count of bytes that a batch can tell. -/
def greatestSize : Nat := (1 <<< 64) - 1

/-- A sum that stops at the greatest count. -/
def addSizes (a b : Nat) : Nat := min (a + b) greatestSize

/-- When a batch is handed back. -/
structure BatchLimits where
  maxDocs : Nat
  maxBytes : Nat
deriving DecidableEq, Repr

namespace BatchLimits

/-- A hundred documents or five mebibytes. -/
def standard : BatchLimits := ⟨100, 5 * 1024 * 1024⟩

instance : Inhabited BatchLimits := ⟨standard⟩

end BatchLimits

/-- Documents in order, each with the key it came with, and their estimated size. -/
structure Batch (κ : Type) where
  entries : List (κ × Document)
  bytes : Nat
deriving Repr

namespace Batch

variable {κ : Type}

/-- A batch without documents. -/
def empty : Batch κ := ⟨[], 0⟩

/-- The keys in order. -/
def keys (batch : Batch κ) : List κ := batch.entries.map Prod.fst

/-- The documents in order. -/
def documents (batch : Batch κ) : List Document := batch.entries.map Prod.snd

/-- How many documents there are. -/
def size (batch : Batch κ) : Nat := batch.entries.length

/-- The batch with one more document at its end. -/
def add (batch : Batch κ) (key : κ) (document : Document) : Batch κ :=
  ⟨batch.entries ++ [(key, document)], addSizes batch.bytes document.estimate⟩

/-- Whether the batch has to be handed back. -/
def isFull (limits : BatchLimits) (batch : Batch κ) : Bool :=
  limits.maxDocs ≤ batch.size || limits.maxBytes ≤ batch.bytes

/-- Whether a document would make a batch that has others too large. -/
def overflows (limits : BatchLimits) (batch : Batch κ) (document : Document) : Bool :=
  !batch.entries.isEmpty && limits.maxBytes < addSizes batch.bytes document.estimate

/-- Takes in a document after the pending ones. Gives the batches that are ready, oldest first,
and the one that is pending afterwards. -/
def push (limits : BatchLimits) (pending : Batch κ) (key : κ) (document : Document) :
    List (Batch κ) × Batch κ :=
  let (displaced, started) :=
    if pending.overflows limits document then ([pending], empty) else ([], pending)
  let grown := started.add key document
  if grown.isFull limits then (displaced ++ [grown], empty) else (displaced, grown)

/-- What is left to hand back at the end. -/
def finish (pending : Batch κ) : List (Batch κ) :=
  if pending.entries.isEmpty then [] else [pending]

end Batch

end SearchFeed
