import SearchFeed.Index
import SearchFeed.Instant
import SearchFeed.RetryQueue

/-! # Export statistics

For every index: how many documents were delivered and how many were not, how
long the last request took and what went wrong last. The sizes of the retry
queues are read when a snapshot is taken.
-/

namespace SearchFeed

/-- What is counted for one index. -/
structure Counters where
  success : UInt64
  failure : UInt64
  /-- The duration of the last request in milliseconds, if there was one. -/
  lastPush : Option Nat
  lastError : Option String
deriving DecidableEq, Repr, Inhabited

namespace Counters

/-- Nothing counted yet. -/
def zero : Counters := ⟨0, 0, none, none⟩

/-- The longest duration that is told. -/
def longestPush : Nat := (1 <<< 63) - 1

/-- How many characters of an error are kept. -/
def errorLength : Nat := 200

/-- A text cut after as many characters as are kept, with a sign that something is missing. -/
def shortened (message : String) : String :=
  if errorLength < message.toList.length then
    String.ofList (message.toList.take errorLength) ++ "..."
  else message

/-- The error to remember; an empty text means that there is none. -/
def remembered (message : String) : Option String :=
  if message.isEmpty then none else some (shortened message)

end Counters

/-- The statistics of an export since it was set up. -/
structure Stats where
  counters : PerKind Counters
  started : Instant
deriving Repr, Inhabited

namespace Stats

/-- Nothing counted yet. -/
def start (now : Instant) : Stats := ⟨.const .zero, now⟩

/-- The counters of a kind of index. -/
def get (stats : Stats) (kind : IndexKind) : Counters := stats.counters.get kind

/-- The statistics with the counters of one kind changed. -/
def modify (stats : Stats) (kind : IndexKind) (change : Counters → Counters) : Stats :=
  { stats with counters := stats.counters.modify kind change }

/-- Counts delivered documents. -/
def addSuccess (stats : Stats) (kind : IndexKind) (count : UInt64) : Stats :=
  stats.modify kind fun c => { c with success := c.success + count }

/-- Counts documents that were not delivered. -/
def addFailure (stats : Stats) (kind : IndexKind) (count : UInt64) : Stats :=
  stats.modify kind fun c => { c with failure := c.failure + count }

/-- Notes how long a request took. -/
def notePush (stats : Stats) (kind : IndexKind) (millis : Nat) : Stats :=
  stats.modify kind fun c => { c with lastPush := some (min millis Counters.longestPush) }

/-- Notes what went wrong; an empty text clears what was noted. -/
def noteError (stats : Stats) (kind : IndexKind) (message : String) : Stats :=
  stats.modify kind fun c => { c with lastError := Counters.remembered message }

/-- Forgets what went wrong. -/
def clearError (stats : Stats) (kind : IndexKind) : Stats :=
  stats.modify kind fun c => { c with lastError := none }

end Stats

/-- The statistics of one index at one moment. -/
structure IndexSnapshot where
  kind : IndexKind
  indexName : String
  counters : Counters
  queueSize : Nat
deriving Repr

/-- The statistics at one moment. -/
structure StatsSnapshot where
  indexes : List IndexSnapshot
  totalQueued : Nat
  uptime : Nat
deriving Repr

namespace StatsSnapshot

/-- How many documents were delivered to all indexes. -/
def totalSuccess (snapshot : StatsSnapshot) : UInt64 :=
  snapshot.indexes.foldl (fun total entry => total + entry.counters.success) 0

/-- How many documents were not delivered to any index. -/
def totalFailure (snapshot : StatsSnapshot) : UInt64 :=
  snapshot.indexes.foldl (fun total entry => total + entry.counters.failure) 0

/-- The statistics of one index as JSON; what is not known is left out. -/
def indexJson (entry : IndexSnapshot) : Json :=
  let duration := match entry.counters.lastPush with
    | some millis => [("last_push_duration_ms", Json.int millis)]
    | none => []
  let error := match entry.counters.lastError with
    | some message => [("last_error", Json.string message)]
    | none => []
  .object
    ([("kind", .string entry.kind.name),
      ("index_name", .string entry.indexName),
      ("success_count", .int entry.counters.success.toNat),
      ("failure_count", .int entry.counters.failure.toNat)] ++
    duration ++ error ++ [("queue_size", .int entry.queueSize)])

/-- The statistics as JSON. -/
def json (snapshot : StatsSnapshot) : Json := .object
  [("indexes", .array (snapshot.indexes.map indexJson)),
    ("total_success", .int snapshot.totalSuccess.toNat),
    ("total_failure", .int snapshot.totalFailure.toNat),
    ("total_queued", .int snapshot.totalQueued),
    ("uptime_ms", .int snapshot.uptime)]

end StatsSnapshot

namespace Stats

/-- How many documents wait for the index of a kind. -/
def queueSize (naming : IndexNaming) (queue : RetryQueue) (kind : IndexKind) : Nat :=
  queue.size (naming.name kind)

/-- What the statistics say at a moment. -/
def snapshot (stats : Stats) (naming : IndexNaming) (queue : RetryQueue) (now : Instant) :
    StatsSnapshot where
  indexes := IndexKind.all.map fun kind =>
    ⟨kind, naming.name kind, stats.get kind, queueSize naming queue kind⟩
  totalQueued := queue.totalSize
  uptime := stats.started.elapsedTo now

end Stats

end SearchFeed
