import SearchFeed.Batch
import SearchFeed.Cycle
import SearchFeed.Delivery

/-! # Going through fetched items

The reporters of keyed items and of recorded messages go through what they
fetched in the same way: an item that is in scope and wanted becomes a
document, documents are collected into batches, and a batch that is ready is
sent before the next item is looked at.
-/

namespace SearchFeed

/-- A cycle in the course of going through its items. -/
structure Progress (μ : Type) where
  session : Session
  /-- What the reporter remembers between cycles. -/
  memory : μ
  summary : CycleSummary

namespace Progress

variable {μ : Type}

/-- Counts what came of a request. -/
def count (progress : Progress μ) (delivery : Delivery) (queued : Nat) : Progress μ :=
  let summary := progress.summary
  { progress with
    summary := { summary with
      flushes := summary.flushes + 1
      succeeded := summary.succeeded + delivery.succeeded
      failed := summary.failed + delivery.failed.length
      queued := summary.queued + queued } }

end Progress

/-- How a reporter goes through its items. -/
structure Stream (α κ μ : Type) where
  url : α → String
  key : α → κ
  document : α → Document
  hostInScope : String → Bool
  /-- Whether an item in scope is sent, given what is remembered when its turn comes. -/
  wanted : α → μ → Bool
  /-- Sends a batch that is ready. -/
  flush : Batch κ → Progress μ → Progress μ

namespace Stream

variable {α κ μ : Type}

/-- Sends batches, oldest first. -/
def flushAll (stream : Stream α κ μ) (ready : List (Batch κ)) (progress : Progress μ) :
    Progress μ :=
  ready.foldl (fun progress batch => stream.flush batch progress) progress

/-- Takes an item in its turn. -/
def take (stream : Stream α κ μ) (limits : BatchLimits) (filter : ScopeFilter) (now : Instant)
    (item : α) (state : Batch κ × Progress μ) : Batch κ × Progress μ :=
  let (pending, progress) := state
  let url := stream.url item
  let admitted := filter.admits url (stream.hostInScope url)
  let told :=
    { progress with session := progress.session.tell now (filter.decisionEvent url admitted) }
  if !admitted || !stream.wanted item told.memory then (pending, told)
  else
    let counted :=
      { told with summary := { told.summary with candidates := told.summary.candidates + 1 } }
    let (ready, pending) := pending.push limits (stream.key item) (stream.document item)
    (pending, stream.flushAll ready counted)

/-- Goes through all items and sends what is left at the end. -/
def run (stream : Stream α κ μ) (limits : BatchLimits) (filter : ScopeFilter) (now : Instant)
    (items : List α) (progress : Progress μ) : Progress μ :=
  let (pending, progress) :=
    items.foldl (fun state item => stream.take limits filter now item state)
      (Batch.empty, progress)
  stream.flushAll pending.finish progress

/-- The cycle of a reporter that goes through fetched items. -/
def cycle (stream : String → Stream α κ μ) (setup : Setup) (world : World) (source : DataSource)
    (fetched : Except SourceError (List α)) (memory : μ) (session : Session) :
    CycleResult × μ × Session :=
  match session.switches.preflight source with
  | .error reason => (.ok (.skipped reason), memory, session)
  | .ok baseUrl =>
    let session := session.noteFetch source
    match fetched with
    | .error error => (.error error, memory, session)
    | .ok items =>
      let progress := (stream baseUrl).run setup.limits session.switches.filter world.now items
        ⟨session, memory, { fetched := items.length }⟩
      (.ok (.completed progress.summary), progress.memory, progress.session)

end Stream

end SearchFeed
