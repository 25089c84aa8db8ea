import SearchFeed.Event
import SearchFeed.Switches
import SearchFeed.World

/-! # Cycles

A reporter works in cycles. A cycle is skipped, completed or, when a source
cannot be read, aborted.
-/

namespace SearchFeed

/-- Which items a cycle sends. -/
inductive RunMode where
  /-- All current items. -/
  | pushAll
  /-- The items that have not been delivered yet. -/
  | incremental
deriving DecidableEq, Repr

/-- The mode as it shows in diagnostics. -/
def RunMode.label : RunMode → String
  | .pushAll => "PushAll"
  | .incremental => "Incremental"

/-- What a cycle did. -/
structure CycleSummary where
  fetched : Nat := 0
  candidates : Nat := 0
  flushes : Nat := 0
  succeeded : Nat := 0
  failed : Nat := 0
  /-- How many of the failed documents are kept for another attempt. -/
  queued : Nat := 0
deriving DecidableEq, Repr, Inhabited

namespace CycleSummary

/-- The summary of a cycle that sends a single document. -/
def ofSingle (reply : DocumentReply) : CycleSummary :=
  match reply with
  | .ok () => { fetched := 1, candidates := 1, flushes := 1, succeeded := 1 }
  | .error _ => { fetched := 1, candidates := 1, flushes := 1, failed := 1 }

end CycleSummary

/-- How a cycle ended that was not aborted. -/
inductive CycleOutcome where
  | skipped (reason : SkipReason)
  | completed (summary : CycleSummary)
deriving DecidableEq, Repr

/-- How a cycle ended. -/
abbrev CycleResult := Except SourceError CycleOutcome

/-- The parts of an export that work in cycles. -/
inductive Reporter where
  | settings
  | sitemap
  | findings
  | proxyHistory
  | toolStats
  | configSnapshot
deriving DecidableEq, Repr

namespace Reporter

/-- All reporters, in the order in which an export that starts sets them going, the snapshot of its
settings aside. -/
def all : List Reporter :=
  [.settings, .sitemap, .findings, .proxyHistory, .toolStats, .configSnapshot]

/-- The name of a reporter. -/
def name : Reporter → String
  | .settings => "settings"
  | .sitemap => "sitemap"
  | .findings => "findings"
  | .proxyHistory => "proxy_history"
  | .toolStats => "tool_stats"
  | .configSnapshot => "config_snapshot"

/-- Whether the documents of a reporter go where log documents go; nothing is told about its
cycles, or telling would feed itself. -/
def writesToolIndex : Reporter → Bool
  | .toolStats => true
  | .configSnapshot => true
  | _ => false

/-- The part of the program that speaks about cycles. -/
def target : String := "artifact_export_core::reporter"

/-- What is told about a cycle. -/
def cycleEvent (reporter : Reporter) (mode : RunMode) (result : CycleResult) : Event :=
  let event := fun (level : Level) (message : String) (fields : List Field) =>
    { level, target, message,
      fields := ⟨"reporter", reporter.name⟩ :: ⟨"mode", mode.label⟩ :: fields : Event }
  match result with
  | .error error => event .warn "Cycle aborted" [⟨"error", error.message⟩]
  | .ok (.skipped reason) => event .debug "Cycle skipped" [⟨"reason", reason.label⟩]
  | .ok (.completed summary) =>
    let candidates := Field.ofNat "candidates" summary.candidates
    let succeeded := Field.ofNat "succeeded" summary.succeeded
    if 0 < summary.failed then
      event .warn "Cycle completed with failures"
        [candidates, succeeded, Field.ofNat "failed" summary.failed,
          Field.ofNat "queued" summary.queued]
    else if 0 < summary.candidates then
      event .info "Cycle completed"
        [candidates, Field.ofNat "flushes" summary.flushes, succeeded]
    else event .debug "Cycle completed; nothing new" []

end Reporter

end SearchFeed
