import SearchFeed.Config
import SearchFeed.Config.Error

/-! # Checking a configuration

A configuration is looked through in a fixed order. What is doubtful is told;
the first fault ends the review.
-/

namespace SearchFeed

/-- What a review finds. -/
inductive Remark where
  | fault (error : ConfigError)
  | doubt (event : Event)
deriving DecidableEq, Repr

namespace Config

/-- The part of the program that speaks about doubtful settings. -/
def reviewTarget : String := "artifact_export_config::validation"

/-- What is told about a setting that is very large. -/
def largeRemark (setting consequence field : String) (value limit : Nat) : List Remark :=
  if limit < value then
    [.doubt
      { level := .warn, target := reviewTarget,
        message := setting ++ " is very large; " ++ consequence,
        fields := [Field.ofNat field value] }]
  else []

/-- A fault if a setting is zero. -/
def zeroRemark (setting : String) (value : Nat) : List Remark :=
  if value = 0 then [.fault (.notPositive setting)] else []

/-- What is found about the destination. -/
def destinationRemarks (index : IndexSettings) : List Remark :=
  (if Text.isBlankText index.stem then [.fault .emptyStem] else []) ++
    match index.baseUrl with
    | none => []
    | some text =>
      match Url.ofText? text with
      | none => [.fault (.during (.checkingBaseUrl text) .address)]
      | some url =>
        let scheme := String.ofList url.scheme
        if scheme = "http" ∨ scheme = "https" then [] else [.fault (.foreignScheme scheme)]

/-- What is found about the limits of batches. -/
def batchRemarks (batch : BatchSettings) : List Remark :=
  let rejected := "bulk requests may be rejected"
  zeroRemark "batch.max_docs" batch.maxDocs ++
    zeroRemark "batch.max_bytes" batch.maxBytes ++
    largeRemark "batch.max_docs" rejected "max_docs" batch.maxDocs 10000 ++
    largeRemark "batch.max_bytes" rejected "max_bytes" batch.maxBytes (100 * 1024 * 1024)

/-- What is found about further attempts. -/
def retryRemarks (retry : RetrySettings) : List Remark :=
  zeroRemark "retry.queue_capacity" retry.queueCapacity ++
    zeroRemark "retry.drain_interval_secs" retry.drainIntervalSecs ++
    zeroRemark "retry.drain_batch_size" retry.drainBatchSize ++
    largeRemark "retry.queue_capacity" "may cause memory issues" "queue_capacity"
      retry.queueCapacity 1000000

/-- What is found about an entry of a custom scope. -/
def entryRemarks (entry : ScopeEntry) : List Remark :=
  if entry.kind = .regex ∧ (Pattern.ofText? false entry.value).isNone then
    [.fault (.during (.checkingPattern entry.value) .pattern)]
  else []

/-- What is found about the scope. -/
def scopeRemarks (scope : ScopeSettings) : List Remark :=
  scope.custom.flatMap entryRemarks ++
    if scope.kind = .custom ∧ scope.custom = [] then
      [.doubt
        { level := .warn, target := reviewTarget, fields := [],
          message := "scope.kind is custom but no scope.custom entries are configured; " ++
            "nothing will be exported" }]
    else []

/-- All that is found about a configuration, in the order of the review. -/
def remarks (config : Config) : List Remark :=
  destinationRemarks config.index ++ batchRemarks config.batch ++
    zeroRemark "reporters.interval_secs" config.reporters.intervalSecs ++
    retryRemarks config.retry ++ scopeRemarks config.scope

/-- What is told in the course of a review, and the fault that ends it if there is one. -/
def review : List Remark → List Event × Option ConfigError
  | [] => ([], none)
  | .fault error :: _ => ([], some error)
  | .doubt event :: rest =>
    let (events, error) := review rest
    (event :: events, error)

end Config

end SearchFeed
