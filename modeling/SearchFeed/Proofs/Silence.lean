import SearchFeed.Proofs.Footprint

/-! # Work that nothing is heard of

Log documents go to the tool index, so nothing that is told about sending there
may become a log document. The reporters about the export itself, a drain pass
and the forwarder speak under silent targets only, whatever comes of their
requests and whatever level is listened to. Such work never makes the buffer
grow, and only forwarding takes anything out of it.
-/

namespace SearchFeed

namespace Session

variable (session : Session) (setup : Setup) (world : World)

section Telling

variable {session} {now : Instant} {event : Event}

variable (session now event) in
/-- What is told under a silent target is not taken in at any level. -/
theorem tell_silent (hsilent : Event.isSilent event.target = true) :
    session.tell now event = session := by
  unfold tell
  split
  · rfl
  next least _ =>
    have hkept : ¬event.isForwarded least = true := by simp [Event.isForwarded, hsilent]
    rw [LogBuffer.record, if_neg hkept]

/-- Events of excluded targets leave no trace in a session. -/
theorem tellAll_silent {events : List Event}
    (hsilent : ∀ event ∈ events, Event.isSilent event.target = true) :
    session.tellAll now events = session := by
  induction events with
  | nil => rfl
  | cons event rest ih =>
      obtain ⟨hfirst, hrest⟩ := List.forall_mem_cons.mp hsilent
      rw [tellAll_cons, session.tell_silent now event hfirst, ih hrest]

end Telling

theorem isSilent_retryTarget : Event.isSilent retryTarget = true := by decide

/-- The target of the retry queue begins like the one of the part that owns it. -/
theorem isSilent_queueTarget : Event.isSilent queueTarget = true := by decide

theorem deliverSingle_logs (target : Target) (errorText : IndexError → String)
    (document : Document) :
    (session.deliverSingle setup world target errorText document).2.logs = session.logs := by
  simp only [deliverSingle]
  split <;> rfl

theorem enqueueFailed_logs (now : Instant) (index : String) (documents : List Document) :
    (session.enqueueFailed now index documents).2.logs = session.logs := by
  simp only [enqueueFailed]
  split
  · rw [tellAll_silent]
    simp only [List.forall_mem_cons, List.not_mem_nil, false_imp_iff, implies_true, and_true]
    exact ⟨isSilent_queueTarget, isSilent_retryTarget⟩
  · rfl

theorem heardBack_logs (index : String) (documents : List Document) (reply : BulkReply) :
    (session.heardBack setup world index documents reply).logs = session.logs := by
  unfold heardBack
  cases reply with
  | ok outcome =>
      obtain ⟨stats, hstats⟩ := session.creditDelivered_eq index setup.naming
        (documents.length - (BulkReply.refused documents (.ok outcome)).length)
      dsimp only
      rw [hstats]
  | error error =>
      exact congrArg Session.logs
        (session.tell_silent world.now (retryFailedEvent index error) isSilent_retryTarget)

theorem settleRetry_logs (index : String) (documents : List Document) (reply : BulkReply)
    (summary : DrainSummary) :
    (session.settleRetry setup world index documents reply summary).2.logs = session.logs := by
  rw [settleRetry_eq]
  dsimp only
  split
  · exact session.heardBack_logs setup world index documents reply
  · rw [enqueueFailed_logs]
    exact session.heardBack_logs setup world index documents reply

theorem drainIndex_logs (baseUrl index : String) (summary : DrainSummary) :
    (session.drainIndex setup world baseUrl index summary).2.logs = session.logs := by
  unfold drainIndex
  dsimp only
  split
  · rfl
  · rw [settleRetry_logs]
    rfl

/-- No drain writes to the log buffer. -/
theorem foldl_drainIndex_logs (baseUrl : String) (indexes : List String)
    (before : DrainSummary × Session) :
    (indexes.foldl (fun (summary, session) index =>
      session.drainIndex setup world baseUrl index summary) before).2.logs = before.2.logs := by
  induction indexes generalizing before with
  | nil => rfl
  | cons index rest ih =>
      exact (ih _).trans (before.2.drainIndex_logs setup world baseUrl index before.1)

/-- A drain pass leaves the buffer as it was, whether it is skipped, gets everything in, or meets
errors and full queues. -/
theorem drainOnce_logs : (session.drainOnce setup world).2.logs = session.logs := by
  unfold drainOnce
  split
  next reason _ =>
    exact congrArg Session.logs (session.tell_silent world.now
      (retrySkippedEvent reason session.queue.totalSize) isSilent_retryTarget)
  next baseUrl _ =>
    have hpass := foldl_drainIndex_logs setup world baseUrl session.queue.pending ({}, session)
    dsimp only
    split
    · refine (congrArg Session.logs (tell_silent _ world.now (retryFinishedEvent _ _) ?_)).trans
        hpass
      exact isSilent_retryTarget
    · exact hpass

/-- What forwarding leaves in the buffer. -/
def unforwarded : LogBuffer :=
  match session.switches.destination with
  | .error _ => session.logs.clear.2
  | .ok _ => (session.logs.drain forwardBatch).2

theorem forwardOnce_logs :
    (session.forwardOnce setup world).2.logs = session.unforwarded := by
  cases hready : session.switches.destination with
  | error reason => simp only [forwardOnce, unforwarded, hready]
  | ok baseUrl =>
      simp only [forwardOnce, unforwarded, hready]
      split <;> rfl

end Session

theorem SelfReporter.cycle_logs {reporter : SelfReporter}
    (hsilent : Event.isSilent reporter.target = true) (setup : Setup) (world : World)
    (session : Session) : (reporter.cycle setup world session).2.logs = session.logs := by
  unfold SelfReporter.cycle
  split
  · rfl
  · dsimp only
    split
    · exact session.deliverSingle_logs setup world _ _ _
    · refine (congrArg Session.logs (Session.tell_silent _ _ _ ?_)).trans
        (session.deliverSingle_logs setup world _ _ _)
      exact hsilent

/-- The buffer without that many of its oldest documents. -/
def LogBuffer.shortened (buffer : LogBuffer) (count : Nat) : LogBuffer :=
  { buffer with entries := buffer.entries.drop count }

theorem LogBuffer.shortened_shortened (buffer : LogBuffer) (first second : Nat) :
    (buffer.shortened first).shortened second = buffer.shortened (first + second) := by
  simp only [shortened, List.drop_drop]

namespace Operation

/-- Whether all that an operation sends goes to the tool index or has been sent before. -/
def isOverhead : Operation → Bool
  | .cycle reporter _ _ => reporter.writesToolIndex
  | .drain => true
  | .forward => true
  | _ => false

/-- The buffer of log documents after an operation that nothing is heard of. -/
def logsLeft (session : Session) : Operation → LogBuffer
  | .forward => session.unforwarded
  | _ => session.logs

theorem logsLeft_eq (operation : Operation) (session : Session) :
    ∃ count, operation.logsLeft session = session.logs.shortened count := by
  cases operation with
  | forward =>
      rw [logsLeft, Session.unforwarded]
      split
      · refine ⟨session.logs.size, ?_⟩
        rw [LogBuffer.shortened, LogBuffer.size, List.drop_length]
        rfl
      · exact ⟨forwardBatch, rfl⟩
  | cycle reporter mode guard => exact ⟨0, rfl⟩
  | record record hostInScope => exact ⟨0, rfl⟩
  | drain => exact ⟨0, rfl⟩
  | switch change => exact ⟨0, rfl⟩
  | scope scope => exact ⟨0, rfl⟩

end Operation

namespace Pipeline

variable (setup : Setup) (world : World) (pipeline : Pipeline)

theorem loggedCycle_silent {reporter : Reporter} (hwrites : reporter.writesToolIndex = true)
    (mode : RunMode) (guard : Guard) :
    (pipeline.loggedCycle setup world reporter mode guard).2.2.session.logs =
      pipeline.session.logs := by
  rw [loggedCycle_told]
  simp only [hwrites, if_true]
  cases hguard : guard.running with
  | true => rw [guardedCycle_held setup world pipeline reporter mode hguard]
  | false =>
      rw [guardedCycle_free setup world pipeline reporter mode hguard]
      obtain ⟨session, memory⟩ := pipeline
      cases reporter with
      | toolStats => exact SelfReporter.cycle_logs (by decide) setup world session
      | configSnapshot => exact SelfReporter.cycle_logs (by decide) setup world session
      | settings => cases hwrites
      | sitemap => cases hwrites
      | findings => cases hwrites
      | proxyHistory => cases hwrites

/-- An overhead operation changes the log buffer only by what it forwards. -/
theorem perform_logs {operation : Operation} (hoverhead : operation.isOverhead = true) :
    (pipeline.perform setup world operation).2.session.logs =
      operation.logsLeft pipeline.session := by
  cases operation with
  | cycle reporter mode guard => exact loggedCycle_silent setup world pipeline hoverhead mode guard
  | drain => exact pipeline.session.drainOnce_logs setup world
  | forward => exact pipeline.session.forwardOnce_logs setup world
  | record record hostInScope => cases hoverhead
  | switch change => cases hoverhead
  | scope scope => cases hoverhead

variable {setup}

/-- A run of overhead takes out some of the oldest log documents, and that is all. -/
theorem performAll_logs {steps : List (World × Operation)}
    (hoverhead : ∀ step ∈ steps, step.2.isOverhead = true) (start : Pipeline) :
    ∃ count, (start.performAll setup steps).session.logs =
      start.session.logs.shortened count := by
  induction steps generalizing start with
  | nil => exact ⟨0, rfl⟩
  | cons step rest ih =>
      obtain ⟨hfirst, hrest⟩ := List.forall_mem_cons.mp hoverhead
      obtain ⟨first, hleft⟩ := step.2.logsLeft_eq start.session
      obtain ⟨more, hmore⟩ := ih hrest (start.perform setup step.1 step.2).2
      refine ⟨first + more, ?_⟩
      rw [← LogBuffer.shortened_shortened, ← hleft, ← perform_logs setup step.1 start hfirst]
      exact hmore

/-- In a run of reporters about the export, drain passes and forwarding, whatever is listened to and
whatever is replied, nothing ever enters the buffer of log documents: each operation but forwarding
leaves it alone, and after all of them it holds what was there at first but for the oldest. -/
theorem overhead_is_unheard (setup : Setup) (start : Pipeline) (steps : List (World × Operation))
    (hoverhead : ∀ step ∈ steps, step.2.isOverhead = true) :
    (∀ earlier world operation later, steps = earlier ++ (world, operation) :: later →
      let before := start.performAll setup earlier
      (before.perform setup world operation).2.session.logs =
        operation.logsLeft before.session) ∧
    ∃ count, (start.performAll setup steps).session.logs =
      start.session.logs.shortened count := by
  refine ⟨?_, performAll_logs hoverhead start⟩
  intro earlier world operation later hsteps before
  have hmem : (world, operation) ∈ steps := by
    rw [hsteps]
    exact List.mem_append_right earlier List.mem_cons_self
  exact perform_logs setup world before (hoverhead _ hmem)

/-- A cluster that cannot be reached, with everything listened to: a snapshot and a waiting document
are sent in vain, a second snapshot is held back, and the log document that waits is sent too. -/
theorem overhead_is_unheard_unreachable :
    let setup : Setup := { naming := ⟨"a"⟩ }
    let world := World.rehearsed ⟨[], .fail "down"⟩ {}
    let queue := ((RetryQueue.ofCapacity 1).offer "a-sitemap" .null).2
    let start : Pipeline := { session :=
      { Session.fresh queue with listening := some .trace, logs := LogBuffer.standard.push .null } }
    let steps := [(world, .cycle .toolStats .incremental {}), (world, .drain),
      (world, .cycle .configSnapshot .pushAll ⟨true⟩), (world, .forward)]
    (start.performAll setup (steps.take 1)).session.ledger.length = 1 ∧
      (start.performAll setup (steps.take 3)).session.logs.entries = [.null] ∧
      ∃ count, (start.performAll setup steps).session.logs =
        start.session.logs.shortened count := by
  intro setup world queue start steps
  have hoverhead : ∀ step ∈ steps, step.2.isOverhead = true := by
    simp [steps, Operation.isOverhead, Reporter.writesToolIndex]
  obtain ⟨hsteps, hrun⟩ := overhead_is_unheard setup start steps hoverhead
  refine ⟨rfl, ?_, hrun⟩
  have hsnapshot := hsteps [] world _ _ rfl
  have hdrain := hsteps (steps.take 1) world _ _ rfl
  have hheld := hsteps (steps.take 2) world _ _ rfl
  exact congrArg LogBuffer.entries (hheld.trans (hdrain.trans hsnapshot))

end Pipeline

end SearchFeed
