import SearchFeed.Proofs.CycleEnd
import SearchFeed.Proofs.LiveMessage
import SearchFeed.Proofs.Retrying

/-! # What an operation leaves behind

The switches are asked before anything else, so an operation that they prevent
does not look at the sources at all. A cycle that is skipped or aborted leaves
everything but the buffered log documents and the list of what was read as it
was. Whatever is sent goes to the address that was set when the operation
began, and to the index of the part that sends it.
-/

namespace SearchFeed

namespace Switches

variable {switches : Switches} {source? : Option DataSource}

/-- The switches keep an operation, which may be bound to a source, from being done. -/
def Prevents (switches : Switches) (source? : Option DataSource) : Prop :=
  switches.running = false ∨ switches.baseUrl = none ∨
    (∃ url, switches.baseUrl = some url ∧ Text.isBlankText url = true) ∨
    ∃ source, source? = some source ∧ switches.isSelected source = false

/-- A destination is only ever named by a running export with a base URL that is not blank. -/
theorem destination_eq_ok {url : String} (hready : switches.destination = .ok url) :
    switches.running = true ∧ switches.baseUrl = some url ∧ Text.isBlankText url = false := by
  unfold destination at hready
  split at hready
  · cases hready
  next hrunning =>
    split at hready
    next other husable =>
      cases hready
      obtain ⟨hset, hwritten⟩ := Option.filter_eq_some_iff.mp husable
      exact ⟨by simpa using hrunning, hset, by simpa using hwritten⟩
    · cases hready

/-- Admission is the destination gate together with the selection of the operation's own source. -/
theorem admission_eq_ok {url : String} (hready : switches.admission source? = .ok url) :
    switches.destination = .ok url ∧
      ∀ source, source? = some source → switches.isSelected source = true := by
  cases source? with
  | none => exact ⟨hready, nofun⟩
  | some source =>
      simp only [admission, preflight] at hready
      split at hready
      · cases hready
      next other hdestination =>
        split at hready
        next hselected =>
          cases hready
          refine ⟨hdestination, ?_⟩
          intro other hother
          cases hother
          exact hselected
        · cases hready

/-- Where the switches prevent an operation, there is a reason to skip it. -/
theorem Prevents.admission_eq (hprevents : switches.Prevents source?) :
    ∃ reason, switches.admission source? = .error reason := by
  cases hready : switches.admission source? with
  | error reason => exact ⟨reason, rfl⟩
  | ok url =>
      exfalso
      obtain ⟨hdestination, hselected⟩ := admission_eq_ok hready
      obtain ⟨hrunning, hset, hwritten⟩ := destination_eq_ok hdestination
      rcases hprevents with hstopped | hunset | ⟨other, hother, hblank⟩ | ⟨source, hsource, hout⟩
      · rw [hrunning] at hstopped
        cases hstopped
      · rw [hset] at hunset
        cases hunset
      · rw [hset] at hother
        cases hother
        rw [hwritten] at hblank
        cases hblank
      · rw [hselected source hsource] at hout
        cases hout

end Switches

namespace Operation

def source? : Operation → Option DataSource
  | .cycle reporter _ _ => reporter.source?
  | .record _ _ => some .traffic
  | _ => none

/-- A request is one that an operation makes in its own name: it goes to the index of the part that
makes it, and a drain pass sends the oldest documents of the queue that it takes them from. -/
def Makes (setup : Setup) (before : Session) (request : Request) : Operation → Prop
  | .cycle reporter _ _ =>
    request.sender = reporter.sender ∧ request.index = setup.naming.name reporter.kind
  | .record _ _ =>
    request.sender = .source .traffic ∧ request.index = setup.naming.name .traffic
  | .drain => request.sender = .retry ∧ request.index ∈ before.queue.pending ∧
    request.payload = .bulk ((before.queue.documents request.index).take setup.drainBatchSize)
  | .forward => request.sender = .forwarder ∧ request.index = setup.naming.name .tool
  | .switch _ => False
  | .scope _ => False

/-- Where an operation that has an index of its own sends to. -/
def target? (baseUrl : String) : Operation → Option Target
  | .cycle reporter _ _ => some (reporter.targetAt baseUrl)
  | .record _ _ => some ⟨.source .traffic, baseUrl, .traffic⟩
  | _ => none

/-- A request sent for the operation's target under its index name is one the operation makes. -/
theorem makes_of_target {operation : Operation} {baseUrl : String} {target : Target}
    (htarget : operation.target? baseUrl = some target) :
    target.baseUrl = baseUrl ∧ ∀ (setup : Setup) (before : Session) (request : Request),
      request.sender = target.sender → request.index = setup.naming.name target.kind →
        operation.Makes setup before request := by
  cases operation with
  | cycle reporter mode guard =>
      cases htarget
      exact ⟨rfl, fun _ _ _ hsender hindex => ⟨hsender, hindex⟩⟩
  | record record hostInScope =>
      cases htarget
      exact ⟨rfl, fun _ _ _ hsender hindex => ⟨hsender, hindex⟩⟩
  | drain => cases htarget
  | forward => cases htarget
  | switch change => cases htarget
  | scope scope => cases htarget

end Operation

namespace Session

variable (session : Session) (setup : Setup) (world : World)

/-- A live message leaves the session as it was but for telling, or it is one request. -/
theorem recordTraffic_stint (record : TrafficRecord) (hostInScope : Bool) :
    let after := (session.recordTraffic setup world record hostInScope).2
    (∃ logs, after = { session with logs }) ∨
      ∃ baseUrl exchange, session.switches.preflight .traffic = .ok baseUrl ∧
        Stint setup ⟨.source .traffic, baseUrl, .traffic⟩ session after [exchange] := by
  intro after
  cases hpreflight : session.switches.preflight .traffic with
  | error reason =>
      refine .inl ⟨session.logs, ?_⟩
      simp only [after, recordTraffic_skipped hpreflight]
  | ok baseUrl =>
      obtain ⟨logs, hdecided⟩ := session.tell_eq world.now
        (session.switches.filter.decisionEvent record.url (session.admitsLive record hostInScope))
      by_cases hadmitted : session.admitsLive record hostInScope
      · let target : Target := ⟨.source .traffic, baseUrl, .traffic⟩
        have htold : Stint setup target session
            (session.decidedLive world record hostInScope) [] :=
          (Stint.refl session).tell world.now _
        have hsent := htold.trans
          ((session.decidedLive world record hostInScope).deliverSingle_stint setup world target
            IndexError.message (Artifact.document world.now record))
        refine .inr ⟨baseUrl, session.liveExchange setup world record hostInScope baseUrl, rfl, ?_⟩
        cases hreply : (session.sentLive setup world record hostInScope baseUrl).1 with
        | ok _ =>
            simp only [after, recordTraffic_taken hpreflight hadmitted hreply]
            exact hsent
        | error error =>
            simp only [after, recordTraffic_failed hpreflight hadmitted hreply]
            exact (hsent.tell world.now _).enqueueFailed world.now _ _
      · refine .inl ⟨logs, ?_⟩
        simp only [after, recordTraffic_outOfScope hpreflight hadmitted]
        exact hdecided

/-- A change of scope touches the scope setting and the log, nothing else of the session. -/
theorem changeScope_eq (now : Instant) (scope : ScopeSettings) :
    ∃ logs, session.changeScope now scope =
      { session with switches := { session.switches with scope }, logs } := by
  obtain ⟨logs, hlogs⟩ := (session.withSwitches fun switches =>
    { switches with scope }).tellAll_eq now (ScopeFilter.settingsEvents scope)
  exact ⟨logs, hlogs⟩

/-- Forwarding takes log documents out of their buffer, and at most makes one request. -/
theorem forwardOnce_cases :
    let after := (session.forwardOnce setup world).2
    (∃ logs, after = { session with logs }) ∨
      ∃ baseUrl documents reply logs, session.switches.destination = .ok baseUrl ∧
        after = { session with
          logs
          ledger := session.ledger ++ [⟨⟨.forwarder, baseUrl, setup.naming.name .tool,
            .bulk documents⟩, .bulk reply⟩] } := by
  intro after
  simp only [after, forwardOnce]
  cases hready : session.switches.destination with
  | error reason => exact .inl ⟨_, rfl⟩
  | ok baseUrl =>
      dsimp only
      split
      · exact .inl ⟨_, rfl⟩
      · exact .inr ⟨baseUrl, _, _, _, rfl, rfl⟩

end Session

namespace Pipeline

variable (setup : Setup) (world : World) (pipeline : Pipeline)

section Guarding

variable (reporter : Reporter) (mode : RunMode) {guard : Guard}

/-- A held guard turns the cycle away and leaves the pipeline as it was. -/
theorem guardedCycle_held (hheld : guard.running = true) :
    pipeline.guardedCycle setup world reporter mode guard =
      (.ok (.skipped .inProgress), guard, pipeline) := by
  simp [guardedCycle, Guard.tryAcquire, hheld]

/-- Behind a free guard the cycle runs, and the guard is free again after it. -/
theorem guardedCycle_free (hfree : guard.running = false) :
    pipeline.guardedCycle setup world reporter mode guard =
      ((pipeline.cycle setup world reporter mode).1, ⟨false⟩,
        (pipeline.cycle setup world reporter mode).2) := by
  simp [guardedCycle, Guard.tryAcquire, hfree, Guard.release]

theorem loggedCycle_told (guard : Guard) :
    pipeline.loggedCycle setup world reporter mode guard =
      (let guarded := pipeline.guardedCycle setup world reporter mode guard
       (guarded.1, guarded.2.1, if reporter.writesToolIndex then guarded.2.2 else
        guarded.2.2.withSession
          (guarded.2.2.session.tell world.now (reporter.cycleEvent mode guarded.1)))) := by
  unfold loggedCycle
  cases reporter.writesToolIndex <;> rfl

/-- Telling about a cycle fills the buffer of log documents and does nothing else. -/
theorem loggedCycle_logs (guard : Guard) :
    let guarded := pipeline.guardedCycle setup world reporter mode guard
    ∃ logs, pipeline.loggedCycle setup world reporter mode guard =
      (guarded.1, guarded.2.1, guarded.2.2.withSession { guarded.2.2.session with logs }) := by
  intro guarded
  rw [loggedCycle_told]
  obtain ⟨logs, hlogs⟩ := guarded.2.2.session.tell_eq world.now
    (reporter.cycleEvent mode guarded.1)
  cases reporter.writesToolIndex with
  | true => exact ⟨guarded.2.2.session.logs, rfl⟩
  | false =>
      refine ⟨logs, ?_⟩
      rw [← hlogs]
      rfl

/-- A cycle under a guard that is held sends nothing, and under a free one what the cycle sends. -/
theorem loggedCycle_ledger (guard : Guard) :
    let ledger := (pipeline.loggedCycle setup world reporter mode guard).2.2.session.ledger
    ledger = pipeline.session.ledger ∨
      guard = {} ∧ ledger = (pipeline.cycle setup world reporter mode).2.session.ledger := by
  intro ledger
  obtain ⟨logs, hlogs⟩ := loggedCycle_logs setup world pipeline reporter mode guard
  obtain ⟨running⟩ := guard
  cases running with
  | true =>
      rw [guardedCycle_held setup world pipeline reporter mode rfl] at hlogs
      exact .inl (congrArg (fun logged => logged.2.2.session.ledger) hlogs)
  | false =>
      rw [guardedCycle_free setup world pipeline reporter mode rfl] at hlogs
      exact .inr ⟨rfl, congrArg (fun logged => logged.2.2.session.ledger) hlogs⟩

/-- Whatever the cycle does, the guard comes back as it was handed in. -/
theorem loggedCycle_guard (guard : Guard) :
    (pipeline.loggedCycle setup world reporter mode guard).2.1 = guard := by
  obtain ⟨running⟩ := guard
  rw [loggedCycle_told]
  cases running with
  | true => rw [guardedCycle_held setup world pipeline reporter mode rfl]
  | false => rw [guardedCycle_free setup world pipeline reporter mode rfl]

/-- A cycle is skipped for being in progress exactly when its guard is held. -/
theorem loggedCycle_skipped_iff (guard : Guard) :
    (pipeline.loggedCycle setup world reporter mode guard).1 = .ok (.skipped .inProgress) ↔
      guard.running = true := by
  rw [loggedCycle_told]
  cases hguard : guard.running with
  | true => simp [guardedCycle_held setup world pipeline reporter mode hguard]
  | false =>
      rw [guardedCycle_free setup world pipeline reporter mode hguard]
      simp [pipeline.cycle_ne_inProgress setup world reporter mode]

end Guarding

/-- A cycle under a guard, held or free, leaves everything as it was but for what it has read, or it
goes through with its work. -/
theorem guardedCycle_ends (reporter : Reporter) (mode : RunMode) (guard : Guard) :
    let guarded := pipeline.guardedCycle setup world reporter mode guard
    ((∀ summary, guarded.1 ≠ .ok (.completed summary)) ∧
      ∃ fetches, guarded.2.2 = pipeline.withSession { pipeline.session with fetches }) ∨
    ∃ baseUrl, pipeline.session.switches.admission reporter.source? = .ok baseUrl ∧
      Completes setup (reporter.targetAt baseUrl) pipeline.session guarded.1
        guarded.2.2.session := by
  intro guarded
  cases hguard : guard.running with
  | true =>
      simp only [guarded, guardedCycle_held setup world pipeline reporter mode hguard]
      exact .inl ⟨nofun, pipeline.session.fetches, rfl⟩
  | false =>
      simp only [guarded, guardedCycle_free setup world pipeline reporter mode hguard]
      rcases pipeline.cycle_idle_or_completes setup world reporter mode with
        ⟨hidle, hmemory⟩ | hcompletes
      · obtain ⟨fetches, hsession⟩ := hidle.session
        refine .inl ⟨hidle.unfinished, fetches, ?_⟩
        rw [withSession, ← hsession, ← hmemory]
      · exact .inr hcompletes

theorem loggedCycle_ends (reporter : Reporter) (mode : RunMode) (guard : Guard) :
    let logged := pipeline.loggedCycle setup world reporter mode guard
    ((∀ summary, logged.1 ≠ .ok (.completed summary)) ∧
      ∃ logs fetches, logged.2.2 =
        pipeline.withSession { pipeline.session with logs, fetches }) ∨
    ∃ baseUrl, pipeline.session.switches.admission reporter.source? = .ok baseUrl ∧
      Completes setup (reporter.targetAt baseUrl) pipeline.session logged.1
        logged.2.2.session := by
  intro logged
  rcases guardedCycle_ends setup world pipeline reporter mode guard with
    ⟨hunfinished, fetches, hafter⟩ | ⟨baseUrl, hready, exchanges, summary, hresult, hstint, hcounts⟩
  · obtain ⟨logs, hlogs⟩ := loggedCycle_logs setup world pipeline reporter mode guard
    simp only [logged, hlogs, hafter]
    exact .inl ⟨hunfinished, logs, fetches, rfl⟩
  · refine .inr ⟨baseUrl, hready, exchanges, summary, ?_, ?_, hcounts⟩
    · simp only [logged, loggedCycle_told, hresult]
    · simp only [logged, loggedCycle_told]
      cases reporter.writesToolIndex with
      | true => exact hstint
      | false => exact hstint.tell world.now _

/-- A cycle that the switches prevent is skipped, and nothing is read or sent for it. -/
theorem guardedCycle_prevented (reporter : Reporter) (mode : RunMode) (guard : Guard)
    (hprevents : pipeline.session.switches.Prevents reporter.source?) :
    ∃ reason, ∀ world, pipeline.guardedCycle setup world reporter mode guard =
      (.ok (.skipped reason), guard, pipeline) := by
  cases hguard : guard.running with
  | true => exact ⟨.inProgress, fun world => guardedCycle_held setup world pipeline _ _ hguard⟩
  | false =>
      obtain ⟨reason, hblocked⟩ := hprevents.admission_eq
      refine ⟨reason, fun world => ?_⟩
      rw [guardedCycle_free setup world pipeline _ _ hguard, cycle_blocked _ _ _ _ _ hblocked]
      exact congrArg (_, ·, pipeline) (congrArg Guard.mk hguard.symm)

/-- What the switches prevent is not done: at most something is told about it or the switches are
changed, and what could be read from the sources plays no part. -/
theorem perform_prevented (operation : Operation)
    (hprevents : pipeline.session.switches.Prevents operation.source?) :
    (∃ logs switches, (pipeline.perform setup world operation).2 =
      pipeline.withSession { pipeline.session with logs, switches }) ∧
    ∀ sources, pipeline.perform setup { world with sources } operation =
      pipeline.perform setup world operation := by
  obtain ⟨reason, hblocked⟩ := hprevents.admission_eq
  cases operation with
  | cycle reporter mode guard =>
      obtain ⟨reason, hskipped⟩ :=
        guardedCycle_prevented setup pipeline reporter mode guard hprevents
      obtain ⟨logs, hlogs⟩ := loggedCycle_logs setup world pipeline reporter mode guard
      refine ⟨⟨logs, pipeline.session.switches, ?_⟩, ?_⟩
      · simp only [perform, hlogs, hskipped]
      · intro sources
        simp only [perform, loggedCycle_told, hskipped]
  | record record hostInScope =>
      change pipeline.session.switches.preflight .traffic = _ at hblocked
      have hskipped (world : World) :
          pipeline.session.recordTraffic setup world record hostInScope =
            (.skipped reason, pipeline.session) := Session.recordTraffic_skipped hblocked
      refine ⟨⟨pipeline.session.logs, pipeline.session.switches, ?_⟩, ?_⟩
      · simp only [perform, hskipped]
      · intro sources
        simp only [perform, hskipped]
  | drain =>
      change pipeline.session.switches.destination = _ at hblocked
      obtain ⟨logs, hlogs⟩ := pipeline.session.tell_eq world.now
        (Session.retrySkippedEvent reason pipeline.session.queue.totalSize)
      refine ⟨⟨logs, pipeline.session.switches, ?_⟩, ?_⟩
      · simp only [perform, Session.drainOnce, hblocked, hlogs]
      · intro sources
        simp only [perform, Session.drainOnce, hblocked]
  | forward =>
      change pipeline.session.switches.destination = _ at hblocked
      refine ⟨⟨pipeline.session.logs.clear.2, pipeline.session.switches, ?_⟩, ?_⟩
      · simp only [perform, Session.forwardOnce, hblocked]
      · intro sources
        simp only [perform, Session.forwardOnce, hblocked]
  | switch change =>
      exact ⟨⟨pipeline.session.logs, change pipeline.session.switches, rfl⟩, fun _ => rfl⟩
  | scope scope =>
      obtain ⟨logs, hlogs⟩ := pipeline.session.changeScope_eq world.now scope
      refine ⟨⟨logs, { pipeline.session.switches with scope }, ?_⟩, fun _ => rfl⟩
      simp only [perform, hlogs]

variable {setup world pipeline}

/-- All that an operation can do to a session: at most things that are not sent, work for one index
in the name of a reporter, a pass over the retry queue, or one batch of log documents. -/
theorem perform_cases (operation : Operation) (hqueue : pipeline.session.queue.Reachable) :
    let after := (pipeline.perform setup world operation).2.session
    (∃ switches logs fetches, after = { pipeline.session with switches, logs, fetches }) ∨
    ∃ baseUrl, pipeline.session.switches.destination = .ok baseUrl ∧
      ((∃ target exchanges, operation.target? baseUrl = some target ∧
        Session.Stint setup target pipeline.session after exchanges) ∨
      (operation = .drain ∧ ∃ exchanges, Session.Retries setup baseUrl
        pipeline.session.queue.pending pipeline.session after exchanges) ∨
      (operation = .forward ∧ ∃ documents reply logs, after = { pipeline.session with
        logs
        ledger := pipeline.session.ledger ++ [⟨⟨.forwarder, baseUrl, setup.naming.name .tool,
          .bulk documents⟩, .bulk reply⟩] })) := by
  intro after
  cases operation with
  | cycle reporter mode guard =>
      rcases loggedCycle_ends setup world pipeline reporter mode guard with
        ⟨-, logs, fetches, hafter⟩ | ⟨url, hready, exchanges, summary, -, hstint, -⟩
      · refine .inl ⟨pipeline.session.switches, logs, fetches, ?_⟩
        simp only [after, perform, hafter, withSession]
      · exact .inr ⟨url, (Switches.admission_eq_ok hready).1, .inl ⟨_, exchanges, rfl, hstint⟩⟩
  | record record hostInScope =>
      rcases pipeline.session.recordTraffic_stint setup world record hostInScope with
        ⟨logs, hafter⟩ | ⟨url, exchange, hready, hstint⟩
      · refine .inl ⟨pipeline.session.switches, logs, pipeline.session.fetches, ?_⟩
        simp only [after, perform, hafter, withSession]
      · have hadmitted : pipeline.session.switches.admission (some .traffic) = .ok url := hready
        exact .inr ⟨url, (Switches.admission_eq_ok hadmitted).1, .inl ⟨_, [exchange], rfl, hstint⟩⟩
  | drain =>
      cases hready : pipeline.session.switches.destination with
      | error reason =>
          obtain ⟨logs, hlogs⟩ := pipeline.session.tell_eq world.now
            (Session.retrySkippedEvent reason pipeline.session.queue.totalSize)
          refine .inl ⟨pipeline.session.switches, logs, pipeline.session.fetches, ?_⟩
          simp only [after, perform, withSession, Session.drainOnce, hready, hlogs]
      | ok url => exact .inr ⟨url, rfl, .inr (.inl ⟨rfl, Session.drainOnce_retries setup url
          pipeline.session world hready hqueue.sound.pending_nodup⟩)⟩
  | forward =>
      rcases pipeline.session.forwardOnce_cases setup world with
        ⟨logs, hafter⟩ | ⟨url, documents, reply, logs, hready, hafter⟩
      · refine .inl ⟨pipeline.session.switches, logs, pipeline.session.fetches, ?_⟩
        simp only [after, perform, hafter, withSession]
      · exact .inr ⟨url, hready, .inr (.inr ⟨rfl, documents, reply, logs, hafter⟩)⟩
  | switch change =>
      exact .inl ⟨change pipeline.session.switches, pipeline.session.logs,
        pipeline.session.fetches, rfl⟩
  | scope scope =>
      obtain ⟨logs, hlogs⟩ := pipeline.session.changeScope_eq world.now scope
      refine .inl ⟨{ pipeline.session.switches with scope }, logs, pipeline.session.fetches, ?_⟩
      simp only [after, perform, hlogs, withSession]

variable (setup world pipeline)

/-- What an operation sends goes to the address that was set when it began, in its own name and to
its own index. -/
structure Sends (operation : Operation) (exchanges : List Exchange) : Prop where
  ledger : (pipeline.perform setup world operation).2.session.ledger =
    pipeline.session.ledger ++ exchanges
  running : exchanges ≠ [] → pipeline.session.switches.running = true
  baseUrl : ∀ exchange ∈ exchanges,
    pipeline.session.switches.baseUrl = some exchange.request.baseUrl ∧
      Text.isBlankText exchange.request.baseUrl = false
  made : ∀ exchange ∈ exchanges, operation.Makes setup pipeline.session exchange.request

variable {setup world pipeline}

/-- What a ready session appended to its ledger are requests of the operation, to the destination
and made by it. -/
theorem Sends.of_ready {operation : Operation} {exchanges : List Exchange} {url : String}
    (hready : pipeline.session.switches.destination = .ok url)
    (hledger : (pipeline.perform setup world operation).2.session.ledger =
      pipeline.session.ledger ++ exchanges)
    (hbaseUrl : ∀ exchange ∈ exchanges, exchange.request.baseUrl = url)
    (hmade : ∀ exchange ∈ exchanges,
      operation.Makes setup pipeline.session exchange.request) :
    Sends setup world pipeline operation exchanges := by
  obtain ⟨hrunning, hset, hwritten⟩ := Switches.destination_eq_ok hready
  refine ⟨hledger, fun _ => hrunning, ?_, hmade⟩
  intro exchange hmem
  rw [hbaseUrl exchange hmem]
  exact ⟨hset, hwritten⟩

/-- An operation that sends anything changes the ledger. -/
theorem Sends.ledger_ne {operation : Operation} {exchanges : List Exchange} {exchange : Exchange}
    (hsends : Sends setup world pipeline operation exchanges) (hmem : exchange ∈ exchanges) :
    (pipeline.perform setup world operation).2.session.ledger ≠ pipeline.session.ledger := by
  intro hidle
  obtain rfl : exchanges = [] := List.append_right_eq_self.mp (hsends.ledger.symm.trans hidle)
  cases hmem

/-- What is sent in the name of a reporter is what a cycle of it sends that nobody holds back. -/
theorem Sends.eq_cycle {operation : Operation} {exchanges : List Exchange} {exchange : Exchange}
    (hsends : Sends setup world pipeline operation exchanges) (hmem : exchange ∈ exchanges)
    (reporter : Reporter) (hsender : exchange.request.sender = reporter.sender) :
    ∃ mode, operation = .cycle reporter mode {} ∧
      (pipeline.cycle setup world reporter mode).2.session.ledger =
        pipeline.session.ledger ++ exchanges := by
  have hmade := hsends.made exchange hmem
  cases operation with
  | cycle other mode guard =>
      obtain rfl : other = reporter := Reporter.sender_injective (hmade.1.symm.trans hsender)
      rcases loggedCycle_ledger setup world pipeline other mode guard with hidle | ⟨rfl, hcycled⟩
      · exact absurd hidle (hsends.ledger_ne hmem)
      · exact ⟨mode, rfl, hcycled.symm.trans hsends.ledger⟩
  | record record hostInScope => cases reporter <;> cases hmade.1.symm.trans hsender
  | drain => cases reporter <;> cases hmade.1.symm.trans hsender
  | forward => cases reporter <;> cases hmade.1.symm.trans hsender
  | switch change => cases hmade
  | scope scope => cases hmade

theorem perform_sends (operation : Operation) (hqueue : pipeline.session.queue.Reachable) :
    ∃ exchanges, Sends setup world pipeline operation exchanges := by
  rcases perform_cases operation hqueue with
    ⟨switches, logs, fetches, hafter⟩ | ⟨url, hready, ⟨target, exchanges, htarget, hstint⟩ |
      ⟨rfl, exchanges, hpass⟩ | ⟨rfl, documents, reply, logs, hafter⟩⟩
  · exact ⟨[], by rw [hafter, List.append_nil], fun hsent => absurd rfl hsent, by simp, by simp⟩
  · obtain ⟨hurl, hmakes⟩ := Operation.makes_of_target htarget
    refine ⟨exchanges, .of_ready hready hstint.ledger ?_ ?_⟩
    · intro exchange hmem
      rw [(hstint.requests exchange hmem).2.1, hurl]
    · intro exchange hmem
      obtain ⟨hsender, -, hindex⟩ := hstint.requests exchange hmem
      exact hmakes setup pipeline.session exchange.request hsender hindex
  · refine ⟨exchanges, .of_ready hready hpass.ledger ?_ ?_⟩
    · intro exchange hmem
      obtain ⟨index, -, hrequest⟩ := hpass.requests exchange hmem
      rw [hrequest]
    · intro exchange hmem
      obtain ⟨index, hpending, hrequest⟩ := hpass.requests exchange hmem
      rw [hrequest]
      exact ⟨rfl, hpending, rfl⟩
  · refine ⟨_, .of_ready hready (congrArg Session.ledger hafter) ?_ ?_⟩
    · simp
    · simp [Operation.Makes]

theorem perform_reachable (operation : Operation) (hqueue : pipeline.session.queue.Reachable) :
    (pipeline.perform setup world operation).2.session.queue.Reachable := by
  rcases perform_cases operation hqueue with
    ⟨switches, logs, fetches, hafter⟩ | ⟨url, -, ⟨target, exchanges, -, hstint⟩ |
      ⟨-, exchanges, hpass⟩ | ⟨-, documents, reply, logs, hafter⟩⟩
  · rw [hafter]
    exact hqueue
  · exact hstint.queue hqueue
  · exact hpass.queue hqueue
  · rw [hafter]
    exact hqueue

/-- Retry queues stay reachable along any list of operations. -/
theorem performAll_reachable (operations : List (World × Operation)) (start : Pipeline)
    (hqueue : start.session.queue.Reachable) :
    (start.performAll setup operations).session.queue.Reachable := by
  induction operations generalizing start with
  | nil => exact hqueue
  | cons first rest ih => exact ih _ (perform_reachable first.2 hqueue)

variable (setup) (world)

/-- Whatever has happened before, what the switches prevent is not done, a cycle that is not
completed has sent and changed nothing, a guard is held for no longer than a cycle, and what is
sent goes where its operation sends. -/
theorem skipped_work_has_no_effect (start : Pipeline) (operations : List (World × Operation))
    (hqueue : start.session.queue.Reachable) :
    let pipeline := start.performAll setup operations
    (∀ operation : Operation, pipeline.session.switches.Prevents operation.source? →
      (∃ logs switches, (pipeline.perform setup world operation).2 =
        pipeline.withSession { pipeline.session with logs, switches }) ∧
      ∀ sources, pipeline.perform setup { world with sources } operation =
        pipeline.perform setup world operation) ∧
    (∀ (reporter : Reporter) (mode : RunMode) (guard : Guard),
      let logged := pipeline.loggedCycle setup world reporter mode guard
      ((∀ summary, logged.1 ≠ .ok (.completed summary)) → ∃ logs fetches,
        logged.2.2 = pipeline.withSession { pipeline.session with logs, fetches }) ∧
      (logged.1 = .ok (.skipped .inProgress) ↔ guard.running = true) ∧
      logged.2.1 = guard) ∧
    ∀ operation : Operation, ∃ exchanges, Sends setup world pipeline operation exchanges := by
  intro pipeline
  refine ⟨fun operation => perform_prevented setup world pipeline operation, ?_, ?_⟩
  · intro reporter mode guard logged
    refine ⟨?_, loggedCycle_skipped_iff setup world pipeline reporter mode guard,
      loggedCycle_guard setup world pipeline reporter mode guard⟩
    intro hunfinished
    rcases loggedCycle_ends setup world pipeline reporter mode guard with
      ⟨-, hafter⟩ | ⟨-, -, -, summary, hcompleted, -⟩
    · exact hafter
    · exact absurd hcompleted (hunfinished summary)
  · intro operation
    exact perform_sends operation (performAll_reachable operations start hqueue)

/-- Site map entries that cannot be read, while a document waits for the index of traffic. -/
theorem skipped_work_has_no_effect_unreadable :
    let record : TrafficRecord :=
      ⟨1, "http://a.test/", "GET", "a.test", 80, false, "proxy", none, .null, .null, []⟩
    let gone : SourceError := ⟨.sitemap, "gone"⟩
    let setup : Setup := { naming := ⟨"a"⟩ }
    let world := World.rehearsed ⟨[.reject [0]], .succeed⟩ { sitemap := .error gone }
    let start : Pipeline := { session := Session.fresh (.ofCapacity 1) }
    let pipeline := start.performAll setup [(world, .record record true)]
    let logged := pipeline.loggedCycle setup world .sitemap .incremental {}
    pipeline.session.queue.documents "a-traffic" = [Artifact.document world.now record] ∧
      logged.1 = .error gone ∧
      ∃ logs fetches,
        logged.2.2 = pipeline.withSession { pipeline.session with logs, fetches } := by
  intro record gone setup world start pipeline logged
  have hcycles := (skipped_work_has_no_effect setup world start [(world, .record record true)]
    (.start 1)).2.1
  have haborted : logged.1 = .error gone := by
    dsimp only [record, gone, setup, world, start, pipeline, logged]
    rfl
  refine ⟨?_, haborted, (hcycles .sitemap .incremental {}).1 ?_⟩
  · dsimp only [record, gone, setup, world, start, pipeline]
    rfl
  · exact fun summary hcompleted => nomatch haborted.symm.trans hcompleted

end Pipeline

end SearchFeed
