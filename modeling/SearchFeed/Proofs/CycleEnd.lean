import SearchFeed.Proofs.Operation
import SearchFeed.Proofs.Stint

/-! # How a cycle ends

A cycle that is skipped or aborted has sent nothing and remembers what it
remembered before. Any other cycle goes through with its work for one index,
at the address that was set when it began, and its summary counts that work.
No cycle finds out about its own guard, so only a held guard makes one be
skipped as being under way.
-/

namespace SearchFeed

namespace Reporter

/-- The source that a reporter is bound to, if it is bound to one. -/
def source? : Reporter → Option DataSource
  | .settings => some .settings
  | .sitemap => some .sitemap
  | .findings => some .findings
  | .proxyHistory => some .proxyHistory
  | .toolStats => none
  | .configSnapshot => none

def sender : Reporter → Sender
  | .settings => .source .settings
  | .sitemap => .source .sitemap
  | .findings => .source .findings
  | .proxyHistory => .source .proxyHistory
  | .toolStats => .toolStats
  | .configSnapshot => .configSnapshot

/-- No two reporters send in one name. -/
theorem sender_injective : Function.Injective sender := by
  intro first second hsender
  cases first <;> cases second <;> first | rfl | cases hsender

/-- What the index of a reporter holds. -/
def kind : Reporter → IndexKind
  | .settings => .settings
  | .sitemap => .sitemap
  | .findings => .findings
  | .proxyHistory => .traffic
  | .toolStats => .tool
  | .configSnapshot => .tool

def targetAt (reporter : Reporter) (baseUrl : String) : Target :=
  ⟨reporter.sender, baseUrl, reporter.kind⟩

end Reporter

/-- The address to send to for an operation that may be bound to a source, or why it is skipped. -/
def Switches.admission (switches : Switches) : Option DataSource → Except SkipReason String
  | some source => switches.preflight source
  | none => switches.destination

/-- A cycle that sends nothing: it is skipped or aborted, and at most it has asked a source. -/
structure Idle (before : Session) (result : CycleResult) (after : Session) : Prop where
  unfinished (summary : CycleSummary) : result ≠ .ok (.completed summary)
  free : result ≠ .ok (.skipped .inProgress)
  session : ∃ fetches, after = { before with fetches }

/-- A cycle that goes through with its work, which its summary counts. -/
def Completes (setup : Setup) (target : Target) (before : Session) (result : CycleResult)
    (after : Session) : Prop :=
  ∃ exchanges summary, result = .ok (.completed summary) ∧
    Session.Stint setup target before after exchanges ∧
    summary.succeeded = (takenBy exchanges).length ∧ summary.failed = (missedBy exchanges).length

/-- The switches hold an export up for one of two reasons. -/
theorem Switches.destination_reason {switches : Switches} {reason : SkipReason}
    (hblocked : switches.destination = .error reason) :
    reason = .exportStopped ∨ reason = .noBaseUrl := by
  unfold Switches.destination at hblocked
  split at hblocked
  · cases hblocked
    exact .inl rfl
  · split at hblocked
    · cases hblocked
    · cases hblocked
      exact .inr rfl

/-- The switches hold a source up for one of three reasons. -/
theorem Switches.preflight_reason {switches : Switches} {source : DataSource}
    {reason : SkipReason} (hblocked : switches.preflight source = .error reason) :
    reason = .exportStopped ∨ reason = .noBaseUrl ∨ reason = .sourceNotSelected := by
  unfold Switches.preflight at hblocked
  split at hblocked
  next hdestination =>
    cases hblocked
    exact (destination_reason hdestination).imp id .inl
  · split at hblocked
    · cases hblocked
    · cases hblocked
      exact .inr (.inr rfl)

theorem Switches.destination_ne_inProgress {switches : Switches} {reason : SkipReason}
    (hblocked : switches.destination = .error reason) : reason ≠ .inProgress := by
  rcases destination_reason hblocked with rfl | rfl <;> exact nofun

theorem Switches.preflight_ne_inProgress {switches : Switches} {source : DataSource}
    {reason : SkipReason} (hblocked : switches.preflight source = .error reason) :
    reason ≠ .inProgress := by
  rcases preflight_reason hblocked with rfl | rfl | rfl <;> exact nofun

section Cycles

variable (setup : Setup) (world : World) (session : Session)

theorem idle_skipped {reason : SkipReason} (hreason : reason ≠ .inProgress) :
    Idle session (.ok (.skipped reason)) session where
  unfinished _ := nofun
  free hsame := hreason (by simpa using hsame)
  session := ⟨session.fetches, rfl⟩

theorem idle_aborted (error : SourceError) (fetches : List DataSource) :
    Idle session (.error error) { session with fetches } where
  unfinished _ := nofun
  free := nofun
  session := ⟨fetches, rfl⟩

theorem keyed_flush_reached (α : Type) [KeyedArtifact α] (mode : RunMode) (baseUrl : String)
    (batch : Batch PushKey) (progress : Progress DeliveredKeys)
    (hreached : Stream.Reached setup (keyedTarget α baseUrl) session progress) :
    Stream.Reached setup (keyedTarget α baseUrl) session
      ((keyedStream α setup world mode baseUrl).flush batch progress) :=
  hreached.count world batch.documents 0
    (progress.session.deliverBulk_stint setup world (keyedTarget α baseUrl) batch.documents)

/-- A keyed cycle has no effect, or it completes and reports what it did. -/
theorem keyedCycle_idle_or_completes (α : Type) [KeyedArtifact α] (mode : RunMode)
    (delivered : DeliveredKeys) :
    let cycle := keyedCycle α setup world mode delivered session
    (Idle session cycle.1 cycle.2.2 ∧ cycle.2.1 = delivered) ∨
      ∃ baseUrl, session.switches.preflight (Artifact.source α) = .ok baseUrl ∧
        Completes setup (keyedTarget α baseUrl) session cycle.1 cycle.2.2 := by
  intro cycle
  rcases Stream.cycle_cases (Artifact.source α) delivered session
      (keyedStream α setup world mode) setup world (KeyedArtifact.fetched world.sources) with
    ⟨reason, hblocked, hcycle⟩ | ⟨baseUrl, error, -, -, hcycle⟩ |
      ⟨baseUrl, items, hpreflight, -, hcycle⟩
  · have hidle := idle_skipped session (Switches.preflight_ne_inProgress hblocked)
    simp only [cycle, keyedCycle, hcycle]
    exact .inl ⟨hidle, trivial⟩
  · simp only [cycle, keyedCycle, hcycle]
    exact .inl ⟨idle_aborted session error _, trivial⟩
  · obtain ⟨exchanges, hstint, hcounts⟩ := (keyedStream α setup world mode baseUrl).runFrom_keeps
      setup.limits session.switches.filter world.now (fun _ event h => h.tell world.now event)
      (fun _ _ h => h) (fun batch progress h =>
        keyed_flush_reached setup world session α mode baseUrl batch progress h)
      items (Batch.empty, Stream.opened (Artifact.source α) delivered session items)
      (Stream.reached_opened setup (keyedTarget α baseUrl) (Artifact.source α) delivered session
        items)
    simp only [cycle, keyedCycle, hcycle]
    exact .inr ⟨baseUrl, hpreflight, exchanges, _, rfl, hstint, hcounts⟩

theorem history_flush_reached (baseUrl : String) (batch : Batch Unit) (progress : Progress Unit)
    (hreached : Stream.Reached setup (Reporter.proxyHistory.targetAt baseUrl) session progress) :
    Stream.Reached setup (Reporter.proxyHistory.targetAt baseUrl) session
      ((historyStream setup world baseUrl).flush batch progress) := by
  have hsent := progress.session.deliverBulk_stint setup world
    (Reporter.proxyHistory.targetAt baseUrl) batch.documents
  rw [history_flush_eq]
  split
  · exact hreached.count world batch.documents 0 hsent
  · exact hreached.count world batch.documents _ (hsent.enqueueFailed world.now _ _)

/-- A cycle of recorded messages has no effect, or it completes and reports what it did. -/
theorem historyCycle_idle_or_completes :
    let cycle := historyCycle setup world session
    Idle session cycle.1 cycle.2 ∨
      ∃ baseUrl, session.switches.preflight .proxyHistory = .ok baseUrl ∧
        Completes setup (Reporter.proxyHistory.targetAt baseUrl) session cycle.1 cycle.2 := by
  intro cycle
  rcases Stream.cycle_cases .proxyHistory () session (historyStream setup world) setup world
      world.sources.proxyHistory with
    ⟨reason, hblocked, hcycle⟩ | ⟨baseUrl, error, -, -, hcycle⟩ |
      ⟨baseUrl, items, hpreflight, -, hcycle⟩
  · have hidle := idle_skipped session (Switches.preflight_ne_inProgress hblocked)
    simp only [cycle, historyCycle, hcycle]
    exact .inl hidle
  · simp only [cycle, historyCycle, hcycle]
    exact .inl (idle_aborted session error _)
  · obtain ⟨exchanges, hstint, hcounts⟩ := (historyStream setup world baseUrl).runFrom_keeps
      setup.limits session.switches.filter world.now (fun _ event h => h.tell world.now event)
      (fun _ _ h => h) (history_flush_reached setup world session baseUrl)
      items (Batch.empty, Stream.opened .proxyHistory () session items)
      (Stream.reached_opened setup (Reporter.proxyHistory.targetAt baseUrl) .proxyHistory () session
        items)
    simp only [cycle, historyCycle, hcycle]
    exact .inr ⟨baseUrl, hpreflight, exchanges, _, rfl, hstint, hcounts⟩

/-- A document that is sent on its own makes up the work of a cycle. -/
theorem completes_single {target : Target} {document : Document}
    {after : Session} {reply : DocumentReply}
    (hreply : reply = session.singleReply setup world target document)
    (hafter : Session.Stint setup target session after
      [session.singleExchange setup world target document]) :
    Completes setup target session (.ok (.completed (.ofSingle reply))) after := by
  refine ⟨_, _, rfl, hafter, ?_, ?_⟩
  · rw [takenBy_singleton, Session.length_singleExchange_accepted, ← hreply]
    cases reply <;> rfl
  · rw [missedBy_singleton, Session.length_singleExchange_refused, ← hreply]
    cases reply <;> rfl

/-- Settings that are pushed make a cycle that completes, whatever is replied. -/
theorem pushSettings_completes (baseUrl projectId : String)
    (exported : List (SettingsPart × String)) (lastPushed : Option Digest) :
    let pushed := pushSettings setup world baseUrl projectId exported lastPushed session
    Completes setup (Reporter.settings.targetAt baseUrl) session pushed.1 pushed.2.2 := by
  intro pushed
  let document := settingsDocument world.now projectId exported
  have hsent := session.deliverSingle_stint setup world (Reporter.settings.targetAt baseUrl)
    (fun _ => "Settings index push failed") document
  have hreply := session.deliverSingle_fst setup world (Reporter.settings.targetAt baseUrl)
    (fun _ => "Settings index push failed") document
  simp only [pushed, pushSettings]
  split
  · exact completes_single setup world session hreply hsent
  · exact completes_single setup world session hreply (hsent.tell world.now _)

/-- A settings cycle has no effect, or it completes and reports what it did. -/
theorem settingsCycle_idle_or_completes (mode : RunMode) (lastPushed : Option Digest) :
    let cycle := settingsCycle setup world mode lastPushed session
    (Idle session cycle.1 cycle.2.2 ∧ cycle.2.1 = lastPushed) ∨
      ∃ baseUrl, session.switches.preflight .settings = .ok baseUrl ∧
        Completes setup (Reporter.settings.targetAt baseUrl) session cycle.1 cycle.2.2 := by
  intro cycle
  simp only [cycle, settingsCycle]
  cases hpreflight : session.switches.preflight .settings with
  | error reason =>
      exact .inl ⟨idle_skipped session (Switches.preflight_ne_inProgress hpreflight), rfl⟩
  | ok baseUrl =>
      dsimp only
      split
      · exact .inl ⟨idle_skipped session nofun, rfl⟩
      split
      next error _ => exact .inl ⟨idle_aborted session error session.fetches, rfl⟩
      next exported _ =>
        split
        · exact .inl ⟨idle_skipped session nofun, rfl⟩
        split
        next error _ => exact .inl ⟨idle_aborted session error session.fetches, rfl⟩
        next projectId _ =>
          exact .inr ⟨baseUrl, rfl,
            pushSettings_completes setup world session baseUrl projectId exported lastPushed⟩

/-- A report on the export has no effect, or it completes and reports what it did. -/
theorem selfCycle_idle_or_completes (reporter : SelfReporter) :
    let cycle := reporter.cycle setup world session
    Idle session cycle.1 cycle.2 ∨
      ∃ baseUrl, session.switches.destination = .ok baseUrl ∧
        Completes setup ⟨reporter.sender, baseUrl, .tool⟩ session cycle.1 cycle.2 := by
  intro cycle
  simp only [cycle, SelfReporter.cycle]
  cases hdestination : session.switches.destination with
  | error reason =>
      exact .inl (idle_skipped session (Switches.destination_ne_inProgress hdestination))
  | ok baseUrl =>
      let target : Target := ⟨reporter.sender, baseUrl, .tool⟩
      let document := reporter.document setup world.now baseUrl session
      have hsent := session.deliverSingle_stint setup world target (fun _ => reporter.errorText)
        document
      have hreply := session.deliverSingle_fst setup world target (fun _ => reporter.errorText)
        document
      refine .inr ⟨baseUrl, rfl, ?_⟩
      dsimp only
      split
      · exact completes_single setup world session hreply hsent
      · exact completes_single setup world session hreply (hsent.tell world.now _)

end Cycles

namespace Pipeline

variable (setup : Setup) (world : World) (pipeline : Pipeline) (reporter : Reporter)
  (mode : RunMode)

/-- A cycle of any reporter sends nothing and leaves what is remembered alone, or it goes through
with its work at the address that was set. -/
theorem cycle_idle_or_completes :
    let cycle := pipeline.cycle setup world reporter mode
    (Idle pipeline.session cycle.1 cycle.2.session ∧ cycle.2.memory = pipeline.memory) ∨
      ∃ baseUrl, pipeline.session.switches.admission reporter.source? = .ok baseUrl ∧
        Completes setup (reporter.targetAt baseUrl) pipeline.session cycle.1
          cycle.2.session := by
  intro cycle
  obtain ⟨session, memory⟩ := pipeline
  cases reporter with
  | settings =>
      rcases settingsCycle_idle_or_completes setup world session mode memory.settings with
        ⟨hidle, hsame⟩ | hcompletes
      · exact .inl ⟨hidle, congrArg (fun settings => { memory with settings }) hsame⟩
      · exact .inr hcompletes
  | sitemap =>
      rcases keyedCycle_idle_or_completes setup world session SitemapEntry mode memory.sitemap with
        ⟨hidle, hsame⟩ | hcompletes
      · exact .inl ⟨hidle, congrArg (fun sitemap => { memory with sitemap }) hsame⟩
      · exact .inr hcompletes
  | findings =>
      rcases keyedCycle_idle_or_completes setup world session Finding mode memory.findings with
        ⟨hidle, hsame⟩ | hcompletes
      · exact .inl ⟨hidle, congrArg (fun findings => { memory with findings }) hsame⟩
      · exact .inr hcompletes
  | proxyHistory =>
      exact (historyCycle_idle_or_completes setup world session).imp (⟨·, rfl⟩) id
  | toolStats =>
      exact (selfCycle_idle_or_completes setup world session statsReporter).imp (⟨·, rfl⟩) id
  | configSnapshot =>
      exact (selfCycle_idle_or_completes setup world session configReporter).imp (⟨·, rfl⟩) id

/-- No cycle that runs says that one is under way: only the guard says so. -/
theorem cycle_ne_inProgress :
    (pipeline.cycle setup world reporter mode).1 ≠ .ok (.skipped .inProgress) := by
  rcases pipeline.cycle_idle_or_completes setup world reporter mode with
    ⟨hidle, -⟩ | ⟨-, -, -, summary, hcompleted, -⟩
  · exact hidle.free
  · rw [hcompleted]
    simp

/-- A cycle that the switches do not admit is skipped without a look at the world. -/
theorem cycle_blocked {reason : SkipReason}
    (hblocked : pipeline.session.switches.admission reporter.source? = .error reason) :
    pipeline.cycle setup world reporter mode = (.ok (.skipped reason), pipeline) := by
  obtain ⟨session, memory⟩ := pipeline
  cases reporter with
  | settings =>
      change session.switches.preflight .settings = .error reason at hblocked
      simp only [cycle, settingsCycle, hblocked]
  | sitemap =>
      change session.switches.preflight .sitemap = .error reason at hblocked
      simp only [cycle, sitemapCycle, Stream.cycle, hblocked]
  | findings =>
      change session.switches.preflight .findings = .error reason at hblocked
      simp only [cycle, findingsCycle, Stream.cycle, hblocked]
  | proxyHistory =>
      change session.switches.preflight .proxyHistory = .error reason at hblocked
      simp only [cycle, historyCycle, Stream.cycle, hblocked]
  | toolStats =>
      change session.switches.destination = .error reason at hblocked
      simp only [cycle, SelfReporter.cycle, hblocked]
  | configSnapshot =>
      change session.switches.destination = .error reason at hblocked
      simp only [cycle, SelfReporter.cycle, hblocked]

end Pipeline

end SearchFeed
