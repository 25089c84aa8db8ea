import SearchFeed.Proofs.Activities
import SearchFeed.Proofs.Footprint
import SearchFeed.Proofs.TwoRuns

/-! # Cycles and operations side by side

Reporters that meet alike sessions send alike documents, remember the same and
report the same. The relation between the two runs therefore survives every
cycle, and with it every operation.
-/

namespace SearchFeed

variable {named : String → String → Prop} {heard : Option Level}

section Going

/-- Cycles in the course of going through the same items in both runs. -/
structure Progress.Alike {μ : Type} (named : String → String → Prop) (heard : Option Level)
    (progress progress' : Progress μ) : Prop where
  session : Session.Alike named heard progress.session progress'.session
  memory : progress.memory = progress'.memory
  summary : progress.summary = progress'.summary

/-- Reporters that go through the same items in the same way, at any time and under either login. -/
structure Stream.Alike {α κ μ : Type} (named : String → String → Prop) (heard : Option Level)
    (stream stream' : Stream α κ μ) : Prop where
  url : stream.url = stream'.url
  key : stream.key = stream'.key
  hostInScope : stream.hostInScope = stream'.hostInScope
  wanted : stream.wanted = stream'.wanted
  document (item : α) : (stream.document item).masked = (stream'.document item).masked
  flush {batch batch' : Batch κ} {progress progress' : Progress μ} :
    batch.masked = batch'.masked → Progress.Alike named heard progress progress' →
      Progress.Alike named heard (stream.flush batch progress) (stream'.flush batch' progress')

namespace Stream.Alike

variable {α κ μ : Type} {stream stream' : Stream α κ μ}
  (hstream : Stream.Alike named heard stream stream')
include hstream

theorem flushAll {ready ready' : List (Batch κ)}
    (hready : ready.map Batch.masked = ready'.map Batch.masked) {progress progress' : Progress μ}
    (hprogress : Progress.Alike named heard progress progress') :
    Progress.Alike named heard (stream.flushAll ready progress)
      (stream'.flushAll ready' progress') := by
  induction ready generalizing ready' progress progress' with
  | nil =>
      obtain rfl := List.map_eq_nil_iff.mp hready.symm
      exact hprogress
  | cons batch rest ih =>
      obtain ⟨batch', rest', rfl, hbatch, hrest⟩ := List.map_eq_cons_iff.mp hready.symm
      exact ih hrest.symm (hstream.flush hbatch.symm hprogress)

variable (limits : BatchLimits) (filter : ScopeFilter) (now now' : Instant)

theorem decided (item : α) {progress progress' : Progress μ}
    (hprogress : Progress.Alike named heard progress progress') :
    Progress.Alike named heard (stream.decided filter now item progress)
      (stream'.decided filter now' item progress') := by
  have hadmits : stream.admits filter item = stream'.admits filter item := by
    rw [Stream.admits, Stream.admits, hstream.url, hstream.hostInScope]
  refine { hprogress with session := ?_ }
  rw [Stream.decided, Stream.decided, hadmits, hstream.url]
  exact hprogress.session.tell (.refl _) now now'

/-- An item in its turn has the same effect in both runs. -/
theorem take (item : α) {state state' : Batch κ × Progress μ}
    (hpending : state.1.masked = state'.1.masked)
    (hprogress : Progress.Alike named heard state.2 state'.2) :
    let taken := stream.take limits filter now item state
    let taken' := stream'.take limits filter now' item state'
    taken.1.masked = taken'.1.masked ∧ Progress.Alike named heard taken.2 taken'.2 := by
  obtain ⟨pending, progress⟩ := state
  obtain ⟨pending', progress'⟩ := state'
  have hchooses : stream.chooses filter item progress.memory =
      stream'.chooses filter item progress'.memory := by
    rw [Stream.chooses, Stream.chooses, Stream.admits, Stream.admits, hstream.url,
      hstream.hostInScope, hstream.wanted, hprogress.memory]
  have hdecided := hstream.decided filter now now' item hprogress
  have hpushed := pending.masked_push limits (stream.key item) (stream.document item)
  rw [hpending, hstream.document, hstream.key, pending'.masked_push] at hpushed
  obtain ⟨hready, hgrown⟩ := Prod.mk.inj hpushed
  simp only [take_eq, hchooses, hstream.key]
  split
  · have hsummary : progress.summary = progress'.summary := hprogress.summary
    refine ⟨hgrown.symm, hstream.flushAll hready.symm { hdecided with summary := ?_ }⟩
    simp only [Stream.counted, hsummary]
  · exact ⟨hpending, hdecided⟩

/-- Streams fed with the same items stay alike along the run. -/
theorem runFrom (items : List α) (state state' : Batch κ × Progress μ)
    (hpending : state.1.masked = state'.1.masked)
    (hprogress : Progress.Alike named heard state.2 state'.2) :
    Progress.Alike named heard (stream.runFrom limits filter now items state)
      (stream'.runFrom limits filter now' items state') := by
  induction items generalizing state state' with
  | nil =>
      refine hstream.flushAll ?_ hprogress
      rw [List.foldl_nil, List.foldl_nil, ← Batch.masked_finish, hpending, Batch.masked_finish]
  | cons item rest ih =>
      obtain ⟨htaken, hgone⟩ := hstream.take limits filter now now' item hpending hprogress
      rw [runFrom_cons, runFrom_cons]
      exact ih _ _ htaken hgone

end Stream.Alike

/-- A cycle over fetched items ends in the same way in both runs. -/
theorem Stream.alike_cycle {α κ μ : Type} {stream stream' : String → Stream α κ μ}
    (hstream : ∀ {baseUrl baseUrl'}, SameSite baseUrl baseUrl' →
      Stream.Alike named heard (stream baseUrl) (stream' baseUrl'))
    (setup : Setup) (world world' : World) (source : DataSource)
    (fetched : Except SourceError (List α)) (memory : μ) {one two : Session}
    (halike : Session.Alike named heard one two) :
    let cycle := Stream.cycle stream setup world source fetched memory one
    let cycle' := Stream.cycle stream' setup world' source fetched memory two
    cycle.1 = cycle'.1 ∧ cycle.2.1 = cycle'.2.1 ∧
      Session.Alike named heard cycle.2.2 cycle'.2.2 := by
  intro cycle cycle'
  -- Either both cycles are skipped for the same reason, or both read the source and go on.
  rcases halike.switches.preflight source with
    ⟨reason, hone, htwo⟩ | ⟨url, url', hsite, hone, htwo⟩
  · simp only [cycle, cycle', Stream.cycle, hone, htwo]
    exact ⟨trivial, trivial, halike⟩
  · have hnoted : Session.Alike named heard (one.noteFetch source) (two.noteFetch source) :=
      { halike with }
    cases fetched with
    | error error =>
        simp only [cycle, cycle', Stream.cycle, hone, htwo]
        exact ⟨trivial, trivial, hnoted⟩
    | ok items =>
        have hrun := (hstream hsite).runFrom setup.limits two.switches.filter world.now world'.now
          items (Batch.empty, Stream.opened source memory one items)
          (Batch.empty, Stream.opened source memory two items) rfl ⟨hnoted, rfl, rfl⟩
        simp only [cycle, cycle', Stream.cycle, hone, htwo, Session.noteFetch,
          halike.switches.filter]
        exact ⟨congrArg (Except.ok ∘ CycleOutcome.completed) hrun.summary, hrun.memory,
          hrun.session⟩

end Going

section Reporters

variable (setup : Setup) {world world' : World} (hworld : World.Alike named world world')
include hworld

/-- Keyed streams to one site, at two usual times, do the same to sessions that are alike. -/
theorem keyedStream_alike (α : Type) [KeyedArtifact α] (mode : RunMode)
    (hdated : ∀ {now now' : Instant}, now.IsUsual → now'.IsUsual → ∀ item : α,
      (Artifact.document now item).masked = (Artifact.document now' item).masked)
    {baseUrl baseUrl' : String} (hsite : SameSite baseUrl baseUrl') :
    Stream.Alike named heard (keyedStream α setup world mode baseUrl)
      (keyedStream α setup world' mode baseUrl') where
  url := rfl
  key := rfl
  hostInScope := congrArg (fun sources => sources.hostInScope (Artifact.source α)) hworld.sources
  wanted := rfl
  document := hdated hworld.usual hworld.usual'
  flush {batch batch' progress progress'} hbatch hprogress := by
    obtain ⟨hsucceeded, hfailed, hsent⟩ := hprogress.session.deliverBulk setup hworld
      (Artifact.source α) (Artifact.kind α) hsite (Batch.documents_alike hbatch)
    simp only [keyed_flush_sent, keyedTarget, Delivery.isComplete_alike hfailed,
      Batch.keys_alike hbatch, hprogress.memory]
    exact ⟨hsent, rfl, Progress.count_alike hprogress.summary hsucceeded hfailed 0⟩

/-- Streams of recorded messages to one site do the same to sessions that are alike. -/
theorem historyStream_alike {baseUrl baseUrl' : String} (hsite : SameSite baseUrl baseUrl') :
    Stream.Alike named heard (historyStream setup world baseUrl)
      (historyStream setup world' baseUrl') where
  url := rfl
  key := rfl
  hostInScope := congrArg (fun sources => sources.hostInScope .proxyHistory) hworld.sources
  wanted := rfl
  document := masked_trafficRecord hworld.usual hworld.usual'
  flush {batch batch' progress progress'} hbatch hprogress := by
    obtain ⟨hsucceeded, hfailed, hsent⟩ := hprogress.session.deliverBulk setup hworld
      .proxyHistory .traffic hsite (Batch.documents_alike hbatch)
    obtain ⟨hqueued, hkept⟩ := hsent.enqueueFailed (setup.naming.name .traffic) hfailed world.now
      world'.now
    have hcomplete := Delivery.isComplete_alike hfailed
    simp only [history_flush_sent]
    split
    next hdone =>
      rw [if_pos (hcomplete ▸ hdone)]
      exact ⟨hsent, rfl, Progress.count_alike hprogress.summary hsucceeded hfailed 0⟩
    next hpartial =>
      rw [if_neg (hcomplete ▸ hpartial)]
      refine ⟨hkept, rfl, ?_⟩
      exact (Progress.count_alike hprogress.summary hsucceeded hfailed _).trans
        (congrArg (fun queued => (progress'.count _ queued).summary) hqueued)

end Reporters

theorem AlikeReplies.ofSingle_eq {reply reply' : DocumentReply}
    (halike : AlikeReplies named reply reply') :
    CycleSummary.ofSingle reply = CycleSummary.ofSingle reply' := by
  cases halike with
  | ok value => rfl
  | error halike => rfl

section Refusals

variable {error error' : IndexError} (halike : IndexError.Alike named error error')
include halike

theorem alike_trafficEvent (id : Nat) :
    Event.Alike named (Session.trafficEvent id error) (Session.trafficEvent id error') :=
  .of_value halike.message .trace Session.trafficTarget "Traffic document queued for retry"
    [Field.ofNat "id" id] [] "error"

theorem alike_settingsEvent (index : String) :
    Event.Alike named (Session.settingsEvent index error) (Session.settingsEvent index error') :=
  .of_value halike.message .debug Session.settingsTarget "Settings push failed"
    [⟨"index", index⟩] [] "error"

end Refusals

section Answers

variable (setup : Setup) (exported : List (SettingsPart × String)) (lastPushed : Option Digest)

/-- What is remembered and told once the settings have been answered. -/
def answeredSettings (world : World) (answer : DocumentReply × Session) :
    CycleResult × Option Digest × Session :=
  let result := .ok (.completed (.ofSingle answer.1))
  match answer.1 with
  | .ok () => (result, some (settingsDigest exported), answer.2)
  | .error error =>
    (result, lastPushed,
      answer.2.tell world.now (Session.settingsEvent (setup.naming.name .settings) error))

theorem pushSettings_answered (world : World) (baseUrl projectId : String) (session : Session) :
    pushSettings setup world baseUrl projectId exported lastPushed session =
      answeredSettings setup exported lastPushed world
        (session.deliverSingle setup world ⟨.source .settings, baseUrl, .settings⟩
          (fun _ => "Settings index push failed")
          (settingsDocument world.now projectId exported)) := rfl

theorem alike_answeredSettings (world world' : World) {answer answer' : DocumentReply × Session}
    (hreply : AlikeReplies named answer.1 answer'.1)
    (hsent : Session.Alike named heard answer.2 answer'.2) :
    let answered := answeredSettings setup exported lastPushed world answer
    let answered' := answeredSettings setup exported lastPushed world' answer'
    answered.1 = answered'.1 ∧ answered.2.1 = answered'.2.1 ∧
      Session.Alike named heard answered.2.2 answered'.2.2 := by
  obtain ⟨reply, session⟩ := answer
  obtain ⟨reply', session'⟩ := answer'
  cases hreply with
  | ok value => exact ⟨rfl, rfl, hsent⟩
  | error herror =>
      exact ⟨rfl, rfl, hsent.tell (alike_settingsEvent herror _) world.now world'.now⟩

end Answers

namespace Session.Alike

variable (setup : Setup) {world world' : World} (hworld : World.Alike named world world')
  {one two : Session} (halike : Session.Alike named heard one two)
include hworld halike

omit hworld in
theorem decidedLive (record : TrafficRecord) (hostInScope : Bool) :
    Session.Alike named heard (one.decidedLive world record hostInScope)
      (two.decidedLive world' record hostInScope) := by
  simp only [Session.decidedLive, admitsLive, halike.switches.filter]
  exact halike.tell (.refl _) world.now world'.now

theorem sentLive (record : TrafficRecord) (hostInScope : Bool) {baseUrl baseUrl' : String}
    (hsite : SameSite baseUrl baseUrl') :
    let sent := one.sentLive setup world record hostInScope baseUrl
    let sent' := two.sentLive setup world' record hostInScope baseUrl'
    AlikeReplies named sent.1 sent'.1 ∧ Session.Alike named heard sent.2 sent'.2 :=
  deliverSingle setup hworld (halike.decidedLive record hostInScope) .traffic hsite
    (fun herror => herror.remembered)
    (.of_eq (masked_trafficRecord hworld.usual hworld.usual' record))

/-- A live message has the same effect in both runs. -/
theorem recordTraffic (record : TrafficRecord) (hostInScope : Bool) :
    let taken := one.recordTraffic setup world record hostInScope
    let taken' := two.recordTraffic setup world' record hostInScope
    taken.1 = taken'.1 ∧ Session.Alike named heard taken.2 taken'.2 := by
  rcases halike.switches.preflight .traffic with
    ⟨reason, hone, htwo⟩ | ⟨url, url', hsite, hone, htwo⟩
  · rw [recordTraffic_skipped hone, recordTraffic_skipped htwo]
    exact ⟨rfl, halike⟩
  have hadmits : one.admitsLive record hostInScope = two.admitsLive record hostInScope := by
    rw [admitsLive, admitsLive, halike.switches.filter]
  by_cases hadmitted : two.admitsLive record hostInScope
  · obtain ⟨hreply, hsent⟩ := halike.sentLive setup hworld record hostInScope hsite
    generalize hone' : (one.sentLive setup world record hostInScope url).1 = reply,
      htwo' : (two.sentLive setup world' record hostInScope url').1 = reply' at hreply
    cases hreply with
    | ok value =>
        rw [recordTraffic_taken hone (hadmits ▸ hadmitted) hone',
          recordTraffic_taken htwo hadmitted htwo']
        exact ⟨rfl, hsent⟩
    | error herror =>
        have htold := hsent.tell (alike_trafficEvent herror record.id) world.now world'.now
        have hdocuments : [Artifact.document world.now record].map Json.masked =
            [Artifact.document world'.now record].map Json.masked :=
          congrArg (fun document => [document])
            (masked_trafficRecord hworld.usual hworld.usual' record)
        obtain ⟨hkept, hqueued⟩ := htold.enqueueFailed (setup.naming.name .traffic) hdocuments
          world.now world'.now
        rw [recordTraffic_failed hone (hadmits ▸ hadmitted) hone',
          recordTraffic_failed htwo hadmitted htwo']
        dsimp only
        rw [hkept]
        exact ⟨rfl, hqueued⟩
  · rw [recordTraffic_outOfScope hone (hadmits ▸ hadmitted),
      recordTraffic_outOfScope htwo hadmitted]
    exact ⟨rfl, halike.decidedLive record hostInScope⟩

/-- Settings pushed to one site, from sessions that are alike, leave them alike. -/
theorem pushSettings {baseUrl baseUrl' : String} (hsite : SameSite baseUrl baseUrl')
    (projectId : String) (exported : List (SettingsPart × String)) (lastPushed : Option Digest) :
    let pushed := pushSettings setup world baseUrl projectId exported lastPushed one
    let pushed' := pushSettings setup world' baseUrl' projectId exported lastPushed two
    pushed.1 = pushed'.1 ∧ pushed.2.1 = pushed'.2.1 ∧
      Session.Alike named heard pushed.2.2 pushed'.2.2 := by
  intro pushed pushed'
  have hdocument := masked_settingsDocument hworld.usual hworld.usual' projectId exported
  obtain ⟨hreply, hsent⟩ := deliverSingle setup hworld halike .settings hsite
    (fun _ => alikeErrors_refl (some "Settings index push failed"))
    (.of_eq (show (Sender.source .settings).timeless _ = _ from hdocument))
  have hpushed : pushed = _ := pushSettings_answered ..
  have hpushed' : pushed' = _ := pushSettings_answered ..
  rw [hpushed, hpushed']
  exact alike_answeredSettings setup exported lastPushed world world' hreply hsent

/-- A cycle of the settings ends in the same way in both runs. -/
theorem settingsCycle (mode : RunMode) (lastPushed : Option Digest) :
    let cycle := settingsCycle setup world mode lastPushed one
    let cycle' := settingsCycle setup world' mode lastPushed two
    cycle.1 = cycle'.1 ∧ cycle.2.1 = cycle'.2.1 ∧
      Session.Alike named heard cycle.2.2 cycle'.2.2 := by
  intro cycle cycle'
  have hsources := hworld.sources
  rcases halike.switches.preflight .settings with
    ⟨reason, hone, htwo⟩ | ⟨url, url', hsite, hone, htwo⟩
  · simp only [cycle, cycle', SearchFeed.settingsCycle, hone, htwo]
    exact ⟨trivial, trivial, halike⟩
  · simp only [cycle, cycle', SearchFeed.settingsCycle, hone, htwo, halike.switches.exportedParts,
      hsources]
    split
    · exact ⟨rfl, rfl, halike⟩
    split
    · exact ⟨rfl, rfl, halike⟩
    split
    · exact ⟨rfl, rfl, halike⟩
    split
    · exact ⟨rfl, rfl, halike⟩
    next projectId _ => exact halike.pushSettings setup hworld hsite projectId _ lastPushed

/-- A reporter about the export itself has the same effect in both runs if its documents are
alike. -/
theorem selfCycle (reporter : SelfReporter)
    (hdocument : ∀ {baseUrl baseUrl'}, SameSite baseUrl baseUrl' →
      reporter.sender.AlikeDocuments named (reporter.document setup world.now baseUrl one)
        (reporter.document setup world'.now baseUrl' two)) :
    let cycle := reporter.cycle setup world one
    let cycle' := reporter.cycle setup world' two
    cycle.1 = cycle'.1 ∧ Session.Alike named heard cycle.2 cycle'.2 := by
  intro cycle cycle'
  rcases halike.switches.destination with ⟨reason, hone, htwo⟩ | ⟨url, url', hsite, hone, htwo⟩
  · simp only [cycle, cycle', SelfReporter.cycle, hone, htwo]
    exact ⟨trivial, halike⟩
  · obtain ⟨hreply, hsent⟩ := deliverSingle setup hworld halike .tool hsite
      (fun _ => alikeErrors_refl (some reporter.errorText)) (hdocument hsite)
    simp only [cycle, cycle', SelfReporter.cycle, hone, htwo, hreply.ofSingle_eq]
    generalize (one.deliverSingle setup world ⟨reporter.sender, url, .tool⟩
        (fun _ => reporter.errorText) (reporter.document setup world.now url one)).1 = reply,
      (two.deliverSingle setup world' ⟨reporter.sender, url', .tool⟩
        (fun _ => reporter.errorText) (reporter.document setup world'.now url' two)).1 = reply'
      at hreply
    cases hreply with
    | ok value => exact ⟨rfl, hsent⟩
    | error herror =>
        exact ⟨rfl, hsent.tell (.of_value herror.message .debug reporter.target
          reporter.failureText [] [] "error") world.now world'.now⟩

theorem statsCycle :
    let cycle := statsReporter.cycle setup world one
    let cycle' := statsReporter.cycle setup world' two
    cycle.1 = cycle'.1 ∧ Session.Alike named heard cycle.2 cycle'.2 :=
  halike.selfCycle setup hworld statsReporter fun _ =>
    statsDocument_alike setup world.now world'.now halike.counters halike.queue hworld.usual
      hworld.usual' halike.switches.running

theorem configCycle :
    let cycle := configReporter.cycle setup world one
    let cycle' := configReporter.cycle setup world' two
    cycle.1 = cycle'.1 ∧ Session.Alike named heard cycle.2 cycle'.2 :=
  halike.selfCycle setup hworld configReporter fun hsite =>
    configDocument_alike setup hworld.usual hworld.usual' hsite halike.switches.selected
      halike.switches.settingsParts halike.switches.scope

end Session.Alike

/-- Pipelines that remember the same, with alike sessions. -/
structure Pipeline.Alike (named : String → String → Prop) (heard : Option Level)
    (one two : Pipeline) : Prop where
  session : Session.Alike named heard one.session two.session
  memory : one.memory = two.memory

/-- Operations that are the same but for the login in an address. -/
inductive Operation.Alike : Operation → Operation → Prop
  | same {operation : Operation} (hkept : ∀ change, operation ≠ .switch change) :
      Alike operation operation
  | switch {change change' : Switches → Switches}
      (hchange : ∀ {switches switches' : Switches}, switches.Alike switches' →
        (change switches).Alike (change' switches')) :
      Alike (.switch change) (.switch change')

namespace Pipeline.Alike

variable (setup : Setup) {world world' : World} (hworld : World.Alike named world world')
  {one two : Pipeline} (halike : Pipeline.Alike named heard one two)
include hworld halike

/-- A cycle ends in the same way in both runs, and leaves alike pipelines. -/
theorem cycle (reporter : Reporter) (mode : RunMode) :
    let cycle := one.cycle setup world reporter mode
    let cycle' := two.cycle setup world' reporter mode
    cycle.1 = cycle'.1 ∧ Pipeline.Alike named heard cycle.2 cycle'.2 := by
  obtain ⟨session, memory⟩ := one
  obtain ⟨session', _⟩ := two
  obtain ⟨hsession, rfl⟩ := halike
  cases reporter with
  | settings =>
      obtain ⟨hresult, hsettings, hafter⟩ := hsession.settingsCycle setup hworld mode
        memory.settings
      exact ⟨hresult, hafter, congrArg (fun settings => { memory with settings }) hsettings⟩
  | sitemap =>
      obtain ⟨hresult, hsitemap, hafter⟩ := Stream.alike_cycle
        (keyedStream_alike setup hworld SitemapEntry mode masked_sitemapEntry) setup world world'
        .sitemap world.sources.sitemap memory.sitemap hsession
      simp only [Pipeline.cycle, sitemapCycle, ← hworld.sources]
      exact ⟨hresult, hafter, congrArg (fun sitemap => { memory with sitemap }) hsitemap⟩
  | findings =>
      obtain ⟨hresult, hfindings, hafter⟩ := Stream.alike_cycle
        (keyedStream_alike setup hworld Finding mode masked_finding) setup world world'
        .findings world.sources.findings memory.findings hsession
      simp only [Pipeline.cycle, findingsCycle, ← hworld.sources]
      exact ⟨hresult, hafter, congrArg (fun findings => { memory with findings }) hfindings⟩
  | proxyHistory =>
      obtain ⟨hresult, -, hafter⟩ := Stream.alike_cycle (historyStream_alike setup hworld) setup
        world world' .proxyHistory world.sources.proxyHistory () hsession
      simp only [Pipeline.cycle, historyCycle, ← hworld.sources]
      exact ⟨hresult, hafter, rfl⟩
  | toolStats =>
      obtain ⟨hresult, hafter⟩ := hsession.statsCycle setup hworld
      exact ⟨hresult, hafter, rfl⟩
  | configSnapshot =>
      obtain ⟨hresult, hafter⟩ := hsession.configCycle setup hworld
      exact ⟨hresult, hafter, rfl⟩

/-- A guarded cycle of any reporter leaves pipelines that are alike alike, and says the same of
both. -/
theorem guardedCycle (reporter : Reporter) (mode : RunMode) (guard : Guard) :
    let cycle := one.guardedCycle setup world reporter mode guard
    let cycle' := two.guardedCycle setup world' reporter mode guard
    cycle.1 = cycle'.1 ∧ Pipeline.Alike named heard cycle.2.2 cycle'.2.2 := by
  simp only [Pipeline.guardedCycle]
  cases guard.tryAcquire with
  | none => exact ⟨rfl, halike⟩
  | some held => exact halike.cycle setup hworld reporter mode

theorem loggedCycle (reporter : Reporter) (mode : RunMode) (guard : Guard) :
    let cycle := one.loggedCycle setup world reporter mode guard
    let cycle' := two.loggedCycle setup world' reporter mode guard
    cycle.1 = cycle'.1 ∧ Pipeline.Alike named heard cycle.2.2 cycle'.2.2 := by
  obtain ⟨hresult, hafter⟩ := halike.guardedCycle setup hworld reporter mode guard
  simp only [Pipeline.loggedCycle]
  split
  · exact ⟨hresult, hafter⟩
  · refine ⟨hresult, ?_, hafter.memory⟩
    rw [hresult]
    exact hafter.session.tell (.refl _) world.now world'.now

/-- Alike operations leave alike pipelines. -/
theorem perform {operation operation' : Operation} (hoperation : operation.Alike operation') :
    Pipeline.Alike named heard (one.perform setup world operation).2
      (two.perform setup world' operation').2 := by
  have hsession := halike.session
  cases hoperation with
  | switch hchange =>
      exact ⟨{ hsession with switches := hchange hsession.switches }, halike.memory⟩
  | same hkept =>
      cases operation with
      | cycle reporter mode guard => exact (halike.loggedCycle setup hworld reporter mode guard).2
      | record record hostInScope =>
          exact ⟨(hsession.recordTraffic setup hworld record hostInScope).2, halike.memory⟩
      | drain => exact ⟨hsession.drainOnce setup hworld, halike.memory⟩
      | forward => exact ⟨hsession.forwardOnce setup hworld, halike.memory⟩
      | switch change => exact absurd rfl (hkept change)
      | scope scope =>
          have hscoped : Session.Alike named heard
              (one.session.withSwitches fun switches => { switches with scope })
              (two.session.withSwitches fun switches => { switches with scope }) :=
            { hsession with switches := { hsession.switches with scope := rfl } }
          exact ⟨hscoped.tellAll _ world.now world'.now, halike.memory⟩

end Pipeline.Alike

end SearchFeed
