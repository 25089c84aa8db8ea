import SearchFeed.Proofs.Footprint
import SearchFeed.Proofs.KeyedRun
import SearchFeed.Proofs.StreamWork

/-! # The activities of an export

A cycle of the site map, one of the findings, one of the settings, and live
messages and cycles of recorded messages one after the other. Each is work in
steps that are confined to it, with the same effect on its lane whenever they
are taken. With nothing in between, the steps come to what the operation does.
-/

namespace SearchFeed

namespace Slot

def sitemap : Slot DeliveredKeys := ⟨Memory.sitemap, fun sitemap memory => { memory with sitemap }⟩

def findings : Slot DeliveredKeys :=
  ⟨Memory.findings, fun findings memory => { memory with findings }⟩

/-- Nothing is remembered. -/
def blank : Slot Unit := ⟨fun _ => (), fun _ memory => memory⟩

theorem sitemap_of : sitemap.Of .sitemap where
  get_put _ _ := rfl
  put_get _ := rfl
  put_put _ _ _ := rfl
  get_part hpart := (Memory.mk.inj hpart).1
  part_put _ _ := rfl
  part_other _ _ other hother := by cases other <;> first | rfl | exact absurd rfl hother

theorem findings_of : findings.Of .findings where
  get_put _ _ := rfl
  put_get _ := rfl
  put_put _ _ _ := rfl
  get_part hpart := (Memory.mk.inj hpart).2.1
  part_put _ _ := rfl
  part_other _ _ other hother := by cases other <;> first | rfl | exact absurd rfl hother

theorem blank_of : blank.Of .traffic where
  get_put _ _ := rfl
  put_get _ := rfl
  put_put _ _ _ := rfl
  get_part _ := rfl
  part_put _ hpart := hpart
  part_other _ _ _ _ := rfl

end Slot

namespace Pipeline

variable (setup : Setup) (world : World) (mode : RunMode) (pipeline : Pipeline)

theorem cycle_settings : pipeline.cycle setup world .settings mode =
    let cycle := settingsCycle setup world mode pipeline.memory.settings pipeline.session
    (cycle.1, ⟨cycle.2.2, { pipeline.memory with settings := cycle.2.1 }⟩) := rfl

/-- A cycle under a guard of its own is told about. -/
theorem perform_cycle_told {reporter : Reporter} (hshown : reporter.writesToolIndex = false) :
    (pipeline.perform setup world (.cycle reporter mode {})).2 =
      let cycle := pipeline.cycle setup world reporter mode
      cycle.2.told world.now (reporter.cycleEvent mode cycle.1) := by
  simp only [perform, loggedCycle_told, guardedCycle_free setup world pipeline reporter mode rfl,
    hshown]
  rfl

end Pipeline

section Steadiness

variable (setup : Setup) (world : World) (hlocal : world.cluster.IsLocal)

/-- A request for several documents is confined to the activity that sends to its index. -/
theorem confined_deliverBulk {activity : Activity} (target : Target)
    (hkind : target.kind = activity.kind) (documents : List Document) (pipeline : Pipeline)
    (memory : Memory)
    (hmemory : ∀ other, other ≠ activity → other.part memory = other.part pipeline.memory) :
    pipeline.Confined setup activity
      ⟨(pipeline.session.deliverBulk setup world target documents).2, memory⟩ :=
  .of_stint (pipeline.session.deliverBulk_stint setup world target documents) hkind
    (fun _ => pipeline.session.deliverBulk_queue setup world target documents) hmemory

/-- So is a live message. -/
theorem confined_recordTraffic (record : TrafficRecord) (hostInScope : Bool)
    (pipeline : Pipeline) :
    pipeline.Confined setup .traffic (pipeline.withSession
      (pipeline.session.recordTraffic setup world record hostInScope).2) := by
  rcases pipeline.session.recordTraffic_stint setup world record hostInScope with
    ⟨logs, hafter⟩ | ⟨baseUrl, exchange, -, hstint⟩
  · rw [hafter]
    exact .aside pipeline logs pipeline.session.fetches
  · exact .of_stint hstint rfl (absurd rfl) fun _ _ => rfl

/-- So is a cycle of the settings, which makes one request at most. -/
theorem confined_settingsCycle (mode : RunMode) (pipeline : Pipeline) :
    pipeline.Confined setup .settings (pipeline.cycle setup world .settings mode).2 := by
  have hmemory (settings : Option Digest) (other : Activity) (hother : other ≠ .settings) :
      other.part { pipeline.memory with settings } = other.part pipeline.memory := by
    cases other <;> first | rfl | exact absurd rfl hother
  obtain ⟨session, memory⟩ := pipeline
  simp only [Pipeline.cycle, settingsCycle]
  cases session.switches.preflight .settings with
  | error reason => exact .refl _
  | ok baseUrl =>
      dsimp only
      split
      · exact .refl _
      split
      · exact .refl _
      next exported _ =>
        split
        · exact .refl _
        split
        · exact .refl _
        next projectId _ =>
          have hsent := session.deliverSingle_stint setup world
            ⟨.source .settings, baseUrl, .settings⟩ (fun _ => "Settings index push failed")
            (settingsDocument world.now projectId exported)
          rw [Session.pushSettings_eq]
          dsimp only
          split
          · exact .of_stint hsent rfl (fun _ => session.deliverSingle_queue setup world _ _ _)
              (hmemory _)
          · refine .of_stint (hsent.tell world.now _) rfl (fun _ => ?_) (hmemory _)
            rw [Session.tell_queue, Session.deliverSingle_queue]

/-- Whether something failed does not depend on the clock values in the documents. -/
theorem Delivery.isComplete_alike {one two : Delivery}
    (hfailed : one.failed.map Json.masked = two.failed.map Json.masked) :
    one.isComplete = two.isComplete := by
  have hempty := congrArg List.isEmpty hfailed
  rwa [List.isEmpty_map, List.isEmpty_map] at hempty

/-- Deliveries of documents that are the same but for clock values count the same. -/
theorem Progress.count_alike {μ : Type} {one two : Progress μ} {delivery delivery' : Delivery}
    (hsummary : one.summary = two.summary) (hsucceeded : delivery.succeeded = delivery'.succeeded)
    (hfailed : delivery.failed.map Json.masked = delivery'.failed.map Json.masked) (queued : Nat) :
    (one.count delivery queued).summary = (two.count delivery' queued).summary := by
  have hlength := congrArg List.length hfailed
  rw [List.length_map, List.length_map] at hlength
  simp only [count, hsummary, hsucceeded, hlength]

/-- A flush of a keyed reporter is a delivery that is counted, with the keys marked if all got in.
-/
theorem keyed_flush_sent (α : Type) [KeyedArtifact α] (mode : RunMode) (baseUrl : String)
    (batch : Batch PushKey) (progress : Progress DeliveredKeys) :
    (keyedStream α setup world mode baseUrl).flush batch progress =
      let sent := progress.session.deliverBulk setup world (keyedTarget α baseUrl) batch.documents
      let memory :=
        if sent.1.isComplete then progress.memory.markAll batch.keys else progress.memory
      { progress with session := sent.2, memory }.count sent.1 0 := rfl

/-- A flush of recorded messages is a delivery that is counted, and what failed is offered to the
queue. -/
theorem history_flush_sent (baseUrl : String) (batch : Batch Unit) (progress : Progress Unit) :
    (historyStream setup world baseUrl).flush batch progress =
      let sent := progress.session.deliverBulk setup world
        (Reporter.proxyHistory.targetAt baseUrl) batch.documents
      let kept := sent.2.enqueueFailed world.now (setup.naming.name .traffic) sent.1.failed
      if sent.1.isComplete then { progress with session := sent.2 }.count sent.1 0
      else { progress with session := kept.2 }.count sent.1 kept.1 := rfl

include hlocal

/-- A keyed reporter does the same at any moment, but for the clock values that it writes. -/
theorem keyed_steady (α : Type) [KeyedArtifact α] (mode : RunMode) (baseUrl : String)
    {activity : Activity} {slot : Slot DeliveredKeys} (hslot : slot.Of activity)
    (hkind : Artifact.kind α = activity.kind)
    (hdated : ∀ {now now' : Instant}, now.IsUsual → now'.IsUsual → ∀ item : α,
      (Artifact.document now item).masked = (Artifact.document now' item).masked) :
    Stream.Steady setup activity slot
      (fun moment => keyedStream α setup (world.atMoment moment) mode baseUrl) where
  key _ _ := rfl
  chooses _ _ := rfl
  document item husual husual' := hdated husual husual' item
  confined moment batch summary pipeline := confined_deliverBulk setup (world.atMoment moment)
    (keyedTarget α baseUrl) hkind batch.documents pipeline _
    fun other hother => hslot.part_other _ _ other hother
  flush moment moment' batch batch' summary one two hbatch hlane := by
    intro flushed flushed'
    have hdocuments := Batch.documents_alike hbatch
    have hkeys := Batch.keys_alike hbatch
    have hsession : one.session.lane setup (keyedTarget α baseUrl).kind =
        two.session.lane setup (keyedTarget α baseUrl).kind := by
      rw [show (keyedTarget α baseUrl).kind = activity.kind from hkind]
      exact congrArg Prod.fst hlane
    have hmemory := hslot.get_part (congrArg Prod.snd hlane)
    obtain ⟨hsent, hsucceeded, hfailed⟩ := Session.deliverBulk_alike world moment moment'
      (keyedTarget α baseUrl) hlocal hsession hdocuments
    have hremembered : flushed.memory = flushed'.memory := by
      simp only [flushed, flushed', keyed_flush_sent, Progress.count, Slot.load, hkeys, hmemory,
        Delivery.isComplete_alike hfailed]
      rfl
    refine ⟨Progress.count_alike rfl hsucceeded hfailed 0, Prod.ext ?_ ?_⟩
    · rw [show (keyedTarget α baseUrl).kind = activity.kind from hkind] at hsent
      exact hsent
    · change activity.part (slot.put flushed.memory one.memory) =
        activity.part (slot.put flushed'.memory two.memory)
      rw [hremembered]
      exact hslot.part_put _ (congrArg Prod.snd hlane)

theorem history_steady (baseUrl : String) : Stream.Steady setup .traffic Slot.blank
    (fun moment => historyStream setup (world.atMoment moment) baseUrl) where
  key _ _ := by simp only [historyStream]
  chooses _ _ := by
    funext filter record _
    simp only [Stream.chooses, Stream.admits, historyStream, World.atMoment]
  document record husual husual' := masked_trafficRecord husual husual' record
  confined moment batch summary pipeline := by
    have hkind : (Reporter.proxyHistory.targetAt baseUrl).kind = Activity.traffic.kind := rfl
    have hsent := confined_deliverBulk setup (world.atMoment moment)
      (Reporter.proxyHistory.targetAt baseUrl) hkind batch.documents pipeline pipeline.memory
      fun _ _ => rfl
    rw [history_flush_sent]
    dsimp only
    split
    · exact hsent
    · exact hsent.enqueueFailed moment.now _ _
  flush moment moment' batch batch' summary one two hbatch hlane := by
    have hdocuments := Batch.documents_alike hbatch
    obtain ⟨hsent, hsucceeded, hfailed⟩ := Session.deliverBulk_alike world moment moment'
      (Reporter.proxyHistory.targetAt baseUrl) hlocal (congrArg Prod.fst hlane) hdocuments
    obtain ⟨hkept, hqueued⟩ := Session.enqueueFailed_alike moment.now moment'.now
      (setup.naming.name .traffic) hsent hfailed
    have hcomplete := Delivery.isComplete_alike hfailed
    simp only [history_flush_sent, Slot.load]
    split
    next hdone =>
      rw [if_pos (hcomplete ▸ hdone)]
      exact ⟨Progress.count_alike rfl hsucceeded hfailed 0, Prod.ext hsent rfl⟩
    next hpartial =>
      rw [if_neg (hcomplete ▸ hpartial)]
      refine ⟨?_, Prod.ext hkept rfl⟩
      simp only [World.atMoment] at hqueued ⊢
      rw [hqueued]
      exact Progress.count_alike rfl hsucceeded hfailed _

end Steadiness

namespace Work

variable (setup : Setup) (world : World)

def tell (reporter : Reporter) (mode : RunMode) (result : CycleResult) (next : Work) : Work :=
  .step (fun moment pipeline => pipeline.told moment.now (reporter.cycleEvent mode result))
    fun _ _ => next

def keyed (α : Type) [KeyedArtifact α] (slot : Slot DeliveredKeys) (reporter : Reporter)
    (mode : RunMode) : Work :=
  Stream.cycleWork (fun baseUrl moment => keyedStream α setup (world.atMoment moment) mode baseUrl)
    slot setup (Artifact.source α) (KeyedArtifact.fetched world.sources)
    fun result => tell reporter mode result .done

def settings (mode : RunMode) : Work :=
  .step
    (fun moment pipeline => (pipeline.cycle setup (world.atMoment moment) .settings mode).2)
    fun moment pipeline =>
      tell .settings mode (pipeline.cycle setup (world.atMoment moment) .settings mode).1 .done

def record (record : TrafficRecord) (hostInScope : Bool) (next : Work) : Work :=
  .step
    (fun moment pipeline => pipeline.withSession
      (pipeline.session.recordTraffic setup (world.atMoment moment) record hostInScope).2)
    fun _ _ => next

def history (mode : RunMode) (next : Work) : Work :=
  Stream.cycleWork (fun baseUrl moment => historyStream setup (world.atMoment moment) baseUrl)
    Slot.blank setup .proxyHistory world.sources.proxyHistory
    fun result => tell .proxyHistory mode result next

section Alike

variable {setup world} {activity : Activity}

/-- Telling about a cycle changes the logs only, so work that goes on alike is alike. -/
theorem alike_tell (reporter : Reporter) (mode : RunMode) (result : CycleResult)
    {next next' : Work} (hnext : Alike setup activity next next') :
    Alike setup activity (tell reporter mode result next) (tell reporter mode result next') := by
  refine .step ?_ ?_ ?_
  · exact fun moment pipeline => .told moment.now _ pipeline
  · intro moment moment' one two _ _ hlane
    rw [Pipeline.lane_told, Pipeline.lane_told, hlane]
  · exact fun _ _ _ _ _ _ _ => hnext

variable (hlocal : world.cluster.IsLocal)
include hlocal

/-- A cycle of a keyed reporter is work that is alike in all sessions with the same lane. -/
theorem alike_keyed (α : Type) [KeyedArtifact α] {slot : Slot DeliveredKeys}
    (hslot : slot.Of activity) (hkind : Artifact.kind α = activity.kind)
    (hdated : ∀ {now now' : Instant}, now.IsUsual → now'.IsUsual → ∀ item : α,
      (Artifact.document now item).masked = (Artifact.document now' item).masked)
    (reporter : Reporter) (mode : RunMode) :
    Alike setup activity (keyed setup world α slot reporter mode)
      (keyed setup world α slot reporter mode) := by
  apply Stream.alike_cycleWork _ hslot
  · exact fun result => alike_tell reporter mode result .done
  · exact fun baseUrl => keyed_steady setup world hlocal α mode baseUrl hslot hkind hdated

theorem alike_settings (mode : RunMode) :
    Alike setup .settings (settings setup world mode) (settings setup world mode) := by
  have hcycle {moment moment' : Moment} {one two : Pipeline} (husual : moment.now.IsUsual)
      (husual' : moment'.now.IsUsual)
      (hlane : one.lane setup .settings = two.lane setup .settings) :
      let cycle := one.cycle setup (world.atMoment moment) .settings mode
      let cycle' := two.cycle setup (world.atMoment moment') .settings mode
      cycle.1 = cycle'.1 ∧ cycle.2.lane setup .settings = cycle'.2.lane setup .settings := by
    intro cycle cycle'
    have hmemory : one.memory.settings = two.memory.settings :=
      congrArg (Memory.settings ∘ Prod.snd) hlane
    obtain ⟨hresult, hdigest, hsession⟩ := Session.settingsCycle_alike world moment moment' hlocal
      husual husual' mode two.memory.settings (congrArg Prod.fst hlane)
    simp only [cycle, cycle', Pipeline.cycle_settings, hmemory]
    exact ⟨hresult, Prod.ext hsession (congrArg (fun settings => { settings : Memory }) hdigest)⟩
  refine .step ?_ ?_ ?_
  · exact fun moment pipeline => confined_settingsCycle setup (world.atMoment moment) mode pipeline
  · exact fun _ _ _ _ husual husual' hlane => (hcycle husual husual' hlane).2
  · intro moment moment' one two husual husual' hlane
    rw [(hcycle husual husual' hlane).1]
    exact alike_tell .settings mode _ .done

theorem alike_record (message : TrafficRecord) (hostInScope : Bool) {next next' : Work}
    (hnext : Alike setup .traffic next next') :
    Alike setup .traffic (record setup world message hostInScope next)
      (record setup world message hostInScope next') := by
  refine .step ?_ ?_ ?_
  · exact fun moment pipeline =>
      confined_recordTraffic setup (world.atMoment moment) message hostInScope pipeline
  · intro moment moment' one two husual husual' hlane
    have hsession := Session.recordTraffic_alike world moment moment' hlocal husual husual' message
      hostInScope (congrArg Prod.fst hlane)
    exact Prod.ext hsession rfl
  · exact fun _ _ _ _ _ _ _ => hnext

theorem alike_history (mode : RunMode) {next next' : Work}
    (hnext : Alike setup .traffic next next') :
    Alike setup .traffic (history setup world mode next) (history setup world mode next') := by
  apply Stream.alike_cycleWork _ Slot.blank_of
  · exact fun result => alike_tell .proxyHistory mode result hnext
  · exact fun baseUrl => history_steady setup world hlocal baseUrl

end Alike

section Ending

variable {setup world} {moment : Moment} (husual : moment.now.IsUsual) (pipeline : Pipeline)
  (mode : RunMode)
include husual

theorem ends_tell (reporter : Reporter) (result : CycleResult) {next : Work} {finish : Pipeline}
    (hends : Ends next (pipeline.told moment.now (reporter.cycleEvent mode result)) finish) :
    Ends (tell reporter mode result next) pipeline finish := .step moment husual hends

/-- Done without interruption, the work of a keyed reporter comes to its cycle. -/
theorem ends_keyed (α : Type) [KeyedArtifact α] {activity : Activity}
    {slot : Slot DeliveredKeys} (hslot : slot.Of activity) {reporter : Reporter}
    (hshown : reporter.writesToolIndex = false)
    (hcycle : pipeline.cycle setup (world.atMoment moment) reporter mode =
      let cycle := keyedCycle α setup (world.atMoment moment) mode (slot.get pipeline.memory)
        pipeline.session
      (cycle.1, ⟨cycle.2.2, slot.put cycle.2.1 pipeline.memory⟩)) :
    Ends (keyed setup world α slot reporter mode) pipeline
      (pipeline.perform setup (world.atMoment moment) (.cycle reporter mode {})).2 := by
  rw [Pipeline.perform_cycle_told _ _ _ _ hshown, hcycle]
  exact Stream.ends_cycleWork hslot husual _ setup world (Artifact.source α)
    (KeyedArtifact.fetched world.sources) pipeline rfl
    (ends_tell husual _ mode reporter _ (.done _))

/-- Done without interruption, the work on the settings comes to their cycle. -/
theorem ends_settings : Ends (settings setup world mode) pipeline
    (pipeline.perform setup (world.atMoment moment) (.cycle .settings mode {})).2 := by
  rw [Pipeline.perform_cycle_told _ _ _ _ rfl]
  exact .step moment husual (ends_tell husual _ mode .settings _ (.done _))

/-- Work that begins with a live message ends where the message is recorded first. -/
theorem ends_record (message : TrafficRecord) (hostInScope : Bool) {next : Work}
    {finish : Pipeline}
    (hends : Ends next
      (pipeline.perform setup (world.atMoment moment) (.record message hostInScope)).2 finish) :
    Ends (record setup world message hostInScope next) pipeline finish :=
  .step moment husual hends

/-- Work that begins with recorded messages ends where their cycle is run first. -/
theorem ends_history {next : Work} {finish : Pipeline}
    (hends : Ends next
      (pipeline.perform setup (world.atMoment moment) (.cycle .proxyHistory mode {})).2 finish) :
    Ends (history setup world mode next) pipeline finish := by
  rw [Pipeline.perform_cycle_told _ _ _ _ rfl] at hends
  exact Stream.ends_cycleWork Slot.blank_of husual _ setup world .proxyHistory
    world.sources.proxyHistory pipeline rfl (ends_tell husual _ mode .proxyHistory _ hends)

end Ending

end Work

end SearchFeed
