import Mathlib.Data.Set.Function
import SearchFeed.Proofs.Footprint

/-! # Settings over a whole run

The reporter of settings remembers one digest. It is the digest of the text that
the cluster took last, whatever else has happened since, so comparing with it is
comparing with that text as long as no two texts of the run share a digest.
-/

namespace SearchFeed

def textDigest (text : String) : Digest := Blake3.hash text.toUTF8.toList

/-- The enabled parts of the settings with their texts: the project before the user, each once,
however the switches list them. -/
structure Exported (sources : Sources) (enabled : List SettingsPart)
    (exported : List (SettingsPart × String)) : Prop where
  parts : exported.map Prod.fst = [SettingsPart.project, .user].filter (· ∈ enabled)
  texts : ∀ entry ∈ exported, sources.settings entry.1 = .ok entry.2

theorem exportParts_eq_ok {sources : Sources} {exported : List (SettingsPart × String)}
    (htexts : ∀ entry ∈ exported, sources.settings entry.1 = .ok entry.2) :
    exportParts sources (exported.map Prod.fst) = .ok exported := by
  induction exported with
  | nil => rfl
  | cons entry rest ih =>
      obtain ⟨hfirst, hrest⟩ := List.forall_mem_cons.mp htexts
      simp only [List.map_cons, exportParts, hfirst, ih hrest]

/-- The text of the enabled parts of the settings, if all of them can be exported. -/
def settingsText? (sources : Sources) (switches : Switches) : Option String :=
  (exportParts sources switches.exportedParts).toOption.map combinedSettings

section Exporting

variable {sources : Sources} {switches : Switches} {exported : List (SettingsPart × String)}

theorem Exported.exportedParts_eq (hexported : Exported sources switches.settingsParts exported) :
    switches.exportedParts = exported.map Prod.fst := by
  rw [hexported.parts]
  exact List.filter_congr fun part _ => List.contains_eq_mem part switches.settingsParts

/-- Where the enabled parts can be exported, the export gives their texts in order. -/
theorem Exported.exportParts_eq (hexported : Exported sources switches.settingsParts exported) :
    exportParts sources switches.exportedParts = .ok exported := by
  rw [hexported.exportedParts_eq, exportParts_eq_ok hexported.texts]

theorem settingsText?_eq (hexported : exportParts sources switches.exportedParts = .ok exported) :
    settingsText? sources switches = some (combinedSettings exported) := by
  rw [settingsText?, hexported]
  rfl

end Exporting

/-- The cluster took a document of the reporter of settings. -/
def Exchange.takesSettings (exchange : Exchange) : Bool :=
  match exchange.request.sender, exchange.reply with
  | .source .settings, .single (.ok ()) => true
  | _, _ => false

section Cycle

variable (setup : Setup) (world : World) (mode : RunMode) (lastPushed : Option Digest)
  (session : Session)

/-- A cycle that is not skipped for another reason and can export what it should compares first and
asks for the project only then. -/
theorem settingsCycle_exported {baseUrl : String} {exported : List (SettingsPart × String)}
    (hadmitted : session.switches.preflight .settings = .ok baseUrl)
    (henabled : session.switches.exportedParts ≠ [])
    (hexported : exportParts world.sources session.switches.exportedParts = .ok exported) :
    settingsCycle setup world mode lastPushed session =
      if mode = .incremental ∧ lastPushed = some (settingsDigest exported) then
        (.ok (.skipped .unchanged), lastPushed, session)
      else
        match world.sources.projectId with
        | .error error => (.error error, lastPushed, session)
        | .ok projectId =>
          pushSettings setup world baseUrl projectId exported lastPushed session := by
  simp only [settingsCycle, hadmitted, hexported]
  exact if_neg (by simpa using henabled)

/-- A cycle leaves what is remembered and what has been sent alone, or it pushes what it has
exported. -/
theorem settingsCycle_cases :
    let cycle := settingsCycle setup world mode lastPushed session
    cycle.2 = (lastPushed, session) ∨
    ∃ baseUrl projectId exported,
      exportParts world.sources session.switches.exportedParts = .ok exported ∧
      cycle = pushSettings setup world baseUrl projectId exported lastPushed session := by
  intro cycle
  cases hadmitted : session.switches.preflight .settings with
  | error reason =>
      left
      simp only [cycle, settingsCycle, hadmitted]
  | ok baseUrl =>
    by_cases henabled : session.switches.exportedParts = []
    · left
      simp only [cycle, settingsCycle, hadmitted, henabled, List.isEmpty_nil, if_true]
    cases hexported : exportParts world.sources session.switches.exportedParts with
    | error error =>
        left
        simp only [cycle, settingsCycle, hadmitted, hexported]
        rw [if_neg (by simpa using henabled)]
    | ok exported =>
        simp only [cycle, settingsCycle_exported setup world mode lastPushed session hadmitted
          henabled hexported]
        split
        · exact .inl rfl
        · cases world.sources.projectId with
          | error error => exact .inl rfl
          | ok projectId => exact .inr ⟨baseUrl, projectId, exported, rfl, rfl⟩

def settingsExchange (baseUrl projectId : String) (exported : List (SettingsPart × String)) :
    Exchange :=
  session.singleExchange setup world ⟨.source .settings, baseUrl, .settings⟩
    (settingsDocument world.now projectId exported)

/-- A settings push is one exchange. -/
theorem pushSettings_ledger (baseUrl projectId : String)
    (exported : List (SettingsPart × String)) :
    (pushSettings setup world baseUrl projectId exported lastPushed session).2.2.ledger =
      session.ledger ++ [settingsExchange setup world session baseUrl projectId exported] := by
  have hsent := (session.deliverSingle_stint setup world ⟨.source .settings, baseUrl, .settings⟩
    (fun _ => "Settings index push failed") (settingsDocument world.now projectId exported)).ledger
  simp only [pushSettings]
  split
  · exact hsent
  · rw [Session.tell_ledger]
    exact hsent

theorem pushSettings_result (baseUrl projectId : String)
    (exported : List (SettingsPart × String)) :
    (pushSettings setup world baseUrl projectId exported lastPushed session).1 =
      .ok (.completed (.ofSingle (session.singleReply setup world
        ⟨.source .settings, baseUrl, .settings⟩
        (settingsDocument world.now projectId exported)))) := by
  have hreply := session.deliverSingle_fst setup world ⟨.source .settings, baseUrl, .settings⟩
    (fun _ => "Settings index push failed") (settingsDocument world.now projectId exported)
  rw [← hreply]
  simp only [pushSettings]
  split <;> rfl

/-- What is remembered after a push is what was taken in it, or what was remembered before. -/
theorem pushSettings_remembers (baseUrl projectId : String)
    (exported : List (SettingsPart × String)) :
    (pushSettings setup world baseUrl projectId exported lastPushed session).2.1 =
      if (settingsExchange setup world session baseUrl projectId exported).takesSettings then
        some (settingsDigest exported)
      else lastPushed := by
  have hreply := session.deliverSingle_fst setup world ⟨.source .settings, baseUrl, .settings⟩
    (fun _ => "Settings index push failed") (settingsDocument world.now projectId exported)
  simp only [pushSettings, settingsExchange, Session.singleExchange, Target.singleRequest,
    Exchange.takesSettings, ← hreply]
  split
  next htaken => simp only [htaken, if_true]
  next error hrefused => simp only [hrefused, Bool.false_eq_true, if_false]

end Cycle

namespace Pipeline

variable (setup : Setup) (world : World) (pipeline : Pipeline) (operation : Operation)

/-- The text that a cycle of the reporter of settings has to compare, if it gets as far. -/
def settingsTold? : Option String :=
  match operation with
  | .cycle .settings _ _ => settingsText? world.sources pipeline.session.switches
  | _ => none

/-- The text that the cluster took from the reporter of settings, if it took one. -/
def settingsTaken? : Option String :=
  if (Session.exchangesSince pipeline.session
      (pipeline.perform setup world operation).2.session).any Exchange.takesSettings then
    pipeline.settingsTold? world operation
  else none

/-- The texts that are told of in the course of a run, the oldest first. -/
def textsIn (text? : World → Pipeline → Operation → Option String) :
    Pipeline → List (World × Operation) → List String
  | _, [] => []
  | pipeline, (world, operation) :: rest =>
    (text? world pipeline operation).toList ++
      textsIn text? (pipeline.perform setup world operation).2 rest

/-- The texts that cycles of the reporter of settings had to compare in a run. -/
def settingsTold (start : Pipeline) (steps : List (World × Operation)) : List String :=
  textsIn setup settingsTold? start steps

/-- The texts that the cluster took from the reporter of settings in a run. -/
def settingsTaken (start : Pipeline) (steps : List (World × Operation)) : List String :=
  textsIn setup (settingsTaken? setup) start steps

/-- The texts told along two lists of steps are told along the first and then along the second. -/
theorem textsIn_append (text? : World → Pipeline → Operation → Option String) (start : Pipeline)
    (first second : List (World × Operation)) :
    textsIn setup text? start (first ++ second) =
      textsIn setup text? start first ++
        textsIn setup text? (start.performAll setup first) second := by
  induction first generalizing start with
  | nil => rfl
  | cons step rest ih =>
      rw [List.cons_append, textsIn, textsIn, ih, List.append_assoc]
      rfl

/-- What the cluster took had to be compared before. -/
theorem settingsTaken_subset (start : Pipeline) (steps : List (World × Operation)) :
    start.settingsTaken setup steps ⊆ start.settingsTold setup steps := by
  induction steps generalizing start with
  | nil => exact List.Subset.refl []
  | cons step rest ih =>
      refine List.append_subset.mpr ⟨?_, ?_⟩
      · apply List.subset_append_of_subset_left
        rw [settingsTaken?]
        split
        · exact List.Subset.refl _
        · exact List.nil_subset _
      · exact List.subset_append_of_subset_right _ (ih _)

variable {setup world pipeline operation} in
theorem settingsTaken?_eq {exchanges : List Exchange}
    (hledger : (pipeline.perform setup world operation).2.session.ledger =
      pipeline.session.ledger ++ exchanges) :
    pipeline.settingsTaken? setup world operation =
      if exchanges.any Exchange.takesSettings then pipeline.settingsTold? world operation
      else none := by
  rw [settingsTaken?, Session.exchangesSince_eq hledger]

variable {setup world pipeline operation} in
/-- An operation that sends nothing has nothing taken. -/
theorem settingsTaken?_idle
    (hidle : (pipeline.perform setup world operation).2.session.ledger =
      pipeline.session.ledger) : pipeline.settingsTaken? setup world operation = none :=
  settingsTaken?_eq (hidle.trans (List.append_nil _).symm)

/-- A cycle of the reporter of settings that runs remembers the text that the cluster took in it, or
else what was remembered before. -/
theorem settings_cycle_remembers (mode : RunMode) {guard : Guard} (hfree : guard.running = false) :
    (pipeline.perform setup world (.cycle .settings mode guard)).2.memory.settings =
      ((pipeline.settingsTaken? setup world (.cycle .settings mode guard)).map textDigest).or
        pipeline.memory.settings := by
  obtain ⟨logs, hlogs⟩ := loggedCycle_logs setup world pipeline .settings mode guard
  rw [guardedCycle_free setup world pipeline .settings mode hfree] at hlogs
  obtain ⟨session, memory⟩ := pipeline
  rcases settingsCycle_cases setup world mode memory.settings session with
    hidle | ⟨baseUrl, projectId, exported, hexported, hpushed⟩
  · rw [settingsTaken?_idle]
    · simp only [perform, hlogs, withSession, cycle, hidle, Option.map_none, Option.none_or]
    · simp only [perform, hlogs, withSession, cycle, hidle]
  · have hremembers := pushSettings_remembers setup world memory.settings session baseUrl projectId
      exported
    have hledger : (Pipeline.perform setup world ⟨session, memory⟩
        (.cycle .settings mode guard)).2.session.ledger =
        session.ledger ++ [settingsExchange setup world session baseUrl projectId exported] := by
      simp only [perform, hlogs, withSession, cycle, hpushed]
      exact pushSettings_ledger setup world memory.settings session baseUrl projectId exported
    rw [settingsTaken?_eq hledger]
    simp only [perform, hlogs, withSession, cycle, hpushed, hremembers, settingsTold?,
      settingsText?_eq hexported, List.any_cons, List.any_nil, Bool.or_false]
    split <;> rfl

/-- A cycle remembers the digest of what the cluster took in it, and nothing else changes what is
remembered. -/
theorem perform_remembers :
    (pipeline.perform setup world operation).2.memory.settings =
      ((pipeline.settingsTaken? setup world operation).map textDigest).or
        pipeline.memory.settings := by
  have hother (hnone : pipeline.settingsTold? world operation = none)
      (hsame : (pipeline.perform setup world operation).2.memory.settings =
        pipeline.memory.settings) :
      (pipeline.perform setup world operation).2.memory.settings =
        ((pipeline.settingsTaken? setup world operation).map textDigest).or
          pipeline.memory.settings := by
    rw [settingsTaken?, hnone, ite_self, Option.map_none, Option.none_or, hsame]
  cases operation with
  | cycle reporter mode guard =>
      obtain ⟨logs, hlogs⟩ := loggedCycle_logs setup world pipeline reporter mode guard
      cases hguard : guard.running with
      | true =>
          rw [guardedCycle_held setup world pipeline reporter mode hguard] at hlogs
          rw [settingsTaken?_idle]
          · simp only [perform, hlogs, withSession, Option.map_none, Option.none_or]
          · simp only [perform, hlogs, withSession]
      | false =>
          rw [guardedCycle_free setup world pipeline reporter mode hguard] at hlogs
          cases reporter with
          | settings => exact settings_cycle_remembers setup world pipeline mode hguard
          | sitemap => exact hother rfl (by simp only [perform, hlogs, withSession, cycle])
          | findings => exact hother rfl (by simp only [perform, hlogs, withSession, cycle])
          | proxyHistory => exact hother rfl (by simp only [perform, hlogs, withSession, cycle])
          | toolStats => exact hother rfl (by simp only [perform, hlogs, withSession, cycle])
          | configSnapshot => exact hother rfl (by simp only [perform, hlogs, withSession, cycle])
  | record record hostInScope => exact hother rfl rfl
  | drain => exact hother rfl rfl
  | forward => exact hother rfl rfl
  | switch change => exact hother rfl rfl
  | scope scope => exact hother rfl rfl

variable {setup}

/-- What is remembered after a run is the text that the cluster took last in it. -/
theorem performAll_remembers (start : Pipeline) (steps : List (World × Operation)) :
    (start.performAll setup steps).memory.settings =
      ((start.settingsTaken setup steps).getLast?.map textDigest).or start.memory.settings := by
  induction steps generalizing start with
  | nil => rfl
  | cons step rest ih =>
      have hrest := ih (start.perform setup step.1 step.2).2
      rw [perform_remembers] at hrest
      refine hrest.trans ?_
      rw [settingsTaken, settingsTaken, textsIn, List.getLast?_append, ← Option.or_assoc,
        Option.map_or]
      cases start.settingsTaken? setup step.1 step.2 <;> rfl

/-- A run only adds to the ledger. -/
theorem performAll_ledger (start : Pipeline) (steps : List (World × Operation))
    (hqueue : start.session.queue.Reachable) : ∃ exchanges,
      (start.performAll setup steps).session.ledger = start.session.ledger ++ exchanges := by
  induction steps generalizing start with
  | nil => exact ⟨[], (List.append_nil _).symm⟩
  | cons step rest ih =>
      let middle := (start.perform setup step.1 step.2).2
      have hreachable : middle.session.queue.Reachable := perform_reachable step.2 hqueue
      obtain ⟨first, hfirst⟩ : ∃ exchanges, Sends setup step.1 start step.2 exchanges :=
        perform_sends step.2 hqueue
      obtain ⟨more, hmore⟩ := ih middle hreachable
      refine ⟨first ++ more, ?_⟩
      rw [← List.append_assoc, ← hfirst.ledger]
      exact hmore

/-- As long as the cluster takes no document of the reporter of settings, it takes no text. -/
theorem settingsTaken_eq_nil (start : Pipeline) (steps : List (World × Operation))
    (hqueue : start.session.queue.Reachable)
    (hquiet : ∀ exchange ∈ Session.exchangesSince start.session
      (start.performAll setup steps).session, exchange.takesSettings = false) :
    start.settingsTaken setup steps = [] := by
  induction steps generalizing start with
  | nil => rfl
  | cons step rest ih =>
      let middle := (start.perform setup step.1 step.2).2
      have hreachable : middle.session.queue.Reachable := perform_reachable step.2 hqueue
      obtain ⟨first, hfirst⟩ : ∃ exchanges, Sends setup step.1 start step.2 exchanges :=
        perform_sends step.2 hqueue
      obtain ⟨more, hmore⟩ : ∃ exchanges, (middle.performAll setup rest).session.ledger =
          middle.session.ledger ++ exchanges := performAll_ledger middle rest hreachable
      have hall : (start.performAll setup (step :: rest)).session.ledger =
          start.session.ledger ++ (first ++ more) := by
        rw [← List.append_assoc, ← hfirst.ledger]
        exact hmore
      rw [Session.exchangesSince_eq hall] at hquiet
      obtain ⟨hquietFirst, hquietMore⟩ := List.forall_mem_append.mp hquiet
      have hnone : start.settingsTaken? setup step.1 step.2 = none := by
        rw [settingsTaken?_eq hfirst.ledger, if_neg]
        simpa using hquietFirst
      have hrest : middle.settingsTaken setup rest = [] :=
        ih middle hreachable (by rwa [Session.exchangesSince_eq hmore])
      rw [settingsTaken, textsIn, hnone]
      exact hrest

/-- Comparing with the digest that is remembered is comparing with the text that the cluster took
last, as long as no two texts of the run share a digest. -/
theorem unchanged_iff_taken_last (setup : Setup) (start : Pipeline)
    (steps : List (World × Operation)) (world : World) (mode : RunMode) {text : String}
    (hnew : start.memory.settings = none)
    (hdistinct : Set.InjOn textDigest {text | text ∈
      start.settingsTold setup (steps ++ [(world, .cycle .settings mode {})])})
    (htext : settingsText? world.sources (start.performAll setup steps).session.switches =
      some text) :
    (start.performAll setup steps).memory.settings = some (textDigest text) ↔
      (start.settingsTaken setup steps).getLast? = some text := by
  rw [performAll_remembers, hnew, Option.or_none]
  have htold : start.settingsTold setup (steps ++ [(world, .cycle .settings mode {})]) =
      start.settingsTold setup steps ++ [text] := by
    rw [settingsTold, textsIn_append]
    simp only [textsIn, settingsTold?, htext, Option.toList_some, List.append_nil, settingsTold]
  rw [htold] at hdistinct
  cases hlast : (start.settingsTaken setup steps).getLast? with
  | none => simp
  | some taken =>
      have hmem : taken ∈ start.settingsTold setup steps :=
        settingsTaken_subset setup start steps (List.mem_of_getLast? hlast)
      simp only [Option.map_some, Option.some.injEq]
      exact ⟨fun hdigest => hdistinct (by simp [hmem]) (by simp) hdigest, congrArg textDigest⟩

/-- Whatever has happened since an export was set up, an incremental cycle that has the enabled
parts of the settings in hand sends them unless their text is the one that the cluster took last
from this reporter, and a cycle over everything always sends them. That text stays the same while
the cluster takes none, whatever is skipped, refused or cannot be read. -/
theorem settings_sent_unless_taken_last (setup : Setup) (start : Pipeline)
    (steps : List (World × Operation)) (world : World) (mode : RunMode) {baseUrl : String}
    {exported : List (SettingsPart × String)} (hnew : start.memory.settings = none)
    (hqueue : start.session.queue.Reachable)
    (hdistinct : Set.InjOn textDigest {text | text ∈
      start.settingsTold setup (steps ++ [(world, .cycle .settings mode {})])})
    (hadmitted : (start.performAll setup steps).session.switches.preflight .settings = .ok baseUrl)
    (hexported : Exported world.sources
      (start.performAll setup steps).session.switches.settingsParts exported)
    (henabled : exported ≠ []) :
    let pipeline := start.performAll setup steps
    let last := (start.settingsTaken setup steps).getLast?
    let unchanged := mode = .incremental ∧ last = some (combinedSettings exported)
    let logged := pipeline.loggedCycle setup world .settings mode {}
    (logged.1 = .ok (.skipped .unchanged) ↔ unchanged) ∧
    (unchanged → logged.2.2.session.ledger = pipeline.session.ledger) ∧
    (¬unchanged → ∀ projectId, world.sources.projectId = .ok projectId → ∃ reply,
      logged.1 = .ok (.completed (.ofSingle reply)) ∧
      logged.2.2.session.ledger = pipeline.session.ledger ++
        [⟨⟨.source .settings, baseUrl, setup.naming.name .settings,
          .single (settingsDocument world.now projectId exported)⟩, .single reply⟩]) ∧
    ∀ earlier later, steps = earlier ++ later →
      (∀ exchange ∈ Session.exchangesSince (start.performAll setup earlier).session
        pipeline.session, exchange.takesSettings = false) →
      last = (start.settingsTaken setup earlier).getLast? := by
  intro pipeline last unchanged logged
  have hparts : pipeline.session.switches.exportedParts ≠ [] := by
    rw [hexported.exportedParts_eq]
    simpa using henabled
  have hcycle := settingsCycle_exported setup world mode pipeline.memory.settings pipeline.session
    hadmitted hparts hexported.exportParts_eq
  have hsame : mode = .incremental ∧ pipeline.memory.settings = some (settingsDigest exported) ↔
      unchanged :=
    and_congr_right fun _ => unchanged_iff_taken_last setup start steps world mode hnew hdistinct
      (settingsText?_eq hexported.exportParts_eq)
  obtain ⟨logs, hlogs⟩ := loggedCycle_logs setup world pipeline .settings mode {}
  rw [guardedCycle_free setup world pipeline .settings mode rfl] at hlogs
  refine ⟨?_, ?_, ?_, ?_⟩
  · by_cases hunchanged : unchanged
    · simp only [logged, hlogs, cycle, hcycle, if_pos (hsame.mpr hunchanged), hunchanged]
    · refine iff_of_false ?_ hunchanged
      simp only [logged, hlogs, cycle, hcycle, if_neg (mt hsame.mp hunchanged)]
      cases world.sources.projectId with
      | error error =>
          intro hskipped
          cases hskipped
      | ok projectId =>
          rw [pushSettings_result]
          intro hskipped
          cases hskipped
  · intro hunchanged
    simp only [logged, hlogs, withSession, cycle, hcycle, if_pos (hsame.mpr hunchanged)]
  · intro hchanged projectId hproject
    simp only [logged, hlogs, withSession, cycle, hcycle, if_neg (mt hsame.mp hchanged), hproject]
    exact ⟨_, pushSettings_result setup world pipeline.memory.settings pipeline.session baseUrl
      projectId exported, pushSettings_ledger setup world pipeline.memory.settings pipeline.session
      baseUrl projectId exported⟩
  · intro earlier later hsteps hquiet
    have hpipeline : pipeline = (start.performAll setup earlier).performAll setup later := by
      simp only [pipeline, hsteps, performAll, List.foldl_append]
    have hnothing : (start.performAll setup earlier).settingsTaken setup later = [] :=
      settingsTaken_eq_nil _ later (performAll_reachable earlier start hqueue)
        (by rwa [← hpipeline])
    simp only [last, settingsTaken, hsteps, textsIn_append]
    rw [settingsTaken] at hnothing
    rw [hnothing, List.append_nil]

/-- Both parts of the settings, refused the first time and taken the second: a third cycle has
nothing to do, though the first one left nothing behind to compare with. -/
theorem settings_sent_unless_taken_last_retried :
    let setup : Setup := { naming := ⟨"a"⟩ }
    let world := World.rehearsed ⟨[.fail "down"], .succeed⟩ { settings := fun _ => .ok "1" }
    let start : Pipeline := { session := Session.fresh (.ofCapacity 1) }
    let step := (world, Operation.cycle .settings .incremental {})
    let pipeline := start.performAll setup [step, step]
    start.settingsTaken setup [step] = [] ∧ pipeline.session.ledger.length = 2 ∧
      (pipeline.loggedCycle setup world .settings .incremental {}).1 =
        .ok (.skipped .unchanged) := by
  intro setup world start step pipeline
  have htold : start.settingsTold setup ([step, step] ++ [step]) =
      List.replicate 3 "1\n1" := by
    rfl
  have hdistinct : Set.InjOn textDigest {text | text ∈
      start.settingsTold setup ([step, step] ++ [step])} := by
    intro text hmem other hother _
    rw [htold] at hmem hother
    exact (List.eq_of_mem_replicate hmem).trans (List.eq_of_mem_replicate hother).symm
  have hexported : Exported world.sources pipeline.session.switches.settingsParts
      [(.project, "1"), (.user, "1")] := ⟨rfl, by simp [world, World.rehearsed]⟩
  have hrun := settings_sent_unless_taken_last setup start [step, step] world .incremental rfl
    (.start 1) hdistinct rfl hexported nofun
  exact ⟨rfl, rfl, hrun.1.mpr ⟨rfl, rfl⟩⟩

end Pipeline

end SearchFeed
