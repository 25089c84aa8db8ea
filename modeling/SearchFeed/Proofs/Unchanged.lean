import SearchFeed.Proofs.Joined
import SearchFeed.Proofs.SettingsRun

/-! # Settings that count as unchanged

A cycle that finds the settings unchanged has come to the text that the cluster
took last. The text does not tell which parts it is made of, nor where the first
part ends: it gives them back only together with the parts that are enabled and
the number of line ends in each of them.
-/

namespace SearchFeed

/-- What the text of exported settings does not tell: the parts, and how many line ends there are in
each. -/
def settingsOutline (exported : List (SettingsPart × String)) : List (SettingsPart × Nat) :=
  exported.map fun (part, text) => (part, Text.occurrences '\n' text)

/-- Of two exports with one combined text, equality is equality of their outlines. -/
theorem eq_iff_settingsOutline_eq {exported taken : List (SettingsPart × String)}
    (hsame : combinedSettings exported = combinedSettings taken) :
    exported = taken ↔ settingsOutline exported = settingsOutline taken := by
  constructor
  · exact congrArg settingsOutline
  · intro houtline
    have hparts : exported.map Prod.fst = taken.map Prod.fst := by
      simpa [settingsOutline, Function.comp_def] using congrArg (List.map Prod.fst) houtline
    have hcounts := congrArg (List.map Prod.snd) houtline
    have htexts : exported.map Prod.snd = taken.map Prod.snd := by
      apply Text.joined_inj_of_occurrences '\n' hsame
      simpa [settingsOutline, Function.comp_def] using hcounts
    exact (List.zip_of_prod hparts htexts).trans (List.zip_of_prod rfl rfl).symm

section Exporting

variable {sources : Sources} {parts : List SettingsPart} {switches : Switches}
  {exported : List (SettingsPart × String)}

theorem of_exportParts_eq_ok (hexported : exportParts sources parts = .ok exported) :
    exported.map Prod.fst = parts ∧ ∀ entry ∈ exported, sources.settings entry.1 = .ok entry.2 := by
  induction parts generalizing exported with
  | nil =>
      cases hexported
      exact ⟨rfl, nofun⟩
  | cons part rest ih =>
      simp only [exportParts] at hexported
      split at hexported
      · cases hexported
      next text htext =>
        split at hexported
        · cases hexported
        next others hothers =>
          cases hexported
          obtain ⟨hparts, htexts⟩ := ih hothers
          exact ⟨congrArg (part :: ·) hparts, List.forall_mem_cons.mpr ⟨htext, htexts⟩⟩

theorem exported_iff :
    Exported sources switches.settingsParts exported ↔
      exportParts sources switches.exportedParts = .ok exported := by
  constructor
  · exact Exported.exportParts_eq
  · intro hexported
    obtain ⟨hparts, htexts⟩ := of_exportParts_eq_ok hexported
    refine ⟨hparts.trans ?_, htexts⟩
    exact List.filter_congr fun part _ => List.contains_eq_mem part switches.settingsParts

end Exporting

/-- A cycle that finds the settings unchanged has exported them and has come to the digest that is
remembered. -/
theorem settingsCycle_unchanged {setup : Setup} {world : World} {mode : RunMode}
    {lastPushed : Option Digest} {session : Session}
    (hunchanged : (settingsCycle setup world mode lastPushed session).1 =
      .ok (.skipped .unchanged)) :
    ∃ exported, exportParts world.sources session.switches.exportedParts = .ok exported ∧
      lastPushed = some (settingsDigest exported) := by
  cases hadmitted : session.switches.preflight .settings with
  | error reason =>
      simp only [settingsCycle, hadmitted, Except.ok.injEq, CycleOutcome.skipped.injEq]
        at hunchanged
      subst hunchanged
      rcases Switches.preflight_reason hadmitted with hreason | hreason | hreason <;> cases hreason
  | ok baseUrl =>
    by_cases henabled : session.switches.exportedParts = []
    · simp only [settingsCycle, hadmitted, henabled, List.isEmpty_nil, if_true] at hunchanged
      cases hunchanged
    cases hexported : exportParts world.sources session.switches.exportedParts with
    | error error =>
        simp only [settingsCycle, hadmitted, hexported] at hunchanged
        rw [if_neg (by simpa using henabled)] at hunchanged
        cases hunchanged
    | ok exported =>
        rw [settingsCycle_exported setup world mode lastPushed session hadmitted henabled
          hexported] at hunchanged
        split at hunchanged
        next hsame => exact ⟨exported, rfl, hsame.2⟩
        · split at hunchanged
          · cases hunchanged
          · rw [pushSettings_result] at hunchanged
            cases hunchanged

/-- What a cycle of the reporter of settings adds to the ledger: nothing, or the document of what it
has exported. -/
theorem settingsCycle_ledger (setup : Setup) (world : World) (mode : RunMode)
    (lastPushed : Option Digest) (session : Session) :
    let after := (settingsCycle setup world mode lastPushed session).2.2
    after.ledger = session.ledger ∨
    ∃ baseUrl projectId exported,
      exportParts world.sources session.switches.exportedParts = .ok exported ∧
      after.ledger =
        session.ledger ++ [settingsExchange setup world session baseUrl projectId exported] := by
  intro after
  rcases settingsCycle_cases setup world mode lastPushed session with
    hidle | ⟨baseUrl, projectId, exported, hexported, hpushed⟩
  · exact .inl (congrArg (fun cycle => cycle.2.ledger) hidle)
  · refine .inr ⟨baseUrl, projectId, exported, hexported, ?_⟩
    simp only [after, hpushed]
    exact pushSettings_ledger setup world lastPushed session baseUrl projectId exported

theorem Exchange.takesSettings_eq {exchange : Exchange} (htakes : exchange.takesSettings = true) :
    exchange.request.sender = .source .settings ∧ exchange.reply = .single (.ok ()) := by
  unfold takesSettings at htakes
  split at htakes
  next hsender hreply => exact ⟨hsender, hreply⟩
  · cases htakes

namespace Pipeline

variable {setup : Setup} {world : World} {pipeline : Pipeline} {operation : Operation}

/-- A cycle that nobody holds back ends as the reporter of settings says. -/
theorem loggedCycle_settings_result (mode : RunMode) :
    (pipeline.loggedCycle setup world .settings mode {}).1 =
      (settingsCycle setup world mode pipeline.memory.settings pipeline.session).1 := by
  obtain ⟨logs, hlogs⟩ := loggedCycle_logs setup world pipeline .settings mode {}
  rw [guardedCycle_free setup world pipeline .settings mode rfl] at hlogs
  rw [hlogs]
  rfl

/-- Only a cycle of the reporter of settings that nobody holds back makes the cluster take a
document from that reporter, and it is the document of what the cycle has exported. -/
theorem perform_takesSettings {exchanges : List Exchange}
    (hqueue : pipeline.session.queue.Reachable)
    (hledger : (pipeline.perform setup world operation).2.session.ledger =
      pipeline.session.ledger ++ exchanges)
    (htakes : exchanges.any Exchange.takesSettings = true) :
    ∃ mode exported baseUrl projectId, operation = .cycle .settings mode {} ∧
      exportParts world.sources pipeline.session.switches.exportedParts = .ok exported ∧
      exchanges = [⟨⟨.source .settings, baseUrl, setup.naming.name .settings,
        .single (settingsDocument world.now projectId exported)⟩, .single (.ok ())⟩] := by
  obtain ⟨sent, hsends⟩ : ∃ sent, Sends setup world pipeline operation sent :=
    perform_sends operation hqueue
  obtain rfl : sent = exchanges := List.append_cancel_left (hsends.ledger.symm.trans hledger)
  obtain ⟨exchange, hmem, htaken⟩ := List.any_eq_true.mp htakes
  obtain ⟨hsender, hreply⟩ := exchange.takesSettings_eq htaken
  obtain ⟨mode, rfl, hcycled⟩ := hsends.eq_cycle hmem .settings hsender
  obtain ⟨session, memory⟩ := pipeline
  rcases settingsCycle_ledger setup world mode memory.settings session with
    hidle | ⟨baseUrl, projectId, exported, hexported, hpushed⟩
  · obtain rfl : sent = [] := List.append_right_eq_self.mp (hcycled.symm.trans hidle)
    cases hmem
  · obtain rfl := List.append_cancel_left (hcycled.symm.trans hpushed)
    obtain rfl := List.mem_singleton.mp hmem
    refine ⟨mode, exported, baseUrl, projectId, rfl, hexported, ?_⟩
    rw [← hreply]
    rfl

/-- A text that the cluster took from the reporter of settings is that of what a cycle exported. -/
theorem settingsTaken?_eq_some_iff {exchanges : List Exchange} {text : String}
    (hqueue : pipeline.session.queue.Reachable)
    (hledger : (pipeline.perform setup world operation).2.session.ledger =
      pipeline.session.ledger ++ exchanges) :
    pipeline.settingsTaken? setup world operation = some text ↔
      ∃ mode exported baseUrl projectId, operation = .cycle .settings mode {} ∧
        exportParts world.sources pipeline.session.switches.exportedParts = .ok exported ∧
        exchanges = [⟨⟨.source .settings, baseUrl, setup.naming.name .settings,
          .single (settingsDocument world.now projectId exported)⟩, .single (.ok ())⟩] ∧
        text = combinedSettings exported := by
  rw [settingsTaken?_eq hledger]
  constructor
  · intro htaken
    split at htaken
    next htakes =>
      obtain ⟨mode, exported, baseUrl, projectId, rfl, hexported, hexchanges⟩ :=
        perform_takesSettings hqueue hledger htakes
      rw [settingsTold?, settingsText?_eq hexported] at htaken
      exact ⟨mode, exported, baseUrl, projectId, rfl, hexported, hexchanges,
        (Option.some.inj htaken).symm⟩
    · cases htaken
  · rintro ⟨mode, exported, baseUrl, projectId, rfl, hexported, rfl, rfl⟩
    exact (if_pos rfl).trans (settingsText?_eq hexported)

/-- An operation in which the cluster takes no text of the reporter of settings is one in which it
takes no document from it. -/
theorem quiet_of_settingsTaken?_eq_none {exchanges : List Exchange}
    (hqueue : pipeline.session.queue.Reachable)
    (hledger : (pipeline.perform setup world operation).2.session.ledger =
      pipeline.session.ledger ++ exchanges)
    (hnone : pipeline.settingsTaken? setup world operation = none) :
    ∀ exchange ∈ exchanges, exchange.takesSettings = false := by
  cases htakes : exchanges.any Exchange.takesSettings with
  | false => simpa using htakes
  | true =>
      obtain ⟨mode, exported, baseUrl, projectId, hcycle, hexported, hexchanges⟩ :=
        perform_takesSettings hqueue hledger htakes
      have htaken := (settingsTaken?_eq_some_iff hqueue hledger).mpr
        ⟨mode, exported, baseUrl, projectId, hcycle, hexported, hexchanges, rfl⟩
      rw [hnone] at htaken
      cases htaken

/-- As long as the cluster takes no text of the reporter of settings, it takes no document from
it. -/
theorem quiet_of_settingsTaken_eq_nil (start : Pipeline) (steps : List (World × Operation))
    (hqueue : start.session.queue.Reachable) (hnone : start.settingsTaken setup steps = []) :
    ∀ exchange ∈ Session.exchangesSince start.session (start.performAll setup steps).session,
      exchange.takesSettings = false := by
  induction steps generalizing start with
  | nil =>
      have hledger : (start.performAll setup []).session.ledger = start.session.ledger ++ [] :=
        (List.append_nil _).symm
      rw [Session.exchangesSince_eq hledger]
      exact List.forall_mem_nil _
  | cons step rest ih =>
      let middle := (start.perform setup step.1 step.2).2
      have hreachable : middle.session.queue.Reachable := perform_reachable step.2 hqueue
      obtain ⟨first, hfirst⟩ : ∃ exchanges, Sends setup step.1 start step.2 exchanges :=
        perform_sends step.2 hqueue
      obtain ⟨more, hmore⟩ : ∃ exchanges, (middle.performAll setup rest).session.ledger =
          middle.session.ledger ++ exchanges := performAll_ledger middle rest hreachable
      obtain ⟨hfirstNone, hrestNone⟩ := List.append_eq_nil_iff.mp hnone
      have hquietRest := ih middle hreachable hrestNone
      rw [Session.exchangesSince_eq hmore] at hquietRest
      have hall : (start.performAll setup (step :: rest)).session.ledger =
          start.session.ledger ++ (first ++ more) := by
        rw [← List.append_assoc, ← hfirst.ledger]
        exact hmore
      rw [Session.exchangesSince_eq hall]
      refine List.forall_mem_append.mpr ⟨?_, hquietRest⟩
      exact quiet_of_settingsTaken?_eq_none hqueue hfirst.ledger
        (by simpa using hfirstNone)

/-- The step of a run in which the cluster took the last text from the reporter of settings. -/
theorem exists_of_getLast?_settingsTaken (start : Pipeline) (steps : List (World × Operation))
    {text : String} (hlast : (start.settingsTaken setup steps).getLast? = some text) :
    ∃ earlier world operation later, steps = earlier ++ (world, operation) :: later ∧
      (start.performAll setup earlier).settingsTaken? setup world operation = some text ∧
      (start.performAll setup (earlier ++ [(world, operation)])).settingsTaken setup later =
        [] := by
  induction steps generalizing start with
  | nil => cases hlast
  | cons step rest ih =>
      by_cases hrest : (start.perform setup step.1 step.2).2.settingsTaken setup rest = []
      · refine ⟨[], step.1, step.2, rest, rfl, ?_, hrest⟩
        have hsplit : start.settingsTaken setup (step :: rest) =
            (start.settingsTaken? setup step.1 step.2).toList ++
              (start.perform setup step.1 step.2).2.settingsTaken setup rest := rfl
        rw [hsplit, hrest, List.append_nil] at hlast
        cases htaken : start.settingsTaken? setup step.1 step.2 with
        | none =>
            rw [htaken] at hlast
            cases hlast
        | some taken =>
            rw [htaken] at hlast
            exact htaken.trans hlast
      · have hlastRest : ((start.perform setup step.1 step.2).2.settingsTaken setup rest).getLast? =
            some text := by
          rw [← hlast]
          exact (List.getLast?_append_of_ne_nil _ hrest).symm
        obtain ⟨earlier, world, operation, later, rfl, htaken, hquiet⟩ := ih _ hlastRest
        exact ⟨step :: earlier, world, operation, later, rfl, htaken, hquiet⟩

/-- In a run, the cluster took a document of these exported settings, and none from the reporter of
settings since. -/
def TookLast (setup : Setup) (start : Pipeline) (steps : List (World × Operation))
    (taken : List (SettingsPart × String)) : Prop :=
  ∃ earlier world mode later, steps = earlier ++ (world, .cycle .settings mode {}) :: later ∧
    let before := start.performAll setup earlier
    let after := start.performAll setup (earlier ++ [(world, .cycle .settings mode {})])
    Exported world.sources before.session.switches.settingsParts taken ∧
    (∃ baseUrl projectId, after.session.ledger = before.session.ledger ++
      [⟨⟨.source .settings, baseUrl, setup.naming.name .settings,
        .single (settingsDocument world.now projectId taken)⟩, .single (.ok ())⟩]) ∧
    ∀ exchange ∈ Session.exchangesSince after.session (start.performAll setup steps).session,
      exchange.takesSettings = false

theorem performAll_append (start : Pipeline) (first second : List (World × Operation)) :
    start.performAll setup (first ++ second) =
      (start.performAll setup first).performAll setup second := List.foldl_append

theorem performAll_concat (start : Pipeline) (steps : List (World × Operation)) :
    start.performAll setup (steps ++ [(world, operation)]) =
      ((start.performAll setup steps).perform setup world operation).2 := by
  rw [performAll_append]
  rfl

theorem performAll_resume (start : Pipeline) (earlier later : List (World × Operation)) :
    start.performAll setup (earlier ++ (world, operation) :: later) =
      (start.performAll setup (earlier ++ [(world, operation)])).performAll setup later := by
  rw [List.append_cons, performAll_append]

/-- The last document that the cluster took from the reporter of settings has the last text that it
took. -/
theorem TookLast.getLast?_settingsTaken {start : Pipeline} {steps : List (World × Operation)}
    {taken : List (SettingsPart × String)} (hqueue : start.session.queue.Reachable)
    (htook : TookLast setup start steps taken) :
    (start.settingsTaken setup steps).getLast? = some (combinedSettings taken) := by
  obtain ⟨earlier, world, mode, later, rfl, hexported, ⟨baseUrl, projectId, hledger⟩, hquiet⟩ :=
    htook
  rw [performAll_resume start earlier later] at hquiet
  have hnone : (start.performAll setup
      (earlier ++ [(world, .cycle .settings mode {})])).settingsTaken setup later = [] :=
    settingsTaken_eq_nil _ later (performAll_reachable _ start hqueue) hquiet
  rw [performAll_concat] at hledger
  have htaken := (settingsTaken?_eq_some_iff (performAll_reachable earlier start hqueue)
    hledger).mpr ⟨mode, taken, baseUrl, projectId, rfl, exported_iff.mp hexported, rfl, rfl⟩
  have hsplit : start.settingsTaken setup (earlier ++ (world, .cycle .settings mode {}) :: later) =
      start.settingsTaken setup earlier ++ [combinedSettings taken] := by
    rw [List.append_cons, settingsTaken, textsIn_append, textsIn_append, ← settingsTaken]
    rw [settingsTaken] at hnone
    simp only [hnone, textsIn, htaken, Option.toList_some, List.append_nil]
  rw [hsplit, List.getLast?_concat]

/-- If any settings were taken along the steps, there is a last step that took them. -/
theorem exists_tookLast {start : Pipeline} {steps : List (World × Operation)} {text : String}
    (hqueue : start.session.queue.Reachable)
    (hlast : (start.settingsTaken setup steps).getLast? = some text) :
    ∃ taken, TookLast setup start steps taken := by
  obtain ⟨earlier, world, operation, later, rfl, htaken, hnone⟩ :=
    exists_of_getLast?_settingsTaken start steps hlast
  have hbefore : (start.performAll setup earlier).session.queue.Reachable :=
    performAll_reachable earlier start hqueue
  obtain ⟨exchanges, hsends⟩ : ∃ exchanges,
      Sends setup world (start.performAll setup earlier) operation exchanges :=
    perform_sends operation hbefore
  obtain ⟨mode, taken, baseUrl, projectId, rfl, hexported, rfl, -⟩ :=
    (settingsTaken?_eq_some_iff hbefore hsends.ledger).mp htaken
  refine ⟨taken, earlier, world, mode, later, rfl, exported_iff.mpr hexported,
    ⟨baseUrl, projectId, ?_⟩, ?_⟩
  · rw [performAll_concat]
    exact hsends.ledger
  · rw [performAll_resume start earlier later]
    exact quiet_of_settingsTaken_eq_nil _ later (performAll_reachable _ start hqueue) hnone

/-- An incremental cycle that finds the settings unchanged has parts of the settings in hand whose
text is that of the last settings that the cluster took from this reporter. They are the same
settings exactly if the same parts are enabled and there are as many line ends in each of them. -/
theorem unchanged_settings_share_text (setup : Setup) (start : Pipeline)
    (steps : List (World × Operation)) (world : World) (hnew : start.memory.settings = none)
    (hqueue : start.session.queue.Reachable)
    (hdistinct : Set.InjOn textDigest {text | text ∈
      start.settingsTold setup (steps ++ [(world, .cycle .settings .incremental {})])})
    (hunchanged : ((start.performAll setup steps).loggedCycle setup world .settings
      .incremental {}).1 = .ok (.skipped .unchanged)) :
    let parts := (start.performAll setup steps).session.switches.settingsParts
    (∃ exported, Exported world.sources parts exported) ∧
    (∃ taken, TookLast setup start steps taken) ∧
    ∀ exported taken, Exported world.sources parts exported → TookLast setup start steps taken →
      combinedSettings exported = combinedSettings taken ∧
        (exported = taken ↔ settingsOutline exported = settingsOutline taken) := by
  intro parts
  let pipeline := start.performAll setup steps
  have hcycle : (settingsCycle setup world .incremental pipeline.memory.settings
      pipeline.session).1 = .ok (.skipped .unchanged) :=
    (loggedCycle_settings_result .incremental).symm.trans hunchanged
  obtain ⟨current, hcurrent, hremembered⟩ := settingsCycle_unchanged hcycle
  have hlast : (start.settingsTaken setup steps).getLast? = some (combinedSettings current) :=
    (unchanged_iff_taken_last setup start steps world .incremental hnew hdistinct
      (settingsText?_eq hcurrent)).mp hremembered
  refine ⟨⟨current, exported_iff.mpr hcurrent⟩, exists_tookLast hqueue hlast, ?_⟩
  intro exported taken hexported htook
  obtain rfl : current = exported :=
    Except.ok.inj (hcurrent.symm.trans (exported_iff.mp hexported))
  have hsame : combinedSettings current = combinedSettings taken :=
    Option.some.inj (hlast.symm.trans (htook.getLast?_settingsTaken hqueue))
  exact ⟨hsame, eq_iff_settingsOutline_eq hsame⟩

/-- The settings of the project were taken, and then those of the user are enabled in their place.
Both have the same text, so the settings of the user are not sent. -/
theorem unchanged_settings_share_text_other_part :
    let setup : Setup := { naming := ⟨"a"⟩ }
    let world := World.rehearsed ⟨[], .succeed⟩ { settings := fun _ => .ok "1" }
    let start : Pipeline := { session := Session.fresh (.ofCapacity 1) }
    let enable (part : SettingsPart) := (world,
      Operation.switch fun switches => { switches with settingsParts := [part] })
    let cycle := (world, Operation.cycle .settings .incremental {})
    let steps := [enable .project, cycle, enable .user]
    let taken := [(SettingsPart.project, "1")]
    let exported := [(SettingsPart.user, "1")]
    TookLast setup start steps taken ∧
      Exported world.sources (start.performAll setup steps).session.switches.settingsParts
        exported ∧
      ((start.performAll setup steps).loggedCycle setup world .settings .incremental {}).1 =
        .ok (.skipped .unchanged) ∧
      combinedSettings exported = combinedSettings taken ∧ exported ≠ taken := by
  intro setup world start enable cycle steps taken exported
  let pipeline := start.performAll setup steps
  have htook : TookLast setup start steps taken :=
    ⟨[enable .project], world, .incremental, [enable .user], rfl,
      ⟨rfl, by simp [taken, world, World.rehearsed]⟩, ⟨"http://search.test", "", rfl⟩,
      List.forall_mem_nil _⟩
  have hexported : Exported world.sources pipeline.session.switches.settingsParts exported :=
    ⟨rfl, by simp [exported, world, World.rehearsed]⟩
  have htold : start.settingsTold setup (steps ++ [cycle]) = List.replicate 2 "1" := rfl
  have hdistinct : Set.InjOn textDigest {text | text ∈
      start.settingsTold setup (steps ++ [cycle])} := by
    intro text hmem other hother _
    rw [htold] at hmem hother
    exact (List.eq_of_mem_replicate hmem).trans (List.eq_of_mem_replicate hother).symm
  have hlast : (start.settingsTaken setup steps).getLast? = some (combinedSettings taken) :=
    htook.getLast?_settingsTaken (.start 1)
  have hremembered : pipeline.memory.settings = some (settingsDigest exported) :=
    (unchanged_iff_taken_last setup start steps world .incremental rfl hdistinct
      (settingsText?_eq hexported.exportParts_eq)).mpr hlast
  have hcycle := (settingsCycle_exported setup world .incremental pipeline.memory.settings
    pipeline.session rfl (List.cons_ne_nil _ _) hexported.exportParts_eq).trans
      (if_pos ⟨rfl, hremembered⟩)
  have hunchanged : (pipeline.loggedCycle setup world .settings .incremental {}).1 =
      .ok (.skipped .unchanged) :=
    (loggedCycle_settings_result .incremental).trans (congrArg Prod.fst hcycle)
  obtain ⟨-, -, hagree⟩ := unchanged_settings_share_text setup start steps world rfl (.start 1)
    hdistinct hunchanged
  obtain ⟨hsame, hiff⟩ := hagree exported taken hexported htook
  exact ⟨htook, hexported, hunchanged, hsame, mt hiff.mp (by decide)⟩

end Pipeline

end SearchFeed
