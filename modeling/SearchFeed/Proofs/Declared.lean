import SearchFeed.Proofs.Disclosure
import SearchFeed.Proofs.Footprint

/-! # Declared indexes

An exporter declares the indexes that its selected sources are written to, and
the documents about its settings list the same ones. Whatever it sends, further
attempts aside, goes to one of them: work that is bound to a source is admitted
only if the source is selected, and other work goes to the index of the tool.
-/

namespace SearchFeed

theorem Reporter.kind_eq (reporter : Reporter) :
    reporter.kind = (reporter.source?.map IndexKind.ofSource).getD .tool := by
  cases reporter <;> rfl

/-- A document lists names of indexes, as the documents about the settings of the export do. -/
def ListsIndexes (document : Document) (names : List String) : Prop :=
  (document.get? "message").bind (Json.get? "index_names") = some (.ofTexts names)

/-- The snapshot of the settings lists the indexes of the selected sources. -/
theorem configDocument_listsIndexes (setup : Setup) (now : Instant) (baseUrl : String)
    (switches : Switches) :
    ListsIndexes (configDocument setup now baseUrl switches)
      (setup.naming.names switches.selected) := rfl

/-- A request goes to an index that is declared for a selection of sources, unless it is a further
attempt, and if it is about the settings of the export, it lists the declared indexes. -/
structure Request.Declared (naming : IndexNaming) (selected : List DataSource)
    (request : Request) : Prop where
  index : request.sender ≠ .retry → request.index ∈ naming.names selected
  listed : request.sender = .configSnapshot → ∃ document, request.payload = .single document ∧
    ListsIndexes document (naming.names selected)

/-- Work goes to the index of the tool or to that of the source that it is bound to, unless it
consists of further attempts. -/
theorem Operation.Makes.index_eq {operation : Operation} {setup : Setup} {before : Session}
    {request : Request} (hmakes : operation.Makes setup before request)
    (hown : request.sender ≠ .retry) :
    request.index = setup.naming.name .tool ∨ ∃ source, operation.source? = some source ∧
      setup.naming.name (.ofSource source) = request.index := by
  cases operation with
  | cycle reporter mode guard =>
      rw [hmakes.2, reporter.kind_eq, Operation.source?]
      cases reporter.source? with
      | none => exact .inl rfl
      | some source => exact .inr ⟨source, rfl, rfl⟩
  | record record hostInScope => exact .inr ⟨.traffic, rfl, hmakes.2.symm⟩
  | drain => exact absurd hmakes.1 hown
  | forward => exact .inl hmakes.2
  | switch change => cases hmakes
  | scope scope => cases hmakes

/-- A cycle of a reporter about the export itself sends its document or nothing. -/
theorem SelfReporter.cycle_ledger (reporter : SelfReporter) (setup : Setup) (world : World)
    (session : Session) :
    let after := (reporter.cycle setup world session).2
    after.ledger = session.ledger ∨ ∃ baseUrl, after.ledger = session.ledger ++
      [session.singleExchange setup world ⟨reporter.sender, baseUrl, .tool⟩
        (reporter.document setup world.now baseUrl session)] := by
  intro after
  simp only [after, cycle]
  cases session.switches.destination with
  | error reason => exact .inl rfl
  | ok baseUrl =>
      refine .inr ⟨baseUrl, ?_⟩
      dsimp only
      split
      · exact session.deliverSingle_ledger ..
      · rw [Session.tell_ledger]
        exact session.deliverSingle_ledger ..

namespace Pipeline

variable {setup : Setup} {world : World} {pipeline : Pipeline} {operation : Operation}
  {exchanges : List Exchange} {exchange : Exchange}

/-- An operation that is bound to a source sends something only if the source is selected. -/
theorem Sends.selected (hsends : Sends setup world pipeline operation exchanges)
    (hmem : exchange ∈ exchanges) {source : DataSource}
    (hsource : operation.source? = some source) :
    source ∈ pipeline.session.switches.selected := by
  by_contra hout
  have hprevents : pipeline.session.switches.Prevents operation.source? :=
    .inr (.inr (.inr ⟨source, hsource, by simpa [Switches.isSelected] using hout⟩))
  obtain ⟨⟨logs, switches, hafter⟩, -⟩ :=
    perform_prevented setup world pipeline operation hprevents
  exact hsends.ledger_ne hmem (congrArg (fun after => after.session.ledger) hafter)

/-- What an operation sends in the name of the reporter about the settings of the export is the
document about them. -/
theorem Sends.listed (hsends : Sends setup world pipeline operation exchanges)
    (hmem : exchange ∈ exchanges) (hsender : exchange.request.sender = .configSnapshot) :
    ∃ baseUrl, exchange.request.payload =
      .single (configDocument setup world.now baseUrl pipeline.session.switches) := by
  obtain ⟨mode, -, hcycled⟩ := hsends.eq_cycle hmem .configSnapshot hsender
  obtain ⟨session, memory⟩ := pipeline
  rcases configReporter.cycle_ledger setup world session with hidle | ⟨baseUrl, hsent⟩
  · obtain rfl : exchanges = [] := List.append_right_eq_self.mp (hcycled.symm.trans hidle)
    cases hmem
  · obtain rfl := List.append_cancel_left (hcycled.symm.trans hsent)
    obtain rfl := List.mem_singleton.mp hmem
    exact ⟨baseUrl, rfl⟩

/-- What an operation sends goes to indexes that are declared for the selected sources. -/
theorem Sends.declared (hsends : Sends setup world pipeline operation exchanges) :
    ∀ exchange ∈ exchanges,
      exchange.request.Declared setup.naming pipeline.session.switches.selected := by
  intro exchange hmem
  constructor
  · intro hown
    rw [IndexNaming.mem_names]
    rcases (hsends.made exchange hmem).index_eq hown with htool | ⟨source, hsource, hindex⟩
    · exact .inr htool
    · exact .inl ⟨source, hsends.selected hmem hsource, hindex⟩
  · intro hsender
    obtain ⟨baseUrl, hpayload⟩ := hsends.listed hmem hsender
    exact ⟨_, hpayload, configDocument_listsIndexes setup world.now baseUrl _⟩

/-- Only a change of the switches changes the selection of sources. -/
theorem perform_selected (hkept : ∀ change, operation ≠ .switch change)
    (hqueue : pipeline.session.queue.Reachable) :
    (pipeline.perform setup world operation).2.session.switches.selected =
      pipeline.session.switches.selected := by
  cases operation with
  | cycle reporter mode guard =>
      rcases loggedCycle_ends setup world pipeline reporter mode guard with
        ⟨-, logs, fetches, hafter⟩ | ⟨baseUrl, -, exchanges, summary, -, hstint, -⟩
      · simp only [perform, hafter, withSession]
      · exact congrArg Switches.selected hstint.switches
  | record record hostInScope =>
      rcases pipeline.session.recordTraffic_stint setup world record hostInScope with
        ⟨logs, hafter⟩ | ⟨baseUrl, exchange, -, hstint⟩
      · simp only [perform, hafter, withSession]
      · exact congrArg Switches.selected hstint.switches
  | drain =>
      cases hready : pipeline.session.switches.destination with
      | error reason =>
          simp only [perform, withSession, Session.drainOnce, hready, Session.tell_switches]
      | ok baseUrl =>
          obtain ⟨exchanges, hpass⟩ := Session.drainOnce_retries setup baseUrl pipeline.session
            world hready hqueue.sound.pending_nodup
          exact congrArg Switches.selected hpass.switches
  | forward =>
      rcases pipeline.session.forwardOnce_cases setup world with
        ⟨logs, hafter⟩ | ⟨baseUrl, documents, reply, logs, -, hafter⟩
      · simp only [perform, hafter, withSession]
      · simp only [perform, hafter, withSession]
  | switch change => exact absurd rfl (hkept change)
  | scope scope =>
      obtain ⟨logs, hlogs⟩ := pipeline.session.changeScope_eq world.now scope
      simp only [perform, hlogs, withSession]

end Pipeline

/-- A stretch of an export that leaves the selection of sources as it is and sends to the indexes
that are declared for it. -/
structure Session.KeepsToDeclared (naming : IndexNaming) (before after : Session)
    (exchanges : List Exchange) : Prop where
  ledger : after.ledger = before.ledger ++ exchanges
  selected : after.switches.selected = before.switches.selected
  declared : ∀ exchange ∈ exchanges, exchange.request.Declared naming before.switches.selected
  queue : before.queue.Reachable → after.queue.Reachable

namespace Session.KeepsToDeclared

variable {naming : IndexNaming} {before middle after : Session} {first second : List Exchange}

/-- Nothing is to be declared where nothing is sent. -/
theorem of_unsent (hledger : after.ledger = before.ledger)
    (hselected : after.switches.selected = before.switches.selected)
    (hqueue : after.queue = before.queue) : KeepsToDeclared naming before after [] where
  ledger := by rw [hledger, List.append_nil]
  selected := hselected
  declared := nofun
  queue hreachable := hqueue ▸ hreachable

theorem tell (session : Session) (now : Instant) (event : Event) :
    KeepsToDeclared naming session (session.tell now event) [] :=
  .of_unsent (session.tell_ledger now event) (congrArg _ (session.tell_switches now event))
    (session.tell_queue now event)

theorem trans (hfirst : KeepsToDeclared naming before middle first)
    (hsecond : KeepsToDeclared naming middle after second) :
    KeepsToDeclared naming before after (first ++ second) where
  ledger := by rw [hsecond.ledger, hfirst.ledger, List.append_assoc]
  selected := hsecond.selected.trans hfirst.selected
  declared := by
    refine List.forall_mem_append.mpr ⟨hfirst.declared, ?_⟩
    rw [← hfirst.selected]
    exact hsecond.declared
  queue := hsecond.queue ∘ hfirst.queue

end Session.KeepsToDeclared

namespace Pipeline

variable {setup : Setup} {world : World} {pipeline : Pipeline}

/-- An operation sends to declared indexes, unless it changes a switch. -/
theorem perform_keepsToDeclared {operation : Operation}
    (hkept : ∀ change, operation ≠ .switch change) (hqueue : pipeline.session.queue.Reachable) :
    ∃ exchanges, Session.KeepsToDeclared setup.naming pipeline.session
      (pipeline.perform setup world operation).2.session exchanges := by
  obtain ⟨exchanges, hsends⟩ : ∃ exchanges, Sends setup world pipeline operation exchanges :=
    perform_sends operation hqueue
  exact ⟨exchanges, hsends.ledger, perform_selected hkept hqueue, hsends.declared,
    perform_reachable operation⟩

/-- Cycles one after the other send to declared indexes. -/
theorem cycles_keepsToDeclared (reporter : Reporter) (modes : List RunMode)
    (hqueue : pipeline.session.queue.Reachable) :
    ∃ exchanges, Session.KeepsToDeclared setup.naming pipeline.session
      (pipeline.cycles setup world reporter modes).session exchanges := by
  induction modes generalizing pipeline with
  | nil => exact ⟨[], .of_unsent rfl rfl rfl⟩
  | cons mode rest ih =>
      obtain ⟨first, hfirst⟩ : ∃ exchanges, Session.KeepsToDeclared setup.naming pipeline.session
          (pipeline.perform setup world (.cycle reporter mode {})).2.session exchanges :=
        perform_keepsToDeclared nofun hqueue
      obtain ⟨others, hothers⟩ := ih (hfirst.queue hqueue)
      exact ⟨first ++ others, hfirst.trans hothers⟩

end Pipeline

namespace Exporter

variable {exporter : Exporter} {world : World}

/-- Workers that are set going send to declared indexes. -/
theorem trigger_keepsToDeclared (reporters : List Reporter)
    (hqueue : exporter.pipeline.session.queue.Reachable) :
    ∃ exchanges, Session.KeepsToDeclared exporter.setup.naming exporter.pipeline.session
      (exporter.trigger world reporters).pipeline.session exchanges := by
  simp only [trigger]
  generalize exporter.pipeline = pipeline at hqueue
  induction reporters generalizing pipeline with
  | nil => exact ⟨[], .of_unsent rfl rfl rfl⟩
  | cons reporter rest ih =>
      -- Whether anybody hears a worker plays no part in what it sends.
      let worker : Pipeline :=
        { pipeline with
          session := { pipeline.session with
            listening := if exporter.hearsWorkers then pipeline.session.listening else none } }
      obtain ⟨first, hfirst⟩ : ∃ exchanges, Session.KeepsToDeclared exporter.setup.naming
          worker.session (worker.cycles exporter.setup world reporter [.pushAll]).session
          exchanges :=
        Pipeline.cycles_keepsToDeclared reporter [.pushAll] hqueue
      have hworker : Session.KeepsToDeclared exporter.setup.naming pipeline.session
          (pipeline.onThread exporter.hearsWorkers
            (Pipeline.cycles exporter.setup world reporter [.pushAll])).session first :=
        ⟨hfirst.ledger, hfirst.selected, hfirst.declared, hfirst.queue⟩
      obtain ⟨others, hothers⟩ := ih _ (hworker.queue hqueue)
      exact ⟨first ++ others, hworker.trans hothers⟩

theorem spawn_setup (now : Instant) : (exporter.spawn now).setup = exporter.setup := by
  unfold spawn
  split <;> rfl

/-- Setting the workers up sends nothing. -/
theorem spawn_keepsToDeclared (now : Instant) :
    Session.KeepsToDeclared exporter.setup.naming exporter.pipeline.session
      (exporter.spawn now).pipeline.session [] := by
  unfold spawn
  split
  · exact .of_unsent rfl rfl rfl
  · exact .tell exporter.pipeline.session now exporter.spawnedEvent

/-- All that an export sends when it starts goes to declared indexes. -/
theorem start_keepsToDeclared (hqueue : exporter.pipeline.session.queue.Reachable) :
    ∃ exchanges, Session.KeepsToDeclared exporter.setup.naming exporter.pipeline.session
      (exporter.start world).pipeline.session exchanges := by
  let running := exporter.onSession fun session =>
    session.withSwitches fun switches => { switches with running := true }
  let spawned := running.spawn world.now
  let pushed := spawned.trigger world (.configSnapshot :: exporter.reporters)
  have hrunning : Session.KeepsToDeclared exporter.setup.naming exporter.pipeline.session
      running.pipeline.session [] := .of_unsent rfl rfl rfl
  have hspawned := hrunning.trans (running.spawn_keepsToDeclared world.now)
  obtain ⟨exchanges, hpushed⟩ : ∃ exchanges, Session.KeepsToDeclared spawned.setup.naming
      spawned.pipeline.session pushed.pipeline.session exchanges :=
    trigger_keepsToDeclared _ (hspawned.queue hqueue)
  rw [show spawned.setup = exporter.setup from running.spawn_setup world.now] at hpushed
  exact ⟨_, (hspawned.trans hpushed).trans (.tell _ world.now _)⟩

/-- Whatever happens to an exporter, unless its switches are changed, it sends to declared
indexes. -/
theorem move_keepsToDeclared {move : Move} (hkept : ∀ change, move ≠ .operate (.switch change))
    (hqueue : exporter.pipeline.session.queue.Reachable) :
    ∃ exchanges, Session.KeepsToDeclared exporter.setup.naming exporter.pipeline.session
      (exporter.move world move).pipeline.session exchanges := by
  cases move with
  | start => exact start_keepsToDeclared hqueue
  | stop =>
      have hstopped : Session.KeepsToDeclared exporter.setup.naming exporter.pipeline.session
          (exporter.pipeline.session.withSwitches fun switches =>
            { switches with running := false }) [] := .of_unsent rfl rfl rfl
      exact ⟨_, hstopped.trans (.tell _ world.now _)⟩
  | pushNow =>
      simp only [move, pushNow]
      split
      · exact trigger_keepsToDeclared exporter.reporters hqueue
      · exact ⟨[], .of_unsent rfl rfl rfl⟩
  | configChanged =>
      simp only [move, configChanged]
      split
      · exact trigger_keepsToDeclared [.configSnapshot] hqueue
      · exact ⟨[], .of_unsent rfl rfl rfl⟩
  | listen heard => exact ⟨[], .of_unsent rfl rfl rfl⟩
  | operate operation =>
      refine Pipeline.perform_keepsToDeclared ?_ hqueue
      rintro change rfl
      exact hkept change rfl

theorem move_reachable (move : Move) (hqueue : exporter.pipeline.session.queue.Reachable) :
    (exporter.move world move).pipeline.session.queue.Reachable := by
  by_cases hswitch : ∃ change, move = .operate (.switch change)
  · obtain ⟨change, rfl⟩ := hswitch
    exact hqueue
  · obtain ⟨exchanges, hkeeps⟩ : ∃ exchanges, Session.KeepsToDeclared exporter.setup.naming
        exporter.pipeline.session (exporter.move world move).pipeline.session exchanges :=
      move_keepsToDeclared (not_exists.mp hswitch) hqueue
    exact hkeeps.queue hqueue

/-- Whatever happens to an exporter, its queue is one that offers and polls lead to. -/
theorem play_reachable (steps : List (World × Move)) (start : Exporter)
    (hqueue : start.pipeline.session.queue.Reachable) :
    (start.play steps).pipeline.session.queue.Reachable := by
  induction steps generalizing start with
  | nil => exact hqueue
  | cons first rest ih => exact ih _ (move_reachable first.2 hqueue)

/-- The selected sources once each and in a fixed order have the same indexes. -/
theorem perm_indexNames (exporter : Exporter) :
    (exporter.setup.naming.names exporter.pipeline.session.switches.selected).Perm
      exporter.indexNames := by
  apply IndexNaming.perm_names
  intro source
  cases source <;> simp [DataSource.all, Switches.isSelected]

/-- A document lists the names that an exporter declares, each once and that of the tool at the
end. -/
def IsDeclaredBy (exporter : Exporter) (document : Document) : Prop :=
  ∃ names, ListsIndexes document names ∧ names.Perm exporter.indexNames ∧ names.Nodup ∧
    names.getLast? = some exporter.config.index.stem

theorem isDeclaredBy_of_listsIndexes {document : Document}
    (hlists : ListsIndexes document
      (exporter.setup.naming.names exporter.pipeline.session.switches.selected)) :
    exporter.IsDeclaredBy document :=
  ⟨_, hlists, exporter.perm_indexNames, IndexNaming.nodup_names _ _,
    IndexNaming.getLast?_names _ _⟩

/-- Whatever has happened to an exporter, it declares its indexes once each and that of the tool at
the end, and a document about its settings lists the same ones. What happens next sends to declared
indexes, further attempts aside, and does not change the selection of sources if it sends
anything. -/
theorem sends_to_declared_indexes (start : Exporter) (steps : List (World × Move))
    (hqueue : start.pipeline.session.queue.Reachable) :
    let exporter := start.play steps
    let switches := exporter.pipeline.session.switches
    (exporter.indexNames.Nodup ∧
      exporter.indexNames.getLast? = some exporter.config.index.stem) ∧
    (∀ now baseUrl,
      exporter.IsDeclaredBy (configDocument exporter.setup now baseUrl switches)) ∧
    ∀ world move, let after := exporter.move world move
      ∃ exchanges, after.pipeline.session.ledger = exporter.pipeline.session.ledger ++ exchanges ∧
        (exchanges ≠ [] → after.pipeline.session.switches.selected = switches.selected) ∧
        ∀ exchange ∈ exchanges,
          (exchange.request.sender ≠ .retry → exchange.request.index ∈ exporter.indexNames) ∧
          (exchange.request.sender = .configSnapshot → ∃ document,
            exchange.request.payload = .single document ∧ exporter.IsDeclaredBy document) := by
  intro exporter switches
  refine ⟨⟨IndexNaming.nodup_names _ _, IndexNaming.getLast?_names _ _⟩, ?_, ?_⟩
  · intro now baseUrl
    exact isDeclaredBy_of_listsIndexes
      (configDocument_listsIndexes exporter.setup now baseUrl switches)
  · intro world move after
    by_cases hswitch : ∃ change, move = .operate (.switch change)
    · obtain ⟨change, rfl⟩ := hswitch
      exact ⟨[], (List.append_nil _).symm, fun hsent => absurd rfl hsent, nofun⟩
    · obtain ⟨exchanges, hkeeps⟩ : ∃ exchanges, Session.KeepsToDeclared exporter.setup.naming
          exporter.pipeline.session after.pipeline.session exchanges :=
        move_keepsToDeclared (not_exists.mp hswitch) (play_reachable steps start hqueue)
      refine ⟨exchanges, hkeeps.ledger, fun _ => hkeeps.selected, ?_⟩
      intro exchange hmem
      obtain ⟨hindex, hlisted⟩ := hkeeps.declared exchange hmem
      refine ⟨fun hown => exporter.perm_indexNames.mem_iff.mp (hindex hown), ?_⟩
      intro hsender
      obtain ⟨document, hpayload, hlists⟩ := hlisted hsender
      exact ⟨document, hpayload, isDeclaredBy_of_listsIndexes hlists⟩

/-- Two sources that share an index are selected, one of them twice. The start of the export sends a
document that lists the index once, and a live message goes to it. -/
theorem sends_to_declared_indexes_repeated :
    let parts : ExporterParts := { config := {}, offered := fun _ => false }
    let world := World.rehearsed ⟨[], .succeed⟩ {}
    let selected : List DataSource := [.traffic, .settings, .proxyHistory, .traffic]
    let select (switches : Switches) := { switches with selected, baseUrl := some "http://a.test" }
    let start := assembled { parts with config.index.stem := "a" } ⟨0⟩
    let exporter := start.play [(world, .operate (.switch select)), (world, .start)]
    let switches := exporter.pipeline.session.switches
    let after := exporter.move world (.operate (.record default true))
    exporter.indexNames = ["a-settings", "a-traffic", "a"] ∧
      ListsIndexes (configDocument exporter.setup world.now "http://a.test" switches)
        ["a-traffic", "a-settings", "a"] ∧
      exporter.IsDeclaredBy (configDocument exporter.setup world.now "http://a.test" switches) ∧
      (exporter.requests.map fun request => (request.sender, request.index)) =
        [(.configSnapshot, "a"), (.toolStats, "a")] ∧
      ∃ exchange, after.pipeline.session.ledger = exporter.pipeline.session.ledger ++ [exchange] ∧
        exchange.request.index = "a-traffic" ∧ exchange.request.index ∈ exporter.indexNames := by
  intro parts world selected select start exporter switches after
  obtain ⟨-, hdocument, hmoves⟩ := sends_to_declared_indexes start
    [(world, .operate (.switch select)), (world, .start)] (.start _)
  obtain ⟨exchanges, hledger, -, hexchanges⟩ := hmoves world (.operate (.record default true))
  let live : Exchange := ⟨⟨.source .traffic, "http://a.test", "a-traffic",
    .single (Artifact.document world.now (default : TrafficRecord))⟩, .single (.ok ())⟩
  have hlive : after.pipeline.session.ledger = exporter.pipeline.session.ledger ++ [live] := rfl
  obtain rfl : exchanges = [live] := List.append_cancel_left (hledger.symm.trans hlive)
  have hdeclared := (hexchanges live (List.mem_singleton_self live)).1 nofun
  exact ⟨rfl, rfl, hdocument world.now _, rfl, live, hlive, rfl, hdeclared⟩

end Exporter

end SearchFeed
