import SearchFeed.Proofs.KeyedRun

/-! # Every keyed item is delivered at least once

A key is marked exactly when a request that carried it was taken as a whole.
An item in scope that is not marked after a cycle was therefore submitted in
that cycle, and incremental cycles fall silent only when nothing is left.
-/

namespace SearchFeed

section Cycle

variable {α : Type} [KeyedArtifact α] {world : World} {items : List α} (setup : Setup)
  (mode : RunMode) (delivered : DeliveredKeys) (session : Session)

/-- What a cycle ships are items in scope in their order, each with its own key. -/
theorem keyedShipments_entries (hfetched : KeyedArtifact.fetched world.sources = .ok items) :
    ∃ sent : List α, sent.Sublist (items.filter (inScope α world session)) ∧
      ((keyedShipments α setup world mode delivered session).flatMap
        fun shipment => shipment.batch.entries) =
        sent.map fun item => (Artifact.key item, Artifact.document world.now item) := by
  rcases keyedCycle_cases α setup world mode delivered session with
    ⟨hnone, -⟩ | ⟨baseUrl, others, hothers, hsent, -⟩
  · exact ⟨[], List.nil_sublist _, by rw [hnone]; rfl⟩
  · obtain rfl : others = items := Except.ok.inj (hothers.symm.trans hfetched)
    let stream := keyedStream α setup world mode baseUrl
    let start := keyedStart α delivered session others
    refine ⟨stream.chosen setup.limits session.switches.filter world.now others start,
      stream.chosen_sublist _ _ _ _ _, ?_⟩
    rw [hsent, List.flatMap_map]
    exact stream.dispatches_entries _ _ _ _ _

/-- An item in scope that a completed cycle leaves unmarked was submitted in it, in a request of
which something was refused. -/
theorem submitted_of_unmarked {item : α} {summary : CycleSummary}
    (hfetched : KeyedArtifact.fetched world.sources = .ok items)
    (hcompleted : (keyedCycle α setup world mode delivered session).1 = .ok (.completed summary))
    (hmem : item ∈ items) (hscope : inScope α world session item)
    (hunmarked : ¬(keyedCycle α setup world mode delivered session).2.1.contains
      (Artifact.key item)) :
    ∃ shipment ∈ keyedShipments α setup world mode delivered session,
      ¬shipment.isComplete ∧
        (Artifact.key item, Artifact.document world.now item) ∈ shipment.batch.entries := by
  rw [keyedCycle_contains_iff, not_or] at hunmarked
  rcases keyedCycle_cases α setup world mode delivered session with
    ⟨-, result, fetches, haborted, hcycle⟩ | ⟨baseUrl, others, hothers, hsent, -⟩
  · rw [hcycle] at hcompleted
    exact absurd hcompleted (haborted summary)
  · obtain rfl : others = items := Except.ok.inj (hothers.symm.trans hfetched)
    let stream := keyedStream α setup world mode baseUrl
    let start := keyedStart α delivered session others
    have hchosen :
        item ∈ stream.chosen setup.limits session.switches.filter world.now others start := by
      refine (chosen_or_delivered others session.switches.filter start hmem hscope).resolve_right ?_
      rw [keyed_contains_iff, ← hsent, not_or]
      exact hunmarked
    have hentry : (Artifact.key item, Artifact.document world.now item) ∈
        (stream.dispatches setup.limits session.switches.filter world.now others start).flatMap
          fun dispatch => dispatch.batch.entries := by
      rw [Stream.dispatches_entries]
      exact List.mem_append_right _ (List.mem_map.mpr ⟨item, hchosen, rfl⟩)
    obtain ⟨dispatch, hdispatch, hcarried⟩ := List.mem_flatMap.mp hentry
    have hshipment : shipmentOf α setup world baseUrl dispatch ∈
        keyedShipments α setup world mode delivered session := by
      rw [hsent]
      exact List.mem_map_of_mem hdispatch
    -- Had the request been taken as a whole, the key would be marked by now.
    refine ⟨_, hshipment, ?_, hcarried⟩
    intro hcomplete
    exact hunmarked.2 ⟨_, hshipment, hcomplete, List.mem_map.mpr ⟨_, hcarried, rfl⟩⟩

/-- An incremental cycle that finds every item in scope marked makes no request. -/
theorem idle_of_marked (hmarked : ∀ items, KeyedArtifact.fetched world.sources = .ok items →
      ∀ item ∈ items, inScope α world session item → delivered.contains (Artifact.key item)) :
    keyedShipments α setup world .incremental delivered session = [] ∧ ∀ summary,
      (keyedCycle α setup world .incremental delivered session).1 = .ok (.completed summary) →
        summary.candidates = 0 := by
  rcases keyedCycle_cases α setup world .incremental delivered session with
    ⟨hnone, result, fetches, haborted, hcycle⟩ | ⟨baseUrl, items, hfetched, hsent, hcycle⟩
  · refine ⟨hnone, ?_⟩
    intro summary hcompleted
    rw [hcycle] at hcompleted
    exact absurd hcompleted (haborted summary)
  · let stream := keyedStream α setup world .incremental baseUrl
    let start := keyedStart α delivered session items
    have hskips : ∀ item ∈ items,
        stream.chooses session.switches.filter item start.2.memory = false := by
      intro item hmem
      by_cases hscope : inScope α world session item
      · have hknown : start.2.memory.contains (Artifact.key item) :=
          hmarked items hfetched item hmem hscope
        simp [stream, Stream.chooses, keyedStream, hknown]
      · exact Bool.and_eq_false_imp.mpr fun hadmitted => absurd hadmitted hscope
    obtain ⟨hidle, logs, hfinish⟩ := stream.runFrom_idle setup.limits session.switches.filter
      world.now items start.2 hskips
    constructor
    · rw [hsent]
      exact congrArg (List.map _) hidle
    · intro summary hcompleted
      rw [hcycle] at hcompleted
      obtain rfl := CycleOutcome.completed.inj (Except.ok.inj hcompleted)
      exact congrArg (fun progress => progress.summary.candidates) hfinish

end Cycle

/-- After every cycle of every run, the marked keys are those of the requests so far that were taken
as a whole. No mark is ever lost, an item in scope that a completed cycle leaves unmarked was
submitted in it with something refused, and an incremental cycle that finds every item in scope
marked makes no request. -/
theorem KeyedRun.marked_iff_delivered (α : Type) [KeyedArtifact α] (setup : Setup)
    (start : Session) (turns : List (Turn (Artifact.source α))) (next : Turn (Artifact.source α)) :
    let run := KeyedRun.play α setup { session := start } turns
    let before := next.between run.session
    let sent := run.sentIn α setup next
    let result := (run.cycleIn α setup next).1
    let after := run.turn α setup next
    after.shipments = run.shipments ++ sent ∧
    (∃ exchanges, after.session.ledger = start.ledger ++ exchanges ∧
      exchanges.filter (isOwn α) = after.shipments.map Shipment.exchange) ∧
    (∀ shipment ∈ sent, ∃ baseUrl, shipment.exchange.request =
      (keyedTarget α baseUrl).request setup shipment.batch.documents) ∧
    (∀ key, run.delivered.contains key ↔ DeliveredBy key run.shipments) ∧
    (∀ key, after.delivered.contains key ↔ DeliveredBy key after.shipments) ∧
    (∀ key, run.delivered.contains key → after.delivered.contains key) ∧
    (∀ items, KeyedArtifact.fetched next.world.sources = .ok items →
      (∃ chosen : List α, chosen.Sublist (items.filter (inScope α next.world before)) ∧
        (sent.flatMap fun shipment => shipment.batch.entries) =
          chosen.map fun item => (Artifact.key item, Artifact.document next.world.now item)) ∧
      ∀ item ∈ items, ∀ summary, result = .ok (.completed summary) →
        inScope α next.world before item → ¬after.delivered.contains (Artifact.key item) →
        ∃ shipment ∈ sent, ¬shipment.isComplete ∧
          (Artifact.key item, Artifact.document next.world.now item) ∈ shipment.batch.entries) ∧
    (next.mode = .incremental →
      (∀ items, KeyedArtifact.fetched next.world.sources = .ok items → ∀ item ∈ items,
        inScope α next.world before item → run.delivered.contains (Artifact.key item)) →
      sent = [] ∧ after.session.ledger = before.ledger ∧
        ∀ summary, result = .ok (.completed summary) → summary.candidates = 0) := by
  intro run before sent result after
  have hrun : run.Sound α start := (sound_start α start).play α setup turns
  have hafter : after.Sound α start := hrun.turn α setup next
  have hledger : after.session.ledger = before.ledger ++ sent.map Shipment.exchange :=
    keyedCycle_ledger α setup next.world next.mode run.delivered before
  refine ⟨rfl, hafter.ledger, ?_, hrun.marked, hafter.marked, ?_, ?_, ?_⟩
  · intro shipment hmem
    exact keyedShipments_request hmem
  · intro key hknown
    rw [hafter.marked]
    exact (deliveredBy_append key _ _).mpr (.inl ((hrun.marked key).mp hknown))
  · intro items hfetched
    constructor
    · exact keyedShipments_entries setup next.mode run.delivered before hfetched
    · intro item hmem summary hcompleted hscope hunmarked
      exact submitted_of_unmarked setup next.mode run.delivered before hfetched hcompleted hmem
        hscope hunmarked
  · intro hmode hmarked
    obtain ⟨hnone, hcandidates⟩ :=
      idle_of_marked setup run.delivered before hmarked
    rw [← hmode] at hnone hcandidates
    have hsent : sent = [] := hnone
    refine ⟨hsent, ?_, hcandidates⟩
    rw [hledger, hsent, List.map_nil, List.append_nil]

/-- A cluster that refuses an entry of the site map once: the first cycle leaves it unmarked, the
second one delivers it, and the third one makes no request. -/
theorem KeyedRun.marked_iff_delivered_refused_first :
    let entry : SitemapEntry := ⟨"http://a.test/", "GET", none, none, none⟩
    let setup : Setup := { naming := ⟨"a"⟩ }
    let world := World.rehearsed ⟨[.reject [0]], .succeed⟩ { sitemap := .ok [entry] }
    let next : Turn .sitemap := .immediate world .incremental
    let start : KeyedRun := { session := Session.fresh (.ofCapacity 0) }
    let first := start.turn SitemapEntry setup next
    let second := first.turn SitemapEntry setup next
    (∃ shipment ∈ start.sentIn SitemapEntry setup next, ¬shipment.isComplete ∧
      (Artifact.key entry, Artifact.document world.now entry) ∈ shipment.batch.entries) ∧
    ¬first.delivered.contains (Artifact.key entry) ∧
    second.delivered.contains (Artifact.key entry) ∧
    second.sentIn SitemapEntry setup next = [] ∧
    (second.turn SitemapEntry setup next).delivered.contains (Artifact.key entry) := by
  intro entry setup world next start first second
  have hunmarked : ¬first.delivered.contains (Artifact.key entry) := by
    dsimp only [entry, setup, world, next, start, first]
    exact Bool.false_ne_true
  obtain ⟨refused, taken, hshipments, hcomplete, hkeys⟩ : ∃ refused taken : Shipment,
      second.shipments = [refused, taken] ∧ taken.isComplete ∧
        taken.batch.keys = [Artifact.key entry] := by
    dsimp only [entry, setup, world, next, start, first, second]
    exact ⟨_, _, rfl, rfl, rfl⟩
  have hdelivered : DeliveredBy (Artifact.key entry) second.shipments := by
    rw [hshipments, deliveredBy_cons, deliveredBy_cons]
    exact .inr (.inl ⟨hcomplete, hkeys ▸ List.mem_singleton.mpr rfl⟩)
  have hpasses (turns : List (Turn .sitemap)) :=
    marked_iff_delivered SitemapEntry setup start.session turns next
  have hfirst := hpasses []
  have hsecond := hpasses [next]
  have hthird := hpasses [next, next]
  dsimp only [play, List.foldl_cons, List.foldl_nil] at hfirst hsecond hthird
  obtain ⟨-, -, -, -, -, -, hsubmitted, -⟩ := hfirst
  obtain ⟨-, -, -, -, hmarked, -⟩ := hsecond
  obtain ⟨-, -, -, -, -, hkept, -, hidle⟩ := hthird
  have hknown : second.delivered.contains (Artifact.key entry) := (hmarked _).mpr hdelivered
  refine ⟨?_, hunmarked, hknown, ?_, hkept _ hknown⟩
  · have hcompleted : (start.cycleIn SitemapEntry setup next).1 =
        .ok (.completed ⟨1, 1, 1, 0, 1, 0⟩) := by
      dsimp only [entry, setup, world, next, start]
      rfl
    exact (hsubmitted [entry] rfl).2 entry List.mem_cons_self _ hcompleted rfl hunmarked
  · refine (hidle rfl ?_).1
    rintro items ⟨⟩ item hmem -
    obtain rfl := List.mem_singleton.mp hmem
    exact hknown

end SearchFeed
