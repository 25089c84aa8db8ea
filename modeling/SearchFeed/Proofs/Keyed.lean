import SearchFeed.Proofs.Dispatch
import SearchFeed.Reporter.Items

/-! # Reporters that know their items again

A keyed reporter sends batches and marks the keys of those that the cluster
took as a whole. What it has marked is therefore told by its requests, in the
middle of a cycle as well as after it.
-/

namespace SearchFeed

namespace DeliveredKeys

variable (delivered : DeliveredKeys) (key : PushKey)

theorem contains_mark (marked : PushKey) :
    (delivered.mark marked).contains key ↔ delivered.contains key ∨ key = marked := by
  unfold mark
  split
  next hknown =>
    constructor
    · exact Or.inl
    · rintro (h | rfl)
      · exact h
      · exact hknown
  next => simp [contains, or_comm]

theorem contains_markAll (marked : List PushKey) :
    (delivered.markAll marked).contains key ↔ delivered.contains key ∨ key ∈ marked := by
  induction marked generalizing delivered with
  | nil => simp [markAll]
  | cons first rest ih =>
      change ((delivered.mark first).markAll rest).contains key ↔ _
      rw [ih, contains_mark, List.mem_cons, or_assoc]

end DeliveredKeys

/-- Artifacts that are known again by their keys, and where the host tool offers them. -/
class KeyedArtifact (α : Type) extends Artifact α where
  fetched : Sources → Except SourceError (List α)

instance : KeyedArtifact SitemapEntry where
  fetched := Sources.sitemap

instance : KeyedArtifact Finding where
  fetched := Sources.findings

/-- A request of a keyed reporter, with the batch that it carries. -/
structure Shipment where
  batch : Batch PushKey
  exchange : Exchange

/-- Whether the cluster took every document of a shipment. -/
def Shipment.isComplete (shipment : Shipment) : Bool := shipment.exchange.refused.isEmpty

/-- A key that one of some shipments has delivered: the cluster took all documents of its batch. -/
def DeliveredBy (key : PushKey) (shipments : List Shipment) : Prop :=
  ∃ shipment ∈ shipments, shipment.isComplete ∧ key ∈ shipment.batch.keys

theorem deliveredBy_cons (key : PushKey) (shipment : Shipment) (rest : List Shipment) :
    DeliveredBy key (shipment :: rest) ↔
      (shipment.isComplete ∧ key ∈ shipment.batch.keys) ∨ DeliveredBy key rest := by
  simp only [DeliveredBy, List.mem_cons, exists_eq_or_imp]

/-- A key delivered by two lists of shipments one after the other is delivered by one of them. -/
theorem deliveredBy_append (key : PushKey) (earlier later : List Shipment) :
    DeliveredBy key (earlier ++ later) ↔ DeliveredBy key earlier ∨ DeliveredBy key later := by
  simp only [DeliveredBy, List.mem_append, or_and_right, exists_or]

section Keyed

variable (α : Type) [KeyedArtifact α] (setup : Setup) (world : World) (mode : RunMode)

def keyedTarget (baseUrl : String) : Target :=
  ⟨.source (Artifact.source α), baseUrl, Artifact.kind α⟩

def shipmentOf (baseUrl : String) (dispatch : Dispatch PushKey DeliveredKeys) : Shipment :=
  ⟨dispatch.batch, dispatch.before.session.bulkExchange setup world (keyedTarget α baseUrl)
    dispatch.batch.documents⟩

/-- Whether an item is in scope for a cycle that begins in a session. -/
def inScope (session : Session) (item : α) : Bool :=
  session.switches.filter.admits (Artifact.url item)
    (world.sources.hostInScope (Artifact.source α) (Artifact.url item))

def keyedCycle (delivered : DeliveredKeys) (session : Session) :
    CycleResult × DeliveredKeys × Session :=
  Stream.cycle (keyedStream α setup world mode) setup world (Artifact.source α)
    (KeyedArtifact.fetched world.sources) delivered session

theorem sitemapCycle_eq : sitemapCycle = keyedCycle SitemapEntry := rfl

theorem findingsCycle_eq : findingsCycle = keyedCycle Finding := rfl

/-- A cycle that has fetched its items and has nothing pending yet. -/
def keyedStart (delivered : DeliveredKeys) (session : Session) (items : List α) :
    Batch PushKey × Progress DeliveredKeys :=
  (Batch.empty, Stream.opened (Artifact.source α) delivered session items)

def keyedShipments (delivered : DeliveredKeys) (session : Session) : List Shipment :=
  match session.switches.preflight (Artifact.source α), KeyedArtifact.fetched world.sources with
  | .ok baseUrl, .ok items =>
    ((keyedStream α setup world mode baseUrl).dispatches setup.limits session.switches.filter
      world.now items (keyedStart α delivered session items)).map (shipmentOf α setup world baseUrl)
  | _, _ => []

variable {α} {setup world mode} {baseUrl : String}

/-- The ledger of a keyed cycle grows by the exchange of each shipment. -/
theorem keyed_tracks_ledger : (keyedStream α setup world mode baseUrl).Tracks
    (fun progress => progress.session.ledger)
    (fun dispatch ledger => ledger ++ [(shipmentOf α setup world baseUrl dispatch).exchange]) where
  logs _ _ := rfl
  candidates _ _ := rfl
  flush batch progress :=
    progress.session.deliverBulk_ledger setup world (keyedTarget α baseUrl) batch.documents

/-- The delivered keys of a keyed cycle grow by a shipment's keys when it is complete, and not
otherwise. -/
theorem keyed_tracks_memory : (keyedStream α setup world mode baseUrl).Tracks Progress.memory
    (fun dispatch delivered => if (shipmentOf α setup world baseUrl dispatch).isComplete then
      delivered.markAll dispatch.batch.keys else delivered) where
  logs _ _ := rfl
  candidates _ _ := rfl
  flush _ _ := rfl

@[simp] theorem shipmentOf_batch (dispatch : Dispatch PushKey DeliveredKeys) :
    (shipmentOf α setup world baseUrl dispatch).batch = dispatch.batch := rfl

/-- Keys that are marked along dispatches are those of complete shipments. -/
theorem contains_foldl_iff (sent : List (Dispatch PushKey DeliveredKeys))
    (delivered : DeliveredKeys) (key : PushKey) :
    (sent.foldl (fun delivered dispatch =>
      if (shipmentOf α setup world baseUrl dispatch).isComplete then
        delivered.markAll dispatch.batch.keys else delivered) delivered).contains key ↔
      delivered.contains key ∨ DeliveredBy key (sent.map (shipmentOf α setup world baseUrl)) := by
  induction sent generalizing delivered with
  | nil => simp [DeliveredBy]
  | cons dispatch rest ih =>
      rw [List.foldl_cons, ih, List.map_cons, deliveredBy_cons]
      by_cases hcomplete : (shipmentOf α setup world baseUrl dispatch).isComplete
      · rw [if_pos hcomplete, DeliveredKeys.contains_markAll, or_assoc]
        simp [hcomplete]
      · simp [hcomplete]

variable (items : List α) (filter : ScopeFilter) (state : Batch PushKey × Progress DeliveredKeys)

/-- What a cycle has marked at its end: what was marked before, and the keys of the complete
shipments since. -/
theorem keyed_contains_iff (key : PushKey) :
    ((keyedStream α setup world mode baseUrl).runFrom setup.limits filter world.now items
      state).memory.contains key ↔
    state.2.memory.contains key ∨ DeliveredBy key
      (((keyedStream α setup world mode baseUrl).dispatches setup.limits filter world.now items
        state).map (shipmentOf α setup world baseUrl)) := by
  rw [(keyed_tracks_memory.linked setup.limits filter world.now items state).finish_eq]
  exact contains_foldl_iff _ _ key

/-- What a cycle has marked when it sends a shipment. -/
theorem keyed_before_contains_iff {earlier later : List (Dispatch PushKey DeliveredKeys)}
    {dispatch : Dispatch PushKey DeliveredKeys}
    (hsent : (keyedStream α setup world mode baseUrl).dispatches setup.limits filter world.now items
      state = earlier ++ dispatch :: later) (key : PushKey) :
    dispatch.before.memory.contains key ↔ state.2.memory.contains key ∨
      DeliveredBy key (earlier.map (shipmentOf α setup world baseUrl)) := by
  have htracks : (keyedStream α setup world mode baseUrl).Tracks Progress.memory _ :=
    keyed_tracks_memory
  have hlinked := htracks.linked setup.limits filter world.now items state
  rw [hsent] at hlinked
  rw [hlinked.before_eq]
  exact contains_foldl_iff earlier _ key

/-- An item in scope is sent, or its key is marked at the latest when its turn comes. -/
theorem chosen_or_delivered {item : α} (hmem : item ∈ items)
    (hscope : (keyedStream α setup world mode baseUrl).admits filter item) :
    item ∈ (keyedStream α setup world mode baseUrl).chosen setup.limits filter world.now items
        state ∨
      ((keyedStream α setup world mode baseUrl).runFrom setup.limits filter world.now items
        state).memory.contains (Artifact.key item) := by
  induction items generalizing state with
  | nil => simp at hmem
  | cons first rest ih =>
      rw [Stream.chosen, Stream.runFrom_cons]
      rcases List.mem_cons.mp hmem with rfl | hrest
      · by_cases hchosen : (keyedStream α setup world mode baseUrl).chooses filter item
            state.2.memory
        · rw [if_pos hchosen]
          exact .inl List.mem_cons_self
        -- A key that is marked when the turn of its item comes stays marked to the end.
        · refine .inr ((keyed_contains_iff rest filter _ _).mpr (.inl ?_))
          have hknown : state.2.memory.contains (Artifact.key item) := by
            simp only [Stream.chooses, hscope, Bool.true_and] at hchosen
            simp only [keyedStream, Bool.not_eq_true, Bool.or_eq_false_iff,
              Bool.not_eq_eq_eq_not, Bool.not_false] at hchosen
            exact hchosen.2
          rw [Stream.take_eq, if_neg hchosen]
          exact hknown
      · rcases ih ((keyedStream α setup world mode baseUrl).take setup.limits filter world.now first
          state) hrest with hchosen | hknown
        · left
          split
          · exact List.mem_cons_of_mem _ hchosen
          · exact hchosen
        · exact .inr hknown

end Keyed

section Cycles

variable (α : Type) [KeyedArtifact α] (setup : Setup) (world : World) (mode : RunMode)
  (delivered : DeliveredKeys) (session : Session)

/-- A cycle sends nothing and marks nothing, or it goes through everything that it has fetched. -/
theorem keyedCycle_cases :
    (keyedShipments α setup world mode delivered session = [] ∧
      ∃ result fetches, (∀ summary, result ≠ .ok (.completed summary)) ∧
        keyedCycle α setup world mode delivered session =
          (result, delivered, { session with fetches })) ∨
    ∃ baseUrl items, KeyedArtifact.fetched world.sources = .ok items ∧
      let stream := keyedStream α setup world mode baseUrl
      let start := keyedStart α delivered session items
      let finish := stream.runFrom setup.limits session.switches.filter world.now items start
      keyedShipments α setup world mode delivered session =
        (stream.dispatches setup.limits session.switches.filter world.now items start).map
          (shipmentOf α setup world baseUrl) ∧
      keyedCycle α setup world mode delivered session =
        (.ok (.completed finish.summary), finish.memory, finish.session) := by
  rcases Stream.cycle_cases (Artifact.source α) delivered session
      (keyedStream α setup world mode) setup world (KeyedArtifact.fetched world.sources) with
    ⟨reason, hpreflight, hcycle⟩ | ⟨baseUrl, error, hpreflight, hfetched, hcycle⟩ |
      ⟨baseUrl, items, hpreflight, hfetched, hcycle⟩
  · refine .inl ⟨by rw [keyedShipments, hpreflight], _, session.fetches, ?_, hcycle⟩
    rintro summary ⟨⟩
  · refine .inl ⟨by rw [keyedShipments, hpreflight, hfetched], _, _, ?_, hcycle⟩
    rintro summary ⟨⟩
  · exact .inr ⟨baseUrl, items, hfetched, by rw [keyedShipments, hpreflight, hfetched], hcycle⟩

/-- The ledger grows by the shipments of a cycle and by nothing else. -/
theorem keyedCycle_ledger :
    (keyedCycle α setup world mode delivered session).2.2.ledger = session.ledger ++
      (keyedShipments α setup world mode delivered session).map Shipment.exchange := by
  rcases keyedCycle_cases α setup world mode delivered session with
    ⟨hnone, result, fetches, -, hcycle⟩ | ⟨baseUrl, items, -, hsent, hcycle⟩
  · simp [hnone, hcycle]
  · rw [hsent, hcycle, List.map_map]
    exact (keyed_tracks_ledger.linked setup.limits session.switches.filter world.now items
      _).entries_eq

/-- What is marked after a cycle is what was marked before, and the keys of the shipments that the
cluster took as a whole. -/
theorem keyedCycle_contains_iff (key : PushKey) :
    (keyedCycle α setup world mode delivered session).2.1.contains key ↔
      delivered.contains key ∨
        DeliveredBy key (keyedShipments α setup world mode delivered session) := by
  rcases keyedCycle_cases α setup world mode delivered session with
    ⟨hnone, result, fetches, -, hcycle⟩ | ⟨baseUrl, items, -, hsent, hcycle⟩
  · simp [hnone, hcycle, DeliveredBy]
  · rw [hsent, hcycle]
    exact keyed_contains_iff items session.switches.filter _ key

variable {α setup world mode delivered session}

/-- Every shipment of a cycle is sent by the reporter of its artifacts, with the documents of its
batch. -/
theorem keyedShipments_request {shipment : Shipment}
    (hmem : shipment ∈ keyedShipments α setup world mode delivered session) :
    ∃ baseUrl, shipment.exchange.request =
      (keyedTarget α baseUrl).request setup shipment.batch.documents := by
  rcases keyedCycle_cases α setup world mode delivered session with
    ⟨hnone, -⟩ | ⟨baseUrl, items, -, hsent, -⟩
  · rw [hnone] at hmem
    exact absurd hmem List.not_mem_nil
  · rw [hsent] at hmem
    obtain ⟨dispatch, -, rfl⟩ := List.mem_map.mp hmem
    exact ⟨baseUrl, rfl⟩

end Cycles

end SearchFeed
