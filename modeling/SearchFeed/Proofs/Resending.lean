import SearchFeed.Proofs.KeyedRun

/-! # Which documents are sent again

An incremental cycle looks at the marks before a document is handed to the
batches, and a document that displaces the pending batch has that batch sent,
and its keys marked, before its own turn to be sent comes. So a document whose
key is marked by then is the first of its batch, and it has itself displaced a
batch that held the same key and was taken as a whole. No other document is
sent again.
-/

namespace SearchFeed

/-- A shipment that was taken, and a further document for one of its keys that displaced it. -/
structure Shipment.RepeatedBy (limits : BatchLimits) (shipment : Shipment) (key : PushKey)
    (document : Document) : Prop where
  complete : shipment.isComplete
  mem_keys : key ∈ shipment.batch.keys
  overflows : shipment.batch.overflows limits document

/-- The keys of a batch are not marked, unless its first document repeats what it displaced. -/
def NewAfter (limits : BatchLimits) (last : Option Shipment) (marked : DeliveredKeys)
    (batch : Batch PushKey) : Prop :=
  ∀ place key document, batch.entries[place]? = some (key, document) → marked.contains key →
    place = 0 ∧ ∃ shipment, last = some shipment ∧ shipment.RepeatedBy limits key document

section Batches

variable {limits : BatchLimits} {last : Option Shipment} {marked : DeliveredKeys}
  {batch : Batch PushKey} {key : PushKey} {document : Document}

theorem newAfter_empty : NewAfter limits last marked Batch.empty := by
  intro place key document hentry
  simp [Batch.empty] at hentry

/-- A batch stays new when it takes an item that is not marked. -/
theorem NewAfter.add (hbatch : NewAfter limits last marked batch)
    (hunmarked : ¬marked.contains key) :
    NewAfter limits last marked (batch.add key document) := by
  intro place other content hentry hmarked
  change (batch.entries ++ [(key, document)])[place]? = some (other, content) at hentry
  rw [List.getElem?_append] at hentry
  split at hentry
  next hold => exact hbatch place other content hentry hmarked
  next hnew =>
    obtain ⟨rfl, rfl⟩ := Prod.mk.inj (List.mem_singleton.mp (List.mem_of_getElem? hentry))
    exact absurd hmarked hunmarked

end Batches

section Keyed

variable (α : Type) [KeyedArtifact α] (setup : Setup) (world : World) (baseUrl : String)

def lastShipment (last : Option Shipment) (sent : List (Dispatch PushKey DeliveredKeys)) :
    Option Shipment :=
  (sent.map (shipmentOf α setup world baseUrl)).getLast?.or last

/-- Dispatches each of which sends new keys, given the shipment before it. -/
def Renewing : Option Shipment → List (Dispatch PushKey DeliveredKeys) → Prop
  | _, [] => True
  | last, dispatch :: rest =>
    NewAfter setup.limits last dispatch.before.memory dispatch.batch ∧
      Renewing (some (shipmentOf α setup world baseUrl dispatch)) rest

variable {last : Option Shipment} {pending : Batch PushKey} {progress : Progress DeliveredKeys}

/-- A document joins a batch of new keys, whether it displaces the pending one or not. -/
theorem NewAfter.joined {key : PushKey} (document : Document)
    (hpending : NewAfter setup.limits last progress.memory pending)
    (hunmarked : ¬progress.memory.contains key) :
    let stream := keyedStream α setup world .incremental baseUrl
    let displaced := if pending.overflows setup.limits document then [pending] else []
    Renewing α setup world baseUrl last (stream.dispatchesOf displaced progress) ∧
      NewAfter setup.limits
        (lastShipment α setup world baseUrl last (stream.dispatchesOf displaced progress))
        (stream.flushAll displaced progress).memory
        (pending.joined setup.limits key document) := by
  intro stream displaced
  by_cases hoverflow : pending.overflows setup.limits document
  · have hdisplaced : displaced = [pending] := if_pos hoverflow
    rw [hdisplaced, Batch.joined, if_pos hoverflow]
    refine ⟨⟨hpending, trivial⟩, ?_⟩
    intro place other content hentry hmarked
    obtain ⟨rfl, rfl⟩ := Prod.mk.inj (List.mem_singleton.mp (List.mem_of_getElem? hentry))
    have hplace : place = 0 := by
      have hlt := (List.getElem?_eq_some_iff.mp hentry).1
      simpa [Batch.add, Batch.empty] using hlt
    -- The key was not marked when the item was decided upon, so sending what it displaced did it.
    refine ⟨hplace, _, rfl, ?_⟩
    change (stream.flush pending progress).memory.contains other at hmarked
    rw [keyed_tracks_memory.flush] at hmarked
    split at hmarked
    next hcomplete =>
      have hkeys := (DeliveredKeys.contains_markAll _ _ _).mp hmarked
      exact ⟨hcomplete, hkeys.resolve_left hunmarked, hoverflow⟩
    next => exact absurd hmarked hunmarked
  · have hdisplaced : displaced = [] := if_neg hoverflow
    rw [hdisplaced, Batch.joined, if_neg hoverflow]
    exact ⟨trivial, hpending.add hunmarked⟩

variable {α setup world baseUrl} {filter : ScopeFilter}

theorem lastShipment_cons (dispatch : Dispatch PushKey DeliveredKeys)
    (rest : List (Dispatch PushKey DeliveredKeys)) :
    lastShipment α setup world baseUrl last (dispatch :: rest) =
      lastShipment α setup world baseUrl (some (shipmentOf α setup world baseUrl dispatch))
        rest := by
  unfold lastShipment
  rw [List.map_cons, List.getLast?_cons]
  cases (rest.map (shipmentOf α setup world baseUrl)).getLast? <;> rfl

/-- A list of dispatches renews when its two parts do, the second from where the first left off. -/
theorem renewing_append (earlier later : List (Dispatch PushKey DeliveredKeys)) :
    Renewing α setup world baseUrl last (earlier ++ later) ↔
      Renewing α setup world baseUrl last earlier ∧
        Renewing α setup world baseUrl (lastShipment α setup world baseUrl last earlier) later := by
  induction earlier generalizing last with
  | nil => exact (and_iff_right trivial).symm
  | cons dispatch rest ih =>
      rw [List.cons_append, Renewing, Renewing, ih, and_assoc, lastShipment_cons]

/-- Pushing a document whose key is not marked sends new keys and leaves new ones pending. -/
theorem NewAfter.push {key : PushKey} (document : Document)
    (hpending : NewAfter setup.limits last progress.memory pending)
    (hunmarked : ¬progress.memory.contains key) :
    let stream := keyedStream α setup world .incremental baseUrl
    let pushed := pending.push setup.limits key document
    Renewing α setup world baseUrl last (stream.dispatchesOf pushed.1 progress) ∧
      NewAfter setup.limits
        (lastShipment α setup world baseUrl last (stream.dispatchesOf pushed.1 progress))
        (stream.flushAll pushed.1 progress).memory pushed.2 := by
  intro stream pushed
  obtain ⟨hdisplaced, hjoined⟩ := hpending.joined α setup world baseUrl document hunmarked
  by_cases hfull : (pending.joined setup.limits key document).isFull setup.limits
  -- A full batch goes out after the displaced one, and nothing is pending then.
  · have hpushed := (pending.push_eq setup.limits key document).trans (if_pos hfull)
    simp only [pushed, hpushed, Stream.dispatchesOf_append, renewing_append]
    exact ⟨⟨hdisplaced, hjoined, trivial⟩, newAfter_empty⟩
  · have hpushed := (pending.push_eq setup.limits key document).trans (if_neg hfull)
    simp only [pushed, hpushed]
    exact ⟨hdisplaced, hjoined⟩

/-- What an item sends in its turn has new keys, and so has the batch that is pending then. -/
theorem NewAfter.take (item : α) (hpending : NewAfter setup.limits last progress.memory pending) :
    let stream := keyedStream α setup world .incremental baseUrl
    let sent := stream.dispatchesAt setup.limits filter world.now item (pending, progress)
    let after := stream.take setup.limits filter world.now item (pending, progress)
    Renewing α setup world baseUrl last sent ∧
      NewAfter setup.limits (lastShipment α setup world baseUrl last sent) after.2.memory
        after.1 := by
  intro stream sent after
  have htake : after = _ := stream.take_eq setup.limits filter world.now item pending progress
  by_cases hchosen : stream.chooses filter item progress.memory
  · have hunmarked : ¬progress.memory.contains (Artifact.key item) := by
      simpa [stream, keyedStream] using (Bool.and_eq_true_iff.mp hchosen).2
    have hsent : sent = _ := if_pos hchosen
    rw [htake, if_pos hchosen, hsent]
    -- Counting an item touches no mark, so nothing has changed since the decision.
    rw [← keyed_tracks_memory.counted filter world.now item progress] at hpending hunmarked
    exact hpending.push (stream.document item) hunmarked
  · have hsent : sent = [] := if_neg hchosen
    rw [htake, if_neg hchosen, hsent]
    rw [← keyed_tracks_memory.decided filter world.now item progress] at hpending
    exact ⟨trivial, hpending⟩

/-- A whole incremental cycle sends new keys only, but for documents that displace a batch. -/
theorem renewing_dispatches (filter : ScopeFilter) (items : List α)
    (state : Batch PushKey × Progress DeliveredKeys)
    (hpending : NewAfter setup.limits last state.2.memory state.1) :
    Renewing α setup world baseUrl last
      ((keyedStream α setup world .incremental baseUrl).dispatches setup.limits filter world.now
        items state) := by
  induction items generalizing last state with
  | nil =>
      unfold Stream.dispatches Batch.finish
      split
      · trivial
      · exact ⟨hpending, trivial⟩
  | cons item rest ih =>
      obtain ⟨hsent, hafter⟩ := hpending.take item
      exact (renewing_append _ _).mpr ⟨hsent, ih _ hafter⟩

/-- In an incremental cycle, a document has its key marked by the time it is sent exactly if it is
the first of its batch and repeats what it has displaced. -/
theorem marked_iff_displaced (delivered : DeliveredKeys) (session : Session)
    {earlier later : List Shipment} {shipment : Shipment}
    (hsent : keyedShipments α setup world .incremental delivered session =
      earlier ++ shipment :: later) {place : Nat} {key : PushKey} {document : Document}
    (hentry : shipment.batch.entries[place]? = some (key, document)) :
    delivered.contains key ∨ DeliveredBy key earlier ↔
      place = 0 ∧ ∃ displaced, earlier.getLast? = some displaced ∧
        displaced.RepeatedBy setup.limits key document := by
  rcases keyedCycle_cases α setup world .incremental delivered session with
    ⟨hnone, -⟩ | ⟨baseUrl, items, -, hdispatches, -⟩
  · rw [hnone] at hsent
    exact absurd hsent (by simp)
  · let start := keyedStart α delivered session items
    obtain ⟨before, rest, hsplit, rfl, hrest⟩ :=
      List.map_eq_append_iff.mp (hdispatches.symm.trans hsent)
    obtain ⟨dispatch, after, rfl, rfl, -⟩ := List.map_eq_cons_iff.mp hrest
    have hnew : NewAfter setup.limits (lastShipment α setup world baseUrl none before)
        dispatch.before.memory dispatch.batch := by
      have hrenewing : Renewing α setup world baseUrl none _ :=
        renewing_dispatches session.switches.filter items start newAfter_empty
      rw [hsplit, renewing_append] at hrenewing
      exact hrenewing.2.1
    have hmarks : dispatch.before.memory.contains key ↔ delivered.contains key ∨
        DeliveredBy key (before.map (shipmentOf α setup world baseUrl)) :=
      keyed_before_contains_iff items session.switches.filter start hsplit key
    rw [← hmarks]
    constructor
    · intro hmarked
      simpa [lastShipment] using hnew place key document hentry hmarked
    · rintro ⟨-, displaced, hlast, hrepeated⟩
      exact hmarks.mpr (.inr ⟨displaced, List.mem_of_getLast? hlast, hrepeated.complete,
        hrepeated.mem_keys⟩)

end Keyed

/-- After any run, an incremental cycle sends a document whose key an earlier request of the run
has delivered exactly if the document is the first of its batch and has itself displaced the batch
before it, which held the same key and was taken as a whole. -/
theorem KeyedRun.resent_iff_displaced (α : Type) [KeyedArtifact α] (setup : Setup)
    (start : Session) (turns : List (Turn (Artifact.source α))) (next : Turn (Artifact.source α)) :
    let run := KeyedRun.play α setup { session := start } turns
    let sent := run.sentIn α setup next
    (run.turn α setup next).session.ledger =
      (next.between run.session).ledger ++ sent.map Shipment.exchange ∧
    (next.mode = .incremental → ∀ earlier shipment later, sent = earlier ++ shipment :: later →
      ∀ place key document, shipment.batch.entries[place]? = some (key, document) →
        (DeliveredBy key (run.shipments ++ earlier) ↔
          place = 0 ∧ ∃ displaced, earlier.getLast? = some displaced ∧
            displaced.RepeatedBy setup.limits key document)) := by
  intro run sent
  have hrun : run.Sound α start := (sound_start α start).play α setup turns
  constructor
  · exact keyedCycle_ledger α setup next.world next.mode run.delivered _
  · intro hmode earlier shipment later hsent place key document hentry
    have hcycle : keyedShipments α setup next.world .incremental run.delivered
        (next.between run.session) = earlier ++ shipment :: later := by
      rw [← hmode]
      exact hsent
    rw [deliveredBy_append, ← hrun.marked]
    exact marked_iff_displaced run.delivered _ hcycle hentry

/-- Two copies of an entry of the site map that do not fit into one batch, and a cluster that takes
everything: the second copy displaces the first, which is marked before the second is sent. -/
theorem KeyedRun.resent_iff_displaced_two_copies :
    let entry : SitemapEntry := ⟨"http://a.test/", "GET", none, none, none⟩
    let setup : Setup := { naming := ⟨"a"⟩, limits := ⟨100, 300⟩ }
    let world := World.rehearsed ⟨[], .succeed⟩ { sitemap := .ok [entry, entry] }
    let next : Turn .sitemap := .immediate world .incremental
    let run : KeyedRun := { session := Session.fresh (.ofCapacity 0) }
    next.mode = .incremental ∧ ∃ first second,
      run.sentIn SitemapEntry setup next = [first, second] ∧
      second.batch.entries[0]? = some (Artifact.key entry, Artifact.document world.now entry) ∧
      DeliveredBy (Artifact.key entry) [first] := by
  intro entry setup world next run
  obtain ⟨first, second, hsent, hentry, hrepeated⟩ : ∃ first second,
      run.sentIn SitemapEntry setup next = [first, second] ∧
      second.batch.entries[0]? = some (Artifact.key entry, Artifact.document world.now entry) ∧
      first.RepeatedBy setup.limits (Artifact.key entry) (Artifact.document world.now entry) := by
    dsimp only [entry, setup, world, next, run]
    exact ⟨_, _, rfl, rfl, rfl, List.mem_singleton.mpr rfl, by decide⟩
  have hagain := ((resent_iff_displaced SitemapEntry setup run.session [] next).2 rfl [first] second
    [] hsent 0 _ _ hentry).mpr ⟨rfl, first, rfl, hrepeated⟩
  exact ⟨rfl, first, second, hsent, hentry, hagain⟩

end SearchFeed
