import SearchFeed.Proofs.Keyed

/-! # Runs of a keyed reporter

A run is made of cycles in any modes and in any worlds. Between two of them
everything about the session may change, its switches and its scope included,
and the other parts of the export may send what they like in their own names.
-/

namespace SearchFeed

/-- A cycle of a run, and what happens to the session before it. -/
structure Turn (source : DataSource) where
  between : Session → Session
  world : World
  mode : RunMode
  /-- Between cycles, nothing is sent in the name of the reporter itself. -/
  grows (session : Session) : ∃ others, (between session).ledger = session.ledger ++ others ∧
    ∀ exchange ∈ others, exchange.request.sender ≠ .source source

/-- A cycle right after the one before it. -/
def Turn.immediate {source : DataSource} (world : World) (mode : RunMode) : Turn source where
  between := id
  world
  mode
  grows session := ⟨[], (List.append_nil _).symm, by simp⟩

/-- A keyed reporter after some cycles, with all that it has sent. -/
structure KeyedRun where
  session : Session
  delivered : DeliveredKeys := .empty
  shipments : List Shipment := []

namespace KeyedRun

variable (α : Type) [KeyedArtifact α] (setup : Setup)

def sentIn (run : KeyedRun) (turn : Turn (Artifact.source α)) : List Shipment :=
  keyedShipments α setup turn.world turn.mode run.delivered (turn.between run.session)

def cycleIn (run : KeyedRun) (turn : Turn (Artifact.source α)) :
    CycleResult × DeliveredKeys × Session :=
  keyedCycle α setup turn.world turn.mode run.delivered (turn.between run.session)

def turn (run : KeyedRun) (turn : Turn (Artifact.source α)) : KeyedRun where
  session := (run.cycleIn α setup turn).2.2
  delivered := (run.cycleIn α setup turn).2.1
  shipments := run.shipments ++ run.sentIn α setup turn

def play (run : KeyedRun) (turns : List (Turn (Artifact.source α))) : KeyedRun :=
  turns.foldl (fun run next => run.turn α setup next) run

/-- Whether an exchange is one of the reporter itself. -/
def isOwn (exchange : Exchange) : Bool := exchange.request.sender = .source (Artifact.source α)

/-- What holds after every cycle of a run that began with nothing marked. -/
structure Sound (start : Session) (run : KeyedRun) : Prop where
  marked (key : PushKey) : run.delivered.contains key ↔ DeliveredBy key run.shipments
  ledger : ∃ exchanges, run.session.ledger = start.ledger ++ exchanges ∧
    exchanges.filter (isOwn α) = run.shipments.map Shipment.exchange

variable {start : Session} {run : KeyedRun}

/-- What a turn ships goes out under its reporter's own sender. -/
theorem isOwn_of_mem_sentIn (next : Turn (Artifact.source α)) {shipment : Shipment}
    (hmem : shipment ∈ run.sentIn α setup next) : isOwn α shipment.exchange = true := by
  obtain ⟨baseUrl, hrequest⟩ := keyedShipments_request hmem
  rw [isOwn, hrequest]
  exact decide_eq_true rfl

/-- One more cycle keeps the marks and the ledger in step with what was sent. -/
theorem Sound.turn (hsound : run.Sound α start) (next : Turn (Artifact.source α)) :
    (run.turn α setup next).Sound α start := by
  constructor
  · intro key
    refine (keyedCycle_contains_iff α setup next.world next.mode run.delivered _ key).trans ?_
    rw [hsound.marked]
    exact (deliveredBy_append key _ _).symm
  · obtain ⟨exchanges, hledger, hown⟩ := hsound.ledger
    obtain ⟨others, hgrown, hothers⟩ := next.grows run.session
    refine ⟨exchanges ++ (others ++ (run.sentIn α setup next).map Shipment.exchange), ?_, ?_⟩
    · refine (keyedCycle_ledger α setup next.world next.mode run.delivered _).trans ?_
      rw [hgrown, hledger, List.append_assoc, List.append_assoc]
      rfl
    -- Of what the ledger has gained, the shipments of this cycle are the reporter's own.
    · have hnone : others.filter (isOwn α) = [] := by
        apply List.filter_eq_nil_iff.mpr
        intro exchange hmem
        simpa [isOwn] using hothers exchange hmem
      have hall : ((run.sentIn α setup next).map Shipment.exchange).filter (isOwn α) =
          (run.sentIn α setup next).map Shipment.exchange := by
        apply List.filter_eq_self.mpr
        intro exchange hmem
        obtain ⟨shipment, hshipment, rfl⟩ := List.mem_map.mp hmem
        exact isOwn_of_mem_sentIn α setup next hshipment
      rw [List.filter_append, List.filter_append, hnone, hall, hown, List.nil_append]
      exact List.map_append.symm

/-- The accounts of a keyed run stay sound over any turns. -/
theorem Sound.play (hsound : run.Sound α start) (turns : List (Turn (Artifact.source α))) :
    (run.play α setup turns).Sound α start := by
  induction turns generalizing run with
  | nil => exact hsound
  | cons next rest ih => exact ih (hsound.turn α setup next)

theorem sound_start (session : Session) : Sound α session { session } where
  marked key := by simp [DeliveredBy, DeliveredKeys.empty, DeliveredKeys.contains]
  ledger := ⟨[], by simp, rfl⟩

end KeyedRun

end SearchFeed
