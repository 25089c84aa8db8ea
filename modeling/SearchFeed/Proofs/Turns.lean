import Mathlib.Data.List.Perm.Subperm
import SearchFeed.Proofs.Footprint

/-! # Every document that waits gets its turn

A drain pass takes documents from the front of a queue and puts those that are
refused at its end. So a document that is refused again and again stands behind
all that have not been sent, and each pass comes to the next of those, whatever
is answered. Other parts of the export may go on meanwhile, as long as nothing
new is offered to the index.
-/

namespace SearchFeed

/-- The documents that an exchange of a drain pass sends to an index in one request. -/
def Exchange.retriedFor (index : String) (exchange : Exchange) : List Document :=
  match exchange.request.sender, exchange.request.payload with
  | .retry, .bulk documents => if exchange.request.index = index then documents else []
  | _, _ => []

/-- The documents that drain passes send to an index along exchanges, in order. -/
def retriedFor (index : String) (exchanges : List Exchange) : List Document :=
  exchanges.flatMap (Exchange.retriedFor index)

/-- What has become of documents that waited, once so many of them have had their turn: they were
sent in order, before any of them was sent again; the others wait in front in their order, and
nothing waits behind them that has not had its turn. -/
structure HadTurn (waiting : List Document) (turns : Nat) (sent queued : List Document) : Prop where
  sent_eq : ∃ again, sent = waiting.take turns ++ again ∧ (turns ≤ waiting.length → again = [])
  queued_eq : ∃ back, queued = waiting.drop turns ++ back ∧ back.Subperm (waiting.take turns)

namespace HadTurn

variable {waiting sent queued refused : List Document} {turns : Nat}

theorem start (waiting : List Document) : HadTurn waiting 0 [] waiting where
  sent_eq := ⟨[], by simp⟩
  queued_eq := ⟨[], by simp⟩

/-- The oldest documents are sent, and those that are refused go to the end. -/
theorem pass (hturn : HadTurn waiting turns sent queued) (count : Nat)
    (hrefused : refused.Sublist (queued.take count)) :
    HadTurn waiting (turns + count) (sent ++ queued.take count) (queued.drop count ++ refused) := by
  obtain ⟨again, hsent, hagain⟩ := hturn.sent_eq
  obtain ⟨back, hqueued, hback⟩ := hturn.queued_eq
  -- The pass goes on to documents that have been sent only where the others are too few.
  let beyond := count - (waiting.drop turns).length
  have htaken : queued.take count = (waiting.drop turns).take count ++ back.take beyond := by
    rw [hqueued, List.take_append]
  have hleft : queued.drop count = waiting.drop (turns + count) ++ back.drop beyond := by
    rw [hqueued, List.drop_append, List.drop_drop]
  have hturns : waiting.take (turns + count) =
      waiting.take turns ++ (waiting.drop turns).take count := List.take_add
  constructor
  · rcases Nat.lt_or_ge waiting.length turns with hall | hsome
    · have hdone : (waiting.drop turns).take count = [] := by
        rw [List.drop_eq_nil_of_le (Nat.le_of_lt hall), List.take_nil]
      refine ⟨again ++ back.take beyond, ?_, fun hle => absurd hle (by omega)⟩
      rw [hsent, htaken, hturns, hdone]
      simp
    · refine ⟨back.take beyond, ?_, ?_⟩
      · rw [hsent, hagain hsome, htaken, hturns]
        simp
      · intro hle
        have hzero : beyond = 0 := by
          simp only [beyond, List.length_drop]
          omega
        rw [hzero, List.take_zero]
  · have hswap : (back.drop beyond ++ ((waiting.drop turns).take count ++ back.take beyond)).Perm
        (back ++ (waiting.drop turns).take count) :=
      calc List.Perm (back.drop beyond ++ ((waiting.drop turns).take count ++ back.take beyond))
            ((waiting.drop turns).take count ++ back.take beyond ++ back.drop beyond) :=
            List.perm_append_comm
        _ = (waiting.drop turns).take count ++ back := by
            rw [List.append_assoc, List.take_append_drop]
        List.Perm _ (back ++ (waiting.drop turns).take count) := List.perm_append_comm
    refine ⟨back.drop beyond ++ refused, by rw [hleft, List.append_assoc], ?_⟩
    rw [hturns]
    have hrest := (List.subperm_append_left (back.drop beyond)).mpr (htaken ▸ hrefused.subperm)
    exact hrest.trans (hswap.subperm.trans (hback.append (List.Subperm.refl _)))

end HadTurn

namespace Session

variable (session : Session) (setup : Setup) (index : String)

/-- Of the exchanges of a pass, one at most is with the index. -/
theorem retriedFor_retryExchanges (baseUrl : String) (replies : String → BulkReply)
    (indexes : List String) (hnodup : indexes.Nodup) :
    retriedFor index (indexes.map fun other =>
      session.retryExchange setup baseUrl other (replies other)) =
        if index ∈ indexes then session.resent setup index else [] := by
  induction indexes with
  | nil => rfl
  | cons first rest ih =>
      obtain ⟨hnew, hrest⟩ := List.nodup_cons.mp hnodup
      change (if first = index then session.resent setup first else []) ++ retriedFor index _ = _
      rw [ih hrest]
      by_cases hfirst : first = index
      · subst hfirst
        simp [hnew]
      · simp [hfirst, Ne.symm hfirst]

/-- A pass sends the oldest documents of an index and puts what is refused behind the others. -/
theorem drainOnce_turn (world : World) {baseUrl : String} (hsound : session.queue.Sound)
    (hbatch : 1 ≤ setup.drainBatchSize) (hready : session.switches.destination = .ok baseUrl) :
    let after := (session.drainOnce setup world).2
    ∃ exchanges refused, after.ledger = session.ledger ++ exchanges ∧
      retriedFor index exchanges = session.resent setup index ∧
      refused.Sublist (session.resent setup index) ∧
      after.queue.documents index = session.untouched setup index ++ refused := by
  intro after
  obtain ⟨replies, hpass⟩ := session.redelivery_drainOnce world hsound hbatch hready
  refine ⟨_, _, hpass.ledger, ?_, BulkReply.refused_sublist _ _,
    hpass.documents_pending hsound index⟩
  rw [retriedFor_retryExchanges session setup index baseUrl replies _ hsound.pending_nodup]
  split
  · rfl
  next hidle =>
    have hnone : session.queue.documents index = [] :=
      not_not.mp (mt (hsound.mem_pending_iff index).mpr hidle)
    simp [Session.resent, hnone]

end Session

def Operation.isDrain : Operation → Bool
  | .drain => true
  | _ => false

theorem Operation.eq_drain {operation : Operation} (hdrain : operation.isDrain = true) :
    operation = .drain := by
  cases operation with
  | drain => rfl
  | cycle | record | forward | switch | scope => cases hdrain

namespace Pipeline

variable (setup : Setup) (index : String)

/-- Operations among which the documents of an index are left to be drained: every pass finds export
running with a base address, and nothing else changes what waits for the index. -/
def LeavesToDrain : Pipeline → List (World × Operation) → Prop
  | _, [] => True
  | pipeline, (world, operation) :: rest =>
    let after := (pipeline.perform setup world operation).2
    (if operation.isDrain then ∃ baseUrl, pipeline.session.switches.destination = .ok baseUrl
      else after.session.queue.documents index = pipeline.session.queue.documents index) ∧
    LeavesToDrain after rest

def passes (operations : List (World × Operation)) : Nat :=
  operations.countP fun step => step.2.isDrain

variable {setup index} {pipeline : Pipeline} {world : World} {operation : Operation}

/-- Only drain passes send documents of the retry queue. -/
theorem Sends.retriedFor_eq_nil {exchanges : List Exchange}
    (hsends : Sends setup world pipeline operation exchanges) (hother : operation.isDrain = false) :
    retriedFor index exchanges = [] := by
  apply List.flatMap_eq_nil_iff.mpr
  intro exchange hmem
  have hmade := hsends.made exchange hmem
  have hsender : exchange.request.sender ≠ .retry := by
    cases operation with
    | cycle reporter mode guard =>
        rw [hmade.1]
        cases reporter <;> nofun
    | record record hostInScope =>
        rw [hmade.1]
        nofun
    | drain => cases hother
    | forward =>
        rw [hmade.1]
        nofun
    | switch change => cases hmade
    | scope scope => cases hmade
  unfold Exchange.retriedFor
  split
  next hretry _ => exact absurd hretry hsender
  next => rfl

/-- An operation that leaves the rest to drain passes keeps the account of turns. -/
theorem perform_hadTurn {waiting sent : List Document} {turns : Nat}
    (hqueue : pipeline.session.queue.Reachable) (hbatch : 1 ≤ setup.drainBatchSize)
    (hleaves : LeavesToDrain setup index pipeline [(world, operation)])
    (hturn : HadTurn waiting turns sent (pipeline.session.queue.documents index)) :
    let after := (pipeline.perform setup world operation).2.session
    ∃ exchanges, after.ledger = pipeline.session.ledger ++ exchanges ∧
      HadTurn waiting (turns + passes [(world, operation)] * setup.drainBatchSize)
        (sent ++ retriedFor index exchanges) (after.queue.documents index) := by
  intro after
  obtain ⟨hleft, -⟩ := hleaves
  cases hdrain : operation.isDrain with
  | true =>
      obtain rfl := Operation.eq_drain hdrain
      obtain ⟨baseUrl, hready⟩ := hleft
      obtain ⟨exchanges, refused, hledger, hsent, hrefused, hqueued⟩ :=
        pipeline.session.drainOnce_turn setup index world hqueue.sound hbatch hready
      refine ⟨exchanges, hledger, ?_⟩
      have hone : passes [(world, .drain)] = 1 := rfl
      rw [hone, Nat.one_mul, hsent, show after.queue.documents index = _ from hqueued]
      exact hturn.pass setup.drainBatchSize hrefused
  | false =>
      obtain ⟨exchanges, hsends⟩ : ∃ exchanges, Sends setup world pipeline operation exchanges :=
        perform_sends operation hqueue
      refine ⟨exchanges, hsends.ledger, ?_⟩
      have hnone : passes [(world, operation)] = 0 := by simp [passes, hdrain]
      rw [if_neg (by simp [hdrain])] at hleft
      rw [hnone, Nat.zero_mul, Nat.add_zero, hsends.retriedFor_eq_nil hdrain, List.append_nil]
      exact hleft ▸ hturn

/-- So does every list of operations. -/
theorem performAll_hadTurn {waiting sent : List Document} {turns : Nat}
    (operations : List (World × Operation)) (hqueue : pipeline.session.queue.Reachable)
    (hbatch : 1 ≤ setup.drainBatchSize) (hleaves : LeavesToDrain setup index pipeline operations)
    (hturn : HadTurn waiting turns sent (pipeline.session.queue.documents index)) :
    let after := (pipeline.performAll setup operations).session
    ∃ exchanges, after.ledger = pipeline.session.ledger ++ exchanges ∧
      HadTurn waiting (turns + passes operations * setup.drainBatchSize)
        (sent ++ retriedFor index exchanges) (after.queue.documents index) := by
  induction operations generalizing pipeline sent turns with
  | nil =>
      refine ⟨[], (List.append_nil _).symm, ?_⟩
      simpa [passes, retriedFor, performAll] using hturn
  | cons step rest ih =>
      obtain ⟨world, operation⟩ := step
      obtain ⟨first, hfirst, hmiddle⟩ := perform_hadTurn hqueue hbatch ⟨hleaves.1, trivial⟩ hturn
      obtain ⟨more, hmore, hlast⟩ := ih (perform_reachable operation hqueue) hleaves.2 hmiddle
      refine ⟨first ++ more, ?_, ?_⟩
      · rw [← List.append_assoc, ← hfirst]
        exact hmore
      · have hpasses : passes ((world, operation) :: rest) =
            passes [(world, operation)] + passes rest :=
          @List.countP_append _ _ [(world, operation)] rest
        rw [hpasses, Nat.add_mul, ← Nat.add_assoc, retriedFor, List.flatMap_append,
          ← List.append_assoc]
        exact hlast

/-- However often and in whatever way requests are refused, as long as nothing new is offered to an
index, each drain pass comes to the documents next in line: those that have not been sent wait in
front in their order, and after as many passes as it takes to go through the queue once, every
document that waited has been sent in a request. -/
theorem every_document_gets_its_turn (setup : Setup) (start : Pipeline) (index : String)
    (operations : List (World × Operation)) (hqueue : start.session.queue.Reachable)
    (hbatch : 1 ≤ setup.drainBatchSize) (hleaves : LeavesToDrain setup index start operations) :
    let after := (start.performAll setup operations).session
    let waiting := start.session.queue.documents index
    let sent := retriedFor index (start.session.exchangesSince after)
    HadTurn waiting (passes operations * setup.drainBatchSize) sent
      (after.queue.documents index) ∧
    ((waiting.length + setup.drainBatchSize - 1) / setup.drainBatchSize ≤ passes operations →
      waiting <+: sent) := by
  intro after waiting sent
  obtain ⟨exchanges, hledger, hturn⟩ :=
    performAll_hadTurn operations hqueue hbatch hleaves (HadTurn.start waiting)
  rw [Nat.zero_add, List.nil_append, ← Session.exchangesSince_eq hledger] at hturn
  refine ⟨hturn, ?_⟩
  intro hpasses
  have hall : waiting.length ≤ passes operations * setup.drainBatchSize := by
    have hround := (Nat.div_le_iff_le_mul_add_pred hbatch).mp hpasses
    rw [Nat.mul_comm]
    omega
  obtain ⟨again, hsent, -⟩ := hturn.sent_eq
  rw [List.take_of_length_le hall] at hsent
  exact ⟨again, hsent.symm⟩

/-- Three documents, of which the first is refused every time and the second pass fails as a
whole; between the passes export goes to another address. -/
theorem every_document_gets_its_turn_refused :
    let setup : Setup := { naming := ⟨"a"⟩, drainBatchSize := 2 }
    let refusing := World.rehearsed ⟨[], .reject [0]⟩ {}
    let failing := World.rehearsed ⟨[], .fail "down"⟩ {}
    let queue := ((RetryQueue.ofCapacity 3).offerAll "b" [.null, .bool true, .int 7]).2
    let start : Pipeline := { session := .fresh queue }
    let operations : List (World × Operation) := [(refusing, .drain),
      (refusing, .switch fun switches => { switches with baseUrl := some "http://b.test" }),
      (failing, .drain)]
    let after := (start.performAll setup operations).session
    LeavesToDrain setup "b" start operations ∧
      (start.session.queue.documents "b").length = 3 ∧ passes operations = 2 ∧
      [.null, .bool true, .int 7] <+: retriedFor "b" (start.session.exchangesSince after) := by
  intro setup refusing failing queue start operations after
  have hqueue : start.session.queue.Reachable := (RetryQueue.Reachable.start 3).offerAll _ _
  have hready : start.session.switches.destination = .ok "http://search.test" := rfl
  obtain ⟨_, hpass⟩ :=
    @Session.redelivery_drainOnce start.session setup _ refusing hqueue.sound (by decide) hready
  have hleaves : LeavesToDrain setup "b" start operations := by
    refine ⟨⟨_, hready⟩, rfl, ⟨"http://b.test", ?_⟩, trivial⟩
    change Switches.destination { (start.session.drainOnce setup refusing).2.switches with
      baseUrl := some "http://b.test" } = _
    rw [hpass.switches]
    rfl
  have hturn := every_document_gets_its_turn setup start "b" operations hqueue (by decide) hleaves
  exact ⟨hleaves, rfl, rfl, hturn.2 (by decide)⟩

end Pipeline

end SearchFeed
