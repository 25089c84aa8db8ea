import Mathlib.Algebra.Order.Group.Multiset
import SearchFeed.Proofs.RetryQueue
import SearchFeed.Proofs.Session

/-! # Where documents for the traffic index go

Documents reach the traffic index for the first time from live messages and
from recorded ones, and again from the retry queue. What a stretch of work does
to them is a flow: those that waited and those that failed on the way in are
those that wait now, those that were delivered late and those that found no
room. Flows follow each other.
-/

namespace SearchFeed

/-- Documents wait for no other index than the given one. -/
structure RetryQueue.HoldsOnly (queue : RetryQueue) (index : String) : Prop where
  sound : queue.Sound
  others (other : String) : other ≠ index → queue.documents other = []

namespace RetryQueue.HoldsOnly

variable {queue : RetryQueue} {index : String}

theorem offerAll (hholds : queue.HoldsOnly index) (documents : List Document) :
    (queue.offerAll index documents).2.HoldsOnly index where
  sound := hholds.sound.offerAll index documents
  others other hother := by
    rw [documents_offerAll, if_neg hother]
    exact hholds.others other hother

/-- With documents for one index only, that index is pending or none is. -/
theorem pending_eq (hholds : queue.HoldsOnly index) :
    queue.pending = if queue.documents index = [] then [] else [index] := by
  have hmem (other : String) : other ∈ queue.pending ↔ queue.documents other ≠ [] :=
    hholds.sound.mem_pending_iff other
  have honly : ∀ other ∈ queue.pending, other = index := by
    intro other hpending
    by_contra hother
    exact (hmem other).mp hpending (hholds.others other hother)
  split
  next hempty =>
    apply List.eq_nil_iff_forall_not_mem.mpr
    intro other hpending
    obtain rfl := honly other hpending
    exact (hmem other).mp hpending hempty
  next hwaits =>
    have hnodup := hholds.sound.pending_nodup
    have hpending := (hmem index).mpr hwaits
    generalize queue.pending = names at *
    cases names with
    | nil => exact absurd hpending List.not_mem_nil
    | cons first rest =>
        obtain rfl := honly first List.mem_cons_self
        have hrest : rest = [] := by
          apply List.eq_nil_iff_forall_not_mem.mpr
          intro other hother
          obtain rfl := honly other (List.mem_cons_of_mem _ hother)
          exact (List.nodup_cons.mp hnodup).1 hother
        rw [hrest]

end RetryQueue.HoldsOnly

/-- Whether an exchange sends documents to the traffic index for the first time. -/
def Exchange.isFirst (setup : Setup) (exchange : Exchange) : Bool :=
  exchange.request.index = setup.naming.name .traffic && exchange.request.sender ≠ .retry

/-- Whether an exchange sends documents to the traffic index again. -/
def Exchange.isAgain (setup : Setup) (exchange : Exchange) : Bool :=
  exchange.request.index = setup.naming.name .traffic && exchange.request.sender = .retry

/-- The documents whose first send to the traffic index failed. -/
def firstFailures (setup : Setup) (exchanges : List Exchange) : List Document :=
  (exchanges.filter (Exchange.isFirst setup)).flatMap Exchange.refused

/-- The documents that the traffic index took when they were sent again. -/
def redelivered (setup : Setup) (exchanges : List Exchange) : List Document :=
  (exchanges.filter (Exchange.isAgain setup)).flatMap Exchange.accepted

/-- What of a session has to do with documents for the traffic index. -/
@[ext] structure Tally where
  queue : RetryQueue
  ledger : List Exchange
  failures : UInt64

def Tally.waiting (tally : Tally) (setup : Setup) : List Document :=
  tally.queue.documents (setup.naming.name .traffic)

/-- A stretch of work in which some exchanges were made and some documents found no room. -/
structure Flow (setup : Setup) (before : Tally) (exchanges : List Exchange)
    (turnedAway : List Document) (after : Tally) : Prop where
  ledger : after.ledger = before.ledger ++ exchanges
  holds : after.queue.HoldsOnly (setup.naming.name .traffic)
  balance : (before.waiting setup : Multiset Document) + (firstFailures setup exchanges) =
    after.waiting setup + (redelivered setup exchanges) + turnedAway
  failures : after.failures = before.failures + .ofNat (firstFailures setup exchanges).length

section Flowing

variable {setup : Setup} {before middle after : Tally}

/-- The first failures of two lists of exchanges are those of the first and then of the second. -/
theorem firstFailures_append (first second : List Exchange) :
    firstFailures setup (first ++ second) =
      firstFailures setup first ++ firstFailures setup second := by
  simp [firstFailures]

/-- What two lists of exchanges redeliver is what the first does and then the second. -/
theorem redelivered_append (first second : List Exchange) :
    redelivered setup (first ++ second) =
      redelivered setup first ++ redelivered setup second := by
  simp [redelivered]

/-- Nothing is sent and nothing lost, and what waits stays the same. -/
theorem Flow.still (hledger : after.ledger = before.ledger)
    (hholds : after.queue.HoldsOnly (setup.naming.name .traffic))
    (hwaiting : after.waiting setup = before.waiting setup)
    (hfailures : after.failures = before.failures) : Flow setup before [] [] after where
  ledger := by rw [hledger, List.append_nil]
  holds := hholds
  balance := by simp [hwaiting, firstFailures, redelivered]
  failures := by simp [hfailures, firstFailures]

theorem Flow.refl (hholds : before.queue.HoldsOnly (setup.naming.name .traffic)) :
    Flow setup before [] [] before :=
  .still rfl hholds rfl rfl

/-- Two stretches of work, one after the other. -/
theorem Flow.trans {first second : List Exchange} {lost more : List Document}
    (hfirst : Flow setup before first lost middle) (hsecond : Flow setup middle second more after) :
    Flow setup before (first ++ second) (lost ++ more) after where
  ledger := by rw [hsecond.ledger, hfirst.ledger, List.append_assoc]
  holds := hsecond.holds
  balance := by
    rw [firstFailures_append, redelivered_append, ← Multiset.coe_add, ← Multiset.coe_add,
      ← Multiset.coe_add, ← add_assoc, hfirst.balance]
    calc (middle.waiting setup : Multiset Document) + redelivered setup first + lost +
          firstFailures setup second
        = middle.waiting setup + firstFailures setup second +
            (redelivered setup first + lost) := by ac_rfl
      _ = after.waiting setup + redelivered setup second + more +
            (redelivered setup first + lost) := by rw [hsecond.balance]
      _ = after.waiting setup + (redelivered setup first + redelivered setup second) +
            (lost + more) := by ac_rfl
  failures := by
    rw [hsecond.failures, hfirst.failures, firstFailures_append, List.length_append,
      UInt64.ofNat_add, UInt64.add_assoc]

/-- Exchanges with other indexes do nothing to documents for the traffic index. -/
theorem Flow.aside {exchanges : List Exchange}
    (hholds : before.queue.HoldsOnly (setup.naming.name .traffic))
    (helsewhere : ∀ exchange ∈ exchanges,
      exchange.request.index ≠ setup.naming.name .traffic) :
    Flow setup before exchanges [] { before with ledger := before.ledger ++ exchanges } := by
  have hnone {test : Exchange → Bool}
      (htest : ∀ exchange, test exchange → exchange.request.index = setup.naming.name .traffic) :
      exchanges.filter test = [] := by
    apply List.filter_eq_nil_iff.mpr
    intro exchange hmem hpasses
    exact helsewhere exchange hmem (htest exchange hpasses)
  have hfirst : firstFailures setup exchanges = [] := by
    rw [firstFailures, hnone (by simp +contextual [Exchange.isFirst]), List.flatMap_nil]
  have hagain : redelivered setup exchanges = [] := by
    rw [redelivered, hnone (by simp +contextual [Exchange.isAgain]), List.flatMap_nil]
  constructor
  · rfl
  · exact hholds
  · simp [hfirst, hagain, Tally.waiting]
  · simp [hfirst]

theorem firstFailures_singleton {exchange : Exchange} (hfirst : exchange.isFirst setup) :
    firstFailures setup [exchange] = exchange.refused := by
  simp [firstFailures, hfirst]

/-- An exchange that sends documents for the first time does not send them again. -/
theorem redelivered_singleton {exchange : Exchange} (hfirst : exchange.isFirst setup) :
    redelivered setup [exchange] = [] := by
  have hagain : exchange.isAgain setup = false := by
    unfold Exchange.isFirst at hfirst
    unfold Exchange.isAgain
    have hsender := (Bool.and_eq_true_iff.mp hfirst).2
    simp [of_decide_eq_true hsender]
  simp [redelivered, hagain]

/-- Documents are sent to the traffic index for the first time, and all of them are taken. -/
theorem Flow.taken {exchange : Exchange}
    (hholds : before.queue.HoldsOnly (setup.naming.name .traffic))
    (hfirst : exchange.isFirst setup) (hrefused : exchange.refused = []) :
    Flow setup before [exchange] [] { before with ledger := before.ledger ++ [exchange] } where
  ledger := rfl
  holds := hholds
  balance := by
    rw [firstFailures_singleton hfirst, redelivered_singleton hfirst, hrefused]
    simp [Tally.waiting]
  failures := by simp [firstFailures_singleton hfirst, hrefused]

/-- Documents are sent to the traffic index for the first time. What fails is offered to the retry
queue, which takes as much of it as there is room for. -/
theorem Flow.offered {exchange : Exchange}
    (hholds : before.queue.HoldsOnly (setup.naming.name .traffic))
    (hfirst : exchange.isFirst setup) :
    let offer := before.queue.offerAll (setup.naming.name .traffic) exchange.refused
    Flow setup before [exchange] (exchange.refused.drop offer.1)
      ⟨offer.2, before.ledger ++ [exchange],
        before.failures + .ofNat exchange.refused.length⟩ := by
  intro offer
  have hwaiting : offer.2.documents (setup.naming.name .traffic) =
      before.queue.documents (setup.naming.name .traffic) ++ exchange.refused.take offer.1 := by
    rw [RetryQueue.documents_offerAll, if_pos rfl]
  constructor
  · rfl
  · exact hholds.offerAll exchange.refused
  · rw [firstFailures_singleton hfirst, redelivered_singleton hfirst]
    simp only [Tally.waiting, hwaiting, Multiset.coe_add, List.append_assoc, List.append_nil,
      List.take_append_drop]
  · rw [firstFailures_singleton hfirst]

/-- What is left when documents have been sent for the first time: what failed waits, as far as
there is room for it. -/
def Tally.sendFirst (setup : Setup) (exchange : Exchange) (tally : Tally) : Tally :=
  if exchange.refused.isEmpty then { tally with ledger := tally.ledger ++ [exchange] }
  else ⟨(tally.queue.offerAll (setup.naming.name .traffic) exchange.refused).2,
    tally.ledger ++ [exchange], tally.failures + .ofNat exchange.refused.length⟩

/-- The documents of an exchange that find no room in the retry queue. -/
def Tally.turnedAway (setup : Setup) (exchange : Exchange) (tally : Tally) : List Document :=
  exchange.refused.drop
    (tally.queue.offerAll (setup.naming.name .traffic) exchange.refused).1

/-- No further document for the traffic index can wait. -/
def Tally.IsFull (setup : Setup) (tally : Tally) : Prop :=
  tally.queue.capacity ≤ (tally.waiting setup).length

/-- Documents are turned away only by a full queue, and sending more does not make room. -/
theorem Tally.isFull_sendFirst (exchange : Exchange) (tally : Tally)
    (hfull : tally.turnedAway setup exchange ≠ [] ∨ tally.IsFull setup) :
    (tally.sendFirst setup exchange).IsFull setup := by
  let offer := tally.queue.offerAll (setup.naming.name .traffic) exchange.refused
  have hroom : offer.1 = _ := tally.queue.offerAll_accepted _ exchange.refused
  unfold Tally.sendFirst
  split
  next hempty =>
    refine hfull.resolve_left ?_
    simp [Tally.turnedAway, List.isEmpty_iff.mp hempty]
  next =>
    have hwaiting : (offer.2.documents (setup.naming.name .traffic)).length =
        (tally.waiting setup).length + offer.1 :=
      tally.queue.size_offerAll (setup.naming.name .traffic) exchange.refused
    -- There is room for what the capacity leaves; an offer not taken whole uses it up.
    have hleft : (tally.turnedAway setup exchange).length = exchange.refused.length - offer.1 :=
      List.length_drop
    rw [← List.length_pos_iff, hleft] at hfull
    simp only [RetryQueue.size] at hroom
    change tally.queue.capacity ≤ (offer.2.documents _).length
    simp only [Tally.IsFull, Tally.waiting] at hfull hwaiting
    omega

theorem Tally.sendFirst_of_taken {exchange : Exchange} (tally : Tally)
    (hrefused : exchange.refused = []) :
    tally.sendFirst setup exchange = ⟨tally.queue, tally.ledger ++ [exchange],
      tally.failures + .ofNat exchange.refused.length⟩ := by
  rw [Tally.sendFirst, hrefused]
  exact congrArg (Tally.mk _ _) (UInt64.add_zero _).symm

theorem Tally.sendFirst_of_refused {exchange : Exchange} (tally : Tally)
    (hrefused : exchange.refused ≠ []) :
    tally.sendFirst setup exchange =
      ⟨(tally.queue.offerAll (setup.naming.name .traffic) exchange.refused).2,
        tally.ledger ++ [exchange], tally.failures + .ofNat exchange.refused.length⟩ :=
  if_neg (by simpa using hrefused)

/-- A first delivery that fails flows into the queue, or is turned away where there is no room. -/
theorem Flow.sendFirst {exchange : Exchange}
    (hholds : before.queue.HoldsOnly (setup.naming.name .traffic))
    (hfirst : exchange.isFirst setup) :
    Flow setup before [exchange] (before.turnedAway setup exchange)
      (before.sendFirst setup exchange) := by
  by_cases hrefused : exchange.refused = []
  · have hsent : before.sendFirst setup exchange =
        { before with ledger := before.ledger ++ [exchange] } := if_pos (by simp [hrefused])
    rw [hsent, Tally.turnedAway, hrefused, List.drop_nil]
    exact .taken hholds hfirst hrefused
  · rw [Tally.sendFirst_of_refused before hrefused]
    exact .offered hholds hfirst

/-- A stretch of work that accounts for the documents it handles, and that turns some of them away
only if the queue is full. -/
structure Handled (setup : Setup) (before : Tally) (turnedAway : List Document)
    (after : Tally) : Prop where
  flow : ∃ exchanges, Flow setup before exchanges turnedAway after
  full : turnedAway ≠ [] → after.IsFull setup

theorem Flow.handled {exchanges : List Exchange}
    (hflow : Flow setup before exchanges [] after) : Handled setup before [] after where
  flow := ⟨exchanges, hflow⟩
  full hlost := absurd rfl hlost

theorem Handled.idle (hholds : before.queue.HoldsOnly (setup.naming.name .traffic)) :
    Handled setup before [] before :=
  (Flow.refl hholds).handled

theorem Handled.sendFirst {exchange : Exchange}
    (hholds : before.queue.HoldsOnly (setup.naming.name .traffic))
    (hfirst : exchange.isFirst setup) :
    Handled setup before (before.turnedAway setup exchange)
      (before.sendFirst setup exchange) where
  flow := ⟨[exchange], .sendFirst hholds hfirst⟩
  full hlost := Tally.isFull_sendFirst exchange before (.inl hlost)

end Flowing

namespace Session

variable (session : Session) (setup : Setup) (world : World) (target : Target)

def tally : Tally := ⟨session.queue, session.ledger, (session.stats.get .traffic).failure⟩

/-- Keeping documents for another attempt changes what waits and nothing else. -/
theorem enqueueFailed_tally (now : Instant) (index : String) (documents : List Document) :
    (session.enqueueFailed now index documents).2.tally =
      { session.tally with queue := (session.queue.offerAll index documents).2 } := by
  simp [tally]

theorem deliverBulk_tally_traffic (documents : List Document) (hkind : target.kind = .traffic) :
    (session.deliverBulk setup world target documents).2.tally =
      ⟨session.queue, session.ledger ++ [session.bulkExchange setup world target documents],
        session.tally.failures +
          .ofNat (session.bulkExchange setup world target documents).refused.length⟩ := by
  simp [tally, deliverBulk_failure, hkind]
  rfl

end Session

end SearchFeed
