import SearchFeed.Proofs.Course
import SearchFeed.Forwarder

/-! # What each operation does to documents for the traffic index

Live and recorded messages are sent to it for the first time, a drain pass
sends again what waits, and everything else keeps away from it.
-/

namespace SearchFeed

namespace Session

/-- Exchanges with other indexes were made, and nothing was done to documents for the traffic
index. -/
def KeepsAside (setup : Setup) (before after : Session) : Prop :=
  ∃ exchanges, (∀ exchange ∈ exchanges,
      exchange.request.index ≠ setup.naming.name .traffic) ∧
    after.tally = { before.tally with ledger := before.ledger ++ exchanges }

section Aside

variable {setup : Setup} {world : World} {before after : Session}

theorem KeepsAside.congr (haside : KeepsAside setup before after) {other : Session}
    (htally : other.tally = after.tally) : KeepsAside setup before other := by
  obtain ⟨exchanges, helsewhere, hafter⟩ := haside
  exact ⟨exchanges, helsewhere, htally.trans hafter⟩

theorem KeepsAside.trans {middle : Session} (hfirst : KeepsAside setup before middle)
    (hsecond : KeepsAside setup middle after) : KeepsAside setup before after := by
  obtain ⟨earlier, hearlier, hmiddle⟩ := hfirst
  obtain ⟨later, hlater, hafter⟩ := hsecond
  have hledger : middle.ledger = before.ledger ++ earlier := congrArg Tally.ledger hmiddle
  refine ⟨earlier ++ later, List.forall_mem_append.mpr ⟨hearlier, hlater⟩, ?_⟩
  rw [hafter, hmiddle, hledger, List.append_assoc]

/-- What keeps aside from the traffic index has nothing to handle there. -/
theorem KeepsAside.handled (haside : KeepsAside setup before after)
    (hholds : before.queue.HoldsOnly (setup.naming.name .traffic)) :
    Handled setup before.tally [] after.tally := by
  obtain ⟨exchanges, helsewhere, htally⟩ := haside
  rw [htally]
  exact (Flow.aside hholds helsewhere).handled

variable (setup) (world) (session : Session)

end Aside

end Session

section Courses

variable {setup : Setup} {world : World}

end Courses

namespace Session

section Drain

variable {setup : Setup} {session : Session}

/-- Sending again what waits for the traffic index is a flow: what is taken leaves the queue. -/
theorem Redelivery.flow {baseUrl : String} {replies : String → BulkReply}
    {after : DrainSummary × Session}
    (hpass : Redelivery setup baseUrl session.queue.pending replies ({}, session) after)
    (hholds : session.queue.HoldsOnly (setup.naming.name .traffic)) :
    Flow setup session.tally (session.queue.pending.map fun index =>
      session.retryExchange setup baseUrl index (replies index)) [] after.2.tally := by
  have hfailures : after.2.tally.failures = session.tally.failures := by
    change (after.2.stats.get .traffic).failure = _
    rw [hpass.counters]
    split <;> rfl
  have hafter : after.2.queue.HoldsOnly (setup.naming.name .traffic) := by
    refine ⟨hpass.sound, ?_⟩
    intro other hother
    rw [hpass.documents, if_neg]
    · exact hholds.others other hother
    · exact fun hpending => (hholds.sound.mem_pending_iff other).mp hpending
        (hholds.others other hother)
  have hledger := hpass.ledger
  have hdocuments := hpass.documents (setup.naming.name .traffic)
  rw [hholds.pending_eq] at hledger hdocuments ⊢
  by_cases hempty : session.queue.documents (setup.naming.name .traffic) = []
  · rw [if_pos hempty] at hledger hdocuments ⊢
    rw [if_neg List.not_mem_nil] at hdocuments
    rw [List.map_nil, List.append_nil] at hledger
    exact .still hledger hafter hdocuments hfailures
  · rw [if_neg hempty] at hledger hdocuments ⊢
    rw [if_pos (List.mem_singleton_self _)] at hdocuments
    rw [List.map_singleton] at hledger ⊢
    let sent := session.resent setup (setup.naming.name .traffic)
    let reply := replies (setup.naming.name .traffic)
    let exchange := session.retryExchange setup baseUrl (setup.naming.name .traffic) reply
    have hfirst : firstFailures setup [exchange] = [] := by
      simp [firstFailures, Exchange.isFirst, exchange, retryExchange]
    have hagain : redelivered setup [exchange] = BulkReply.accepted sent reply := by
      simp [redelivered, Exchange.isAgain, exchange, retryExchange, Exchange.accepted, sent]
    -- What was polled is the oldest part of the queue, and the reply divides it.
    have hsplit : (sent : Multiset Document) =
        BulkReply.accepted sent reply + BulkReply.refused sent reply := by
      rw [Multiset.coe_add]
      exact (Multiset.coe_eq_coe.mpr (BulkReply.accepted_append_refused_perm sent reply)).symm
    have hbalance : (session.tally.waiting setup : Multiset Document) =
        after.2.tally.waiting setup + BulkReply.accepted sent reply :=
      calc (session.tally.waiting setup : Multiset Document)
          = sent + session.untouched setup (setup.naming.name .traffic) := by
            rw [Multiset.coe_add]
            exact congrArg _ (List.take_append_drop setup.drainBatchSize _).symm
        _ = session.untouched setup (setup.naming.name .traffic) + BulkReply.refused sent reply +
              BulkReply.accepted sent reply := by rw [hsplit]; ac_rfl
        _ = after.2.tally.waiting setup + BulkReply.accepted sent reply := by
            rw [Multiset.coe_add, ← hdocuments]
            rfl
    constructor
    · exact hledger
    · exact hafter
    · rw [hfirst, hagain, Multiset.coe_nil, add_zero, add_zero]
      exact hbalance
    · rw [hfirst]
      exact hfailures.trans (UInt64.add_zero _).symm

end Drain

end Session

end SearchFeed
