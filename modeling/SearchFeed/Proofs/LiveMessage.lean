import SearchFeed.Proofs.Tally
import SearchFeed.Traffic

/-! # Taking in live messages

A live message is skipped, out of scope, or sent to the traffic index on its
own. One that is sent and fails is offered to the retry queue at once, and its
outcome tells whether there was room.
-/

namespace SearchFeed

/-- The live message that fails and finds no room, if there is one. -/
def recordTurnedAway (world : World) (record : TrafficRecord) (outcome : TrafficOutcome) :
    List Document :=
  if outcome = .dropped then [Artifact.document world.now record] else []

namespace Session

variable (session : Session) (setup : Setup) (world : World) (record : TrafficRecord)
  (hostInScope : Bool) (baseUrl : String)

def admitsLive : Bool := session.switches.filter.admits record.url hostInScope

/-- The session after the decision about a live message has been told. -/
def decidedLive : Session :=
  session.tell world.now
    (session.switches.filter.decisionEvent record.url (session.admitsLive record hostInScope))

def sentLive : DocumentReply × Session :=
  (session.decidedLive world record hostInScope).deliverSingle setup world
    ⟨.source .traffic, baseUrl, .traffic⟩ IndexError.message (Artifact.document world.now record)

def liveExchange : Exchange :=
  (session.decidedLive world record hostInScope).singleExchange setup world
    ⟨.source .traffic, baseUrl, .traffic⟩ (Artifact.document world.now record)

section Paths

variable {session setup world record hostInScope baseUrl}

theorem recordTraffic_skipped {reason : SkipReason}
    (hpreflight : session.switches.preflight .traffic = .error reason) :
    session.recordTraffic setup world record hostInScope = (.skipped reason, session) := by
  rw [recordTraffic, hpreflight]

/-- A record the scope or the host does not admit is only decided, and nothing is sent. -/
theorem recordTraffic_outOfScope
    (hpreflight : session.switches.preflight .traffic = .ok baseUrl)
    (hout : ¬session.admitsLive record hostInScope) :
    session.recordTraffic setup world record hostInScope =
      (.outOfScope, session.decidedLive world record hostInScope) := by
  unfold admitsLive at hout
  rw [recordTraffic, hpreflight]
  exact if_pos (by simpa using hout)

/-- A record the cluster takes is reported as indexed. -/
theorem recordTraffic_taken
    (hpreflight : session.switches.preflight .traffic = .ok baseUrl)
    (hadmitted : session.admitsLive record hostInScope)
    (hreply : (session.sentLive setup world record hostInScope baseUrl).1 = .ok ()) :
    session.recordTraffic setup world record hostInScope =
      (.indexed, (session.sentLive setup world record hostInScope baseUrl).2) := by
  unfold admitsLive at hadmitted
  unfold sentLive decidedLive admitsLive at hreply ⊢
  rw [recordTraffic, hpreflight]
  dsimp only
  rw [if_neg (by simpa using hadmitted), hreply]

/-- A record the cluster does not take is queued for another try and reported with the error. -/
theorem recordTraffic_failed {error : IndexError}
    (hpreflight : session.switches.preflight .traffic = .ok baseUrl)
    (hadmitted : session.admitsLive record hostInScope)
    (hreply : (session.sentLive setup world record hostInScope baseUrl).1 = .error error) :
    session.recordTraffic setup world record hostInScope =
      (let sent := (session.sentLive setup world record hostInScope baseUrl).2
       let kept := (sent.tell world.now (trafficEvent record.id error)).enqueueFailed world.now
         (setup.naming.name .traffic) [Artifact.document world.now record]
       (if 0 < kept.1 then .queued else .dropped, kept.2)) := by
  unfold admitsLive at hadmitted
  unfold sentLive decidedLive admitsLive at hreply ⊢
  rw [recordTraffic, hpreflight]
  dsimp only
  rw [if_neg (by simpa using hadmitted), hreply]

end Paths

end Session

end SearchFeed
