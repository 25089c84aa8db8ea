import SearchFeed.Delivery

/-! # Live messages

Every message that passes the proxy while an export runs is sent as a document
of its own. One that is not taken is kept for another attempt.
-/

namespace SearchFeed

/-- What became of a message. -/
inductive TrafficOutcome where
  | skipped (reason : SkipReason)
  | outOfScope
  | indexed
  /-- Not taken, but kept for another attempt. -/
  | queued
  /-- Not taken, and there was no room to keep it. -/
  | dropped
deriving DecidableEq, Repr

namespace Session

/-- The part of the program that speaks about live messages. -/
def trafficTarget : String := "artifact_export_core::traffic"

/-- What is told about a message that was not taken. -/
def trafficEvent (id : Nat) (error : IndexError) : Event where
  level := .trace
  target := trafficTarget
  message := "Traffic document queued for retry"
  fields := [Field.ofNat "id" id, ⟨"error", error.message⟩]

/-- Takes in a live message. -/
def recordTraffic (session : Session) (setup : Setup) (world : World) (record : TrafficRecord)
    (hostInScope : Bool) : TrafficOutcome × Session :=
  match session.switches.preflight .traffic with
  | .error reason => (.skipped reason, session)
  | .ok baseUrl =>
    let filter := session.switches.filter
    let admitted := filter.admits record.url hostInScope
    let session := session.tell world.now (filter.decisionEvent record.url admitted)
    if !admitted then (.outOfScope, session)
    else
      let document := Artifact.document world.now record
      let target : Target := ⟨.source .traffic, baseUrl, .traffic⟩
      let (reply, session) :=
        session.deliverSingle setup world target IndexError.message document
      match reply with
      | .ok () => (.indexed, session)
      | .error error =>
        let session := session.tell world.now (trafficEvent record.id error)
        let (kept, session) :=
          session.enqueueFailed world.now (setup.naming.name .traffic) [document]
        (if 0 < kept then .queued else .dropped, session)

end Session

end SearchFeed
