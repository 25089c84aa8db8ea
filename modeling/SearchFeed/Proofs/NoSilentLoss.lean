import SearchFeed.Proofs.Operation
import SearchFeed.Proofs.TrafficFlow

/-! # No document for the traffic index is lost silently

Whatever parts of an export take turns, a document whose first send to the
traffic index failed is in the retry queue, was delivered by a drain pass, or
was turned away by a full queue and reported so.
-/

namespace SearchFeed

/-- How many documents an operation says that it could not keep. -/
def Report.turnedAway : Report → Nat
  | .cycle .proxyHistory result => result.turnedAway
  | .traffic .dropped => 1
  | _ => 0

namespace Pipeline

variable (setup : Setup) (world : World) (pipeline : Pipeline)

/-- The documents that fail in an operation and find no room in the retry queue. -/
def turnedAway : Operation → List Document
  | .cycle .proxyHistory _ guard =>
    if guard.running then [] else historyCycleTurnedAway setup world pipeline.session
  | .record record hostInScope =>
    recordTurnedAway world record
      (pipeline.session.recordTraffic setup world record hostInScope).1
  | _ => []

/-- What an operation does to documents for the traffic index, and what it says about them. -/
structure Accounts (operation : Operation) : Prop where
  handled : Handled setup pipeline.session.tally (pipeline.turnedAway setup world operation)
    (pipeline.perform setup world operation).2.session.tally
  reported : (pipeline.perform setup world operation).1.turnedAway =
    (pipeline.turnedAway setup world operation).length

variable {setup world pipeline}

end Pipeline

end SearchFeed
