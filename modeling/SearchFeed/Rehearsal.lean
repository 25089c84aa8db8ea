import SearchFeed.Exchange

/-! # Rehearsals

A cluster that answers from a script: one prepared reply for each request, and
a fallback when the script is at its end.
-/

namespace SearchFeed

/-- A prepared reply. -/
inductive Cue where
  | succeed
  /-- Refuses the documents at these positions. -/
  | reject (positions : List Nat)
  /-- Takes the first documents without naming the others. -/
  | acceptFirst (count : Nat)
  /-- Cannot be reached, for this reason. -/
  | fail (reason : String)
  /-- Refuses the request as a whole, for this reason. -/
  | refuse (reason : String)
  /-- Answers exactly this to a request for several documents. -/
  | outcome (given : BulkOutcome)
deriving Repr

namespace Cue

/-- A difference of counts of 64 bits. -/
def countBelow (total part : Nat) : Nat := (UInt64.ofNat total - UInt64.ofNat part).toNat

/-- The reply to a request for several documents. -/
def bulk (request : Request) : Cue → BulkReply
  | .succeed => .ok (.complete request.payload.documents.length)
  | .reject positions =>
    let total := request.payload.documents.length
    let rejected := positions.countP (· < total)
    .ok ⟨countBelow total rejected, positions,
      some ("Bulk had " ++ toString rejected ++ " failure(s)")⟩
  | .acceptFirst count => .ok ⟨min count request.payload.documents.length, [], none⟩
  | .fail reason => .error (.unreachable request.baseUrl reason)
  | .refuse reason => .error (.rejected request.index reason)
  | .outcome given => .ok given

/-- The reply to a request for one document. -/
def single (request : Request) : Cue → DocumentReply
  | .succeed => .ok ()
  | .outcome _ => .ok ()
  | .acceptFirst count =>
    if 0 < count then .ok () else .error (.rejected request.index "document rejected")
  | .reject _ => .error (.rejected request.index "document rejected")
  | .fail reason => .error (.unreachable request.baseUrl reason)
  | .refuse reason => .error (.rejected request.index reason)

end Cue

/-- Prepared replies in order, and what is answered after them. -/
structure Script where
  cues : List Cue := []
  fallback : Cue := .succeed
deriving Repr

namespace Script

/-- The reply to the request after so many others. -/
def cue (script : Script) (place : Nat) : Cue := (script.cues[place]?).getD script.fallback

/-- The cluster that plays the script, which begins after so many exchanges. -/
def cluster (script : Script) (start : Nat) : Cluster where
  bulk past request := (script.cue (past.length - start)).bulk request
  single past request := (script.cue (past.length - start)).single request

/-- What is left of a script after so many requests. -/
def after (script : Script) (requests : Nat) : Script :=
  { script with cues := script.cues.drop requests }

end Script

end SearchFeed
