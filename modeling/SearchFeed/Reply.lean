/-! # Replies of the cluster

What a search cluster answers to a request, and which of the documents it
leaves undelivered.
-/

namespace SearchFeed

/-- Why a request was not carried out. -/
inductive IndexError where
  | unreachable (baseUrl reason : String)
  | rejected (index reason : String)
deriving DecidableEq, Repr

namespace IndexError

/-- The error as told to the user. -/
def message : IndexError → String
  | .unreachable baseUrl reason =>
    "Search cluster unreachable at '" ++ baseUrl ++ "': " ++ reason
  | .rejected index reason => "Index request to '" ++ index ++ "' rejected: " ++ reason

end IndexError

/-- The answer to a request for several documents. -/
structure BulkOutcome where
  /-- How many documents the cluster says it took. -/
  succeeded : Nat
  /-- The positions of refused documents, where the cluster names them. -/
  failed : List Nat
  /-- What the cluster says about them. -/
  summary : Option String
deriving DecidableEq, Repr

namespace BulkOutcome

/-- Every document was taken. -/
def complete (count : Nat) : BulkOutcome := ⟨count, [], none⟩

/-- Whether at least as many documents were taken as were sent. -/
def isComplete (outcome : BulkOutcome) (submitted : Nat) : Bool := submitted ≤ outcome.succeeded

/-- The positions of the documents that count as refused, in ascending order: those named, or
else all after as many as were taken. -/
def failedPositions (outcome : BulkOutcome) (submitted : Nat) : List Nat :=
  (List.range submitted).filter fun position =>
    if outcome.failed.isEmpty then outcome.succeeded ≤ position
    else outcome.failed.contains position

end BulkOutcome

/-- The answer to a request for several documents, or the reason why there was none. -/
abbrev BulkReply := Except IndexError BulkOutcome

/-- The answer to a request for one document. -/
abbrev DocumentReply := Except IndexError Unit

end SearchFeed
