import SearchFeed.Json
import SearchFeed.Reply
import SearchFeed.Source

/-! # Exchanges with the cluster

Every request that is sent is noted together with its reply. A cluster is
known by its replies only: what it answers may depend on the request and on
everything that was sent before.
-/

namespace SearchFeed

/-- The parts of an export that send requests. -/
inductive Sender where
  /-- The reporter of a family of artifacts; for traffic, what takes in live messages. -/
  | source (source : DataSource)
  | toolStats
  | configSnapshot
  | retry
  | forwarder
deriving DecidableEq, Repr

/-- What a request carries. -/
inductive Payload where
  | bulk (documents : List Document)
  | single (document : Document)
deriving Repr

/-- The documents of a payload. -/
def Payload.documents : Payload → List Document
  | .bulk documents => documents
  | .single document => [document]

/-- A request to the cluster. -/
structure Request where
  sender : Sender
  baseUrl : String
  index : String
  payload : Payload
deriving Repr

/-- The answer to a request. -/
inductive Reply where
  | bulk (reply : BulkReply)
  | single (reply : DocumentReply)

/-- The documents that a reply to a request for several documents leaves undelivered, in the order
in which they were sent. -/
def BulkReply.refused (documents : List Document) : BulkReply → List Document
  | .ok outcome => (outcome.failedPositions documents.length).filterMap (documents[·]?)
  | .error _ => documents

/-- The documents that a reply to a request for one document leaves undelivered. -/
def DocumentReply.refused (document : Document) : DocumentReply → List Document
  | .ok () => []
  | .error _ => [document]

/-- A request and its reply. -/
structure Exchange where
  request : Request
  reply : Reply

/-- What a cluster answers, given the exchanges before, the oldest first. -/
structure Cluster where
  bulk : (past : List Exchange) → Request → BulkReply
  single : (past : List Exchange) → Request → DocumentReply

end SearchFeed
