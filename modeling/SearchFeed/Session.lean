import SearchFeed.LogBuffer
import SearchFeed.Stats
import SearchFeed.Switches
import SearchFeed.World

/-! # Sessions

What all parts of a running export share: the switches, the statistics, the
retry queue, the buffered log documents, and a ledger of what was fetched and
sent. Every operation on it leaves the parts it does not speak of alone.
-/

namespace SearchFeed

/-- What is fixed when an export is set up. -/
structure Setup where
  naming : IndexNaming
  limits : BatchLimits := .standard
  /-- How many documents of one index are sent again at a time. -/
  drainBatchSize : Nat := 100
deriving Repr

/-- What all parts of a running export share. -/
structure Session where
  switches : Switches
  stats : Stats
  queue : RetryQueue
  logs : LogBuffer := .standard
  /-- Down to which level events are taken in; nothing is taken in if it is absent. -/
  listening : Option Level := none
  /-- The exchanges with the cluster, oldest first. -/
  ledger : List Exchange := []
  /-- The sources that were read, latest first. -/
  fetches : List DataSource := []

namespace Session

/-- Takes in an event, if somebody listens. -/
def tell (session : Session) (now : Instant) (event : Event) : Session :=
  match session.listening with
  | none => session
  | some least => { session with logs := session.logs.record least now event }

/-- Takes in events in order. -/
def tellAll (session : Session) (now : Instant) (events : List Event) : Session :=
  events.foldl (fun session event => session.tell now event) session

/-- Notes that a source was read. -/
def noteFetch (session : Session) (source : DataSource) : Session :=
  { session with fetches := source :: session.fetches }

/-- Sends several documents in one request. -/
def sendBulk (session : Session) (cluster : Cluster) (sender : Sender)
    (baseUrl index : String) (documents : List Document) : BulkReply × Session :=
  let request : Request := ⟨sender, baseUrl, index, .bulk documents⟩
  let reply := cluster.bulk session.ledger request
  (reply, { session with ledger := session.ledger ++ [⟨request, .bulk reply⟩] })

/-- Sends one document. -/
def sendSingle (session : Session) (cluster : Cluster) (sender : Sender)
    (baseUrl index : String) (document : Document) : DocumentReply × Session :=
  let request : Request := ⟨sender, baseUrl, index, .single document⟩
  let reply := cluster.single session.ledger request
  (reply, { session with ledger := session.ledger ++ [⟨request, .single reply⟩] })

/-- Changes the switches. -/
def withSwitches (session : Session) (change : Switches → Switches) : Session :=
  { session with switches := change session.switches }

/-- Changes the scope; broken entries are told of. -/
def changeScope (session : Session) (now : Instant) (scope : ScopeSettings) : Session :=
  (session.withSwitches fun switches => { switches with scope }).tellAll now
    (ScopeFilter.settingsEvents scope)

end Session

end SearchFeed
