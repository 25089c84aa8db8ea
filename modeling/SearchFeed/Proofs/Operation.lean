import SearchFeed.Drain
import SearchFeed.Forwarder
import SearchFeed.Pipeline
import SearchFeed.Traffic

/-! # Operations of an export

The parts of an export take turns: a cycle of a reporter, a live message, a
drain pass, forwarded log documents, or a change of the switches. Each meets a
world of its own and reports what it did.
-/

namespace SearchFeed

/-- What can happen to an export. -/
inductive Operation where
  | cycle (reporter : Reporter) (mode : RunMode) (guard : Guard)
  | record (record : TrafficRecord) (hostInScope : Bool)
  | drain
  | forward
  | switch (change : Switches → Switches)
  | scope (scope : ScopeSettings)

/-- What an operation says about itself. -/
inductive Report where
  | cycle (reporter : Reporter) (result : CycleResult)
  | traffic (outcome : TrafficOutcome)
  | drain (summary : DrainSummary)
  | forward (count : Nat)
  | done

namespace Pipeline

def withSession (pipeline : Pipeline) (session : Session) : Pipeline := { pipeline with session }

def perform (setup : Setup) (world : World) (pipeline : Pipeline) :
    Operation → Report × Pipeline
  | .cycle reporter mode guard =>
    let (result, _, after) := pipeline.loggedCycle setup world reporter mode guard
    (.cycle reporter result, after)
  | .record record hostInScope =>
    let (outcome, session) := pipeline.session.recordTraffic setup world record hostInScope
    (.traffic outcome, pipeline.withSession session)
  | .drain =>
    let (summary, session) := pipeline.session.drainOnce setup world
    (.drain summary, pipeline.withSession session)
  | .forward =>
    let (count, session) := pipeline.session.forwardOnce setup world
    (.forward count, pipeline.withSession session)
  | .switch change => (.done, pipeline.withSession (pipeline.session.withSwitches change))
  | .scope scope => (.done, pipeline.withSession (pipeline.session.changeScope world.now scope))

/-- Performs operations one after the other, each in its world. -/
def performAll (setup : Setup) (pipeline : Pipeline) (operations : List (World × Operation)) :
    Pipeline :=
  operations.foldl (fun pipeline (world, operation) => (pipeline.perform setup world operation).2)
    pipeline

end Pipeline

end SearchFeed
