import SearchFeed.Pipeline

/-! # Workers

A reporter on a thread of its own remembers nothing at first and runs one
cycle for every trigger it accepted and for every tick of its clock. A listener
of the whole program hears what is told on such a thread, and one that belongs
to another thread does not.
-/

namespace SearchFeed

namespace Pipeline

/-- Cycles one after the other, in the given modes. -/
def cycles (setup : Setup) (world : World) (reporter : Reporter) (modes : List RunMode)
    (pipeline : Pipeline) : Pipeline :=
  modes.foldl
    (fun pipeline mode => (pipeline.loggedCycle setup world reporter mode {}).2.2) pipeline

/-- The pipeline after something was done on another thread, which who listens has heard or not. -/
def onThread (heard : Bool) (act : Pipeline → Pipeline) (pipeline : Pipeline) : Pipeline :=
  let session := pipeline.session
  let listening := if heard then session.listening else none
  let done := act { pipeline with session := { session with listening } }
  { done with session := { done.session with listening := session.listening } }

/-- The cycles of a new worker: those of its clock and then those it is triggered to run. -/
def worker (setup : Setup) (world : World) (reporter : Reporter) (ticks : Nat)
    (triggers : List RunMode) (pipeline : Pipeline) (heard : Bool := false) : Pipeline :=
  let modes := List.replicate ticks .incremental ++ triggers
  let done := ({ pipeline with memory := {} } : Pipeline).onThread heard
    (cycles setup world reporter modes)
  { done with memory := pipeline.memory }

end Pipeline

/-- The answer to a trigger: it is taken unless a cycle is under way. -/
def Guard.takesTrigger (guard : Guard) : Bool := !guard.running

end SearchFeed
