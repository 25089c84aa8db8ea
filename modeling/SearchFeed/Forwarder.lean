import SearchFeed.Session

/-! # Forwarding of log documents

Buffered log documents are sent to the tool index, and nobody minds the reply.
While nothing is to be sent the buffer is emptied instead.
-/

namespace SearchFeed

/-- How many log documents are sent at a time. -/
def forwardBatch : Nat := 100

namespace Session

/-- Sends one batch of log documents; says how many there were. -/
def forwardOnce (session : Session) (setup : Setup) (world : World) : Nat × Session :=
  match session.switches.destination with
  | .error _ => (0, { session with logs := session.logs.clear.2 })
  | .ok baseUrl =>
    let (documents, logs) := session.logs.drain forwardBatch
    let drained := { session with logs }
    if documents.isEmpty then (0, drained)
    else
      let (_, sent) := drained.sendBulk world.cluster .forwarder baseUrl
        (setup.naming.name .tool) documents
      (documents.length, sent)

/-- A full batch leaves fewer log documents in the buffer. -/
theorem forwardOnce_lt {session : Session} {setup : Setup} {world : World}
    (hfull : (session.forwardOnce setup world).1 = forwardBatch) :
    (session.forwardOnce setup world).2.logs.size < session.logs.size := by
  unfold forwardOnce at hfull ⊢
  split at hfull
  · cases hfull
  next baseUrl hready =>
    dsimp only [LogBuffer.drain, LogBuffer.size, sendBulk] at hfull ⊢
    split at hfull
    · cases hfull
    next hsome =>
      rw [if_neg hsome]
      simp only [forwardBatch, List.length_take, List.length_drop] at hfull ⊢
      omega

/-- Sends batches of log documents up to the first one that is not full; says how many documents
each of them had. -/
def forwardAll (session : Session) (setup : Setup) (world : World) : List Nat × Session :=
  let first := session.forwardOnce setup world
  if first.1 = forwardBatch then
    let others := forwardAll first.2 setup world
    (first.1 :: others.1, others.2)
  else ([first.1], first.2)
termination_by session.logs.size
decreasing_by exact forwardOnce_lt ‹_›

end Session

end SearchFeed
