import SearchFeed.Proofs.Dispatch
import SearchFeed.Proofs.Tally
import SearchFeed.Reporter.Items

/-! # Cycles over recorded messages

Every batch of recorded messages is sent to the traffic index for the first
time, and what is refused is offered to the retry queue before the next batch
is sent. The summary of a cycle tells how many documents failed and how many
of them found room.
-/

namespace SearchFeed

variable (setup : Setup) (world : World) (baseUrl : String)

def historyExchange (dispatch : Dispatch Unit Unit) : Exchange :=
  dispatch.before.session.bulkExchange setup world ⟨.source .proxyHistory, baseUrl, .traffic⟩
    dispatch.batch.documents

/-- The recorded messages of a batch that fail and find no room. -/
def historyTurnedAway (dispatch : Dispatch Unit Unit) : List Document :=
  dispatch.before.session.tally.turnedAway setup (historyExchange setup world baseUrl dispatch)

def historyKept (dispatch : Dispatch Unit Unit) : Nat :=
  (dispatch.before.session.queue.offerAll (setup.naming.name .traffic)
    (historyExchange setup world baseUrl dispatch).refused).1

def historyCycleTurnedAway (session : Session) : List Document :=
  match session.switches.preflight .proxyHistory, world.sources.proxyHistory with
  | .ok baseUrl, .ok items =>
    ((historyStream setup world baseUrl).dispatches setup.limits session.switches.filter world.now
      items (Batch.empty, Stream.opened .proxyHistory () session items)).flatMap
        (historyTurnedAway setup world baseUrl)
  | _, _ => []

/-- How many documents a cycle says that it could not keep. -/
def CycleResult.turnedAway : CycleResult → Nat
  | .ok (.completed summary) => summary.failed - summary.queued
  | _ => 0

variable {setup world baseUrl}

/-- What sending a batch does to a cycle: what is refused is counted and, if there is any, offered
to the retry queue. -/
theorem history_flush_eq (batch : Batch Unit) (progress : Progress Unit) :
    let refused := (historyExchange setup world baseUrl ⟨batch, progress⟩).refused
    let sent := progress.session.deliverBulk setup world ⟨.source .proxyHistory, baseUrl, .traffic⟩
      batch.documents
    let kept := sent.2.enqueueFailed world.now (setup.naming.name .traffic) refused
    (historyStream setup world baseUrl).flush batch progress =
      if refused.isEmpty then { progress with session := sent.2 }.count sent.1 0
      else { progress with session := kept.2 }.count sent.1 kept.1 := rfl

/-- Queue, ledger and failure count of a history cycle move with its exchanges, one first delivery
each. -/
theorem history_tracks_tally : (historyStream setup world baseUrl).Tracks
    (fun progress => progress.session.tally)
    (fun dispatch tally =>
      tally.sendFirst setup (historyExchange setup world baseUrl dispatch)) where
  logs _ _ := rfl
  candidates _ _ := rfl
  flush batch progress := by
    rw [history_flush_eq]
    split
    next hempty =>
      rw [Tally.sendFirst_of_taken _ (List.isEmpty_iff.mp hempty)]
      exact progress.session.deliverBulk_tally_traffic setup world _ batch.documents rfl
    next hsome =>
      rw [Tally.sendFirst_of_refused _ (by simpa using hsome)]
      change (Session.enqueueFailed _ _ _ _).2.tally = _
      rw [Session.enqueueFailed_tally, Session.deliverBulk_tally_traffic _ _ _ _ _ rfl,
        Session.deliverBulk_queue]
      rfl

/-- The summary's failed and queued counts add up what each exchange lost and what the queue kept of
it. -/
theorem history_tracks_counts : (historyStream setup world baseUrl).Tracks
    (fun progress => (progress.summary.failed, progress.summary.queued))
    (fun dispatch counts =>
      (counts.1 + (historyExchange setup world baseUrl dispatch).refused.length,
        counts.2 + historyKept setup world baseUrl dispatch)) where
  logs _ _ := rfl
  candidates _ _ := rfl
  flush batch progress := by
    rw [history_flush_eq, historyKept]
    split
    next hempty =>
      have hroom : (progress.session.queue.offerAll (setup.naming.name .traffic)
          (historyExchange setup world baseUrl ⟨batch, progress⟩).refused).1 = 0 := by
        rw [List.isEmpty_iff.mp hempty, RetryQueue.offerAll_accepted, List.length_nil, Nat.min_zero]
      exact Prod.ext rfl (congrArg (progress.summary.queued + ·) hroom.symm)
    next hsome =>
      change (_, _ + (Session.enqueueFailed _ _ _ _).1) = _
      rw [Session.enqueueFailed_fst, Session.deliverBulk_queue]
      rfl

/-- What fails along the batches of a cycle has found room or has not. -/
theorem history_counts {sent : List (Dispatch Unit Unit)} {before after : Nat × Nat}
    (hlinked : Stream.Linked (fun progress : Progress Unit =>
        (progress.summary.failed, progress.summary.queued))
      (fun dispatch counts =>
        (counts.1 + (historyExchange setup world baseUrl dispatch).refused.length,
          counts.2 + historyKept setup world baseUrl dispatch)) before sent after) :
    after.1 + before.2 =
      after.2 + before.1 + (sent.flatMap (historyTurnedAway setup world baseUrl)).length := by
  induction sent generalizing before with
  | nil =>
      obtain rfl := hlinked
      simp [Nat.add_comm]
  | cons dispatch rest ih =>
      have hrest := ih hlinked.2
      have hroom : historyKept setup world baseUrl dispatch ≤
          (historyExchange setup world baseUrl dispatch).refused.length := by
        rw [historyKept, RetryQueue.offerAll_accepted]
        exact Nat.min_le_right _ _
      have hlost : (historyTurnedAway setup world baseUrl dispatch).length =
          (historyExchange setup world baseUrl dispatch).refused.length -
            historyKept setup world baseUrl dispatch := List.length_drop
      rw [List.flatMap_cons, List.length_append, hlost]
      dsimp only at hrest
      omega

end SearchFeed
