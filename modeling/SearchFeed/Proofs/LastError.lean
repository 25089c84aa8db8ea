import SearchFeed.Proofs.Course
import SearchFeed.Proofs.Footprint

/-! # What a failure leaves as the last error

A part of an export sends its documents request after request. Right after a
request that has left a document undelivered, the last error of its index is
there to be read, whoever made the request and however it failed. The one
exception is a cluster that refuses documents and gives them a summary that is
there but empty: only a missing summary is made up for, and an empty text is
taken for the wish to forget the last error.
-/

namespace SearchFeed

/-- The cluster has taken in a request for several documents, and gives it a summary without any
text. -/
def Reply.hasEmptySummary : Reply → Bool
  | .bulk (.ok outcome) => outcome.summary = some ""
  | _ => false

namespace Counters

theorem shortened_ne_empty {message : String} (hmessage : message ≠ "") :
    shortened message ≠ "" := by
  unfold shortened
  split
  · simp [String.append_eq_empty_iff]
  · exact hmessage

/-- A message with any text in it is remembered as a text that is not empty. -/
theorem remembered_of_ne_empty {message : String} (hmessage : message ≠ "") :
    ∃ text, remembered message = some text ∧ text ≠ "" := by
  refine ⟨shortened message, if_neg ?_, shortened_ne_empty hmessage⟩
  rwa [String.isEmpty_iff]

end Counters

/-- A reply that leaves documents undelivered always has a text to be remembered by, which is empty
just if the cluster has given an empty summary. -/
theorem Delivery.exists_errorText {documents : List Document} {reply : BulkReply}
    (hrefused : BulkReply.refused documents reply ≠ []) :
    ∃ message, errorText? documents reply = some message ∧
      (message = "" ↔ (Reply.bulk reply).hasEmptySummary = true) := by
  cases reply with
  | error error =>
      exact ⟨error.message, rfl, by simp [error.message_ne_empty, Reply.hasEmptySummary]⟩
  | ok outcome =>
      refine ⟨_, if_neg (by simpa using hrefused), ?_⟩
      cases hsummary : outcome.summary with
      | none => simp [Reply.hasEmptySummary, hsummary, String.append_eq_empty_iff]
      | some summary => simp [Reply.hasEmptySummary, hsummary]

/-- A refused document has an error text, and not an empty one if no error is told as the empty
text. -/
theorem DocumentReply.exists_errorText {errorText : IndexError → String}
    (htold : ∀ error, errorText error ≠ "") {document : Document} {reply : DocumentReply}
    (hrefused : DocumentReply.refused document reply ≠ []) :
    ∃ message, errorText? errorText reply = some message ∧ message ≠ "" := by
  cases reply with
  | ok _ => exact absurd rfl hrefused
  | error error => exact ⟨errorText error, rfl, htold error⟩

/-- What an attempt has left as the last error of an index is some text, cut to size, which is empty
just if the cluster has given an empty summary. -/
def Attempt.IsTold (kind : IndexKind) (attempt : Attempt) : Prop :=
  ∃ message, (attempt.after.stats.get kind).lastError = Counters.remembered message ∧
    (message = "" ↔ attempt.exchange.reply.hasEmptySummary = true)

section Telling

variable {setup : Setup} {world : World}

/-- An attempt that has left a document undelivered says so. -/
theorem Attempt.Made.isTold {target : Target} {attempt : Attempt}
    (hmade : attempt.Made setup world target)
    (hrefused : attempt.exchange.refused ≠ []) : attempt.IsTold target.kind := by
  cases hmade with
  | bulk session documents =>
      obtain ⟨message, herror, hempty⟩ := Delivery.exists_errorText hrefused
      refine ⟨message, ?_, hempty⟩
      simp only [Attempt.bulk, Session.deliverBulk_get, if_true, Counters.noted, herror]
  | single session htold document =>
      obtain ⟨message, herror, htext⟩ := DocumentReply.exists_errorText htold hrefused
      refine ⟨message, ?_, iff_of_false htext Bool.false_ne_true⟩
      simp only [Attempt.single, Session.deliverSingle_get, if_true, Counters.noted, herror]

/-- Every attempt sends to the index that it is counted for, and says what has gone wrong. -/
theorem Course.isTold {kind : IndexKind} {start session : Session} {attempts : List Attempt}
    (hcourse : Course setup world kind start attempts session) :
    ∀ attempt ∈ attempts, attempt.exchange.request.index = setup.naming.name kind ∧
      (attempt.exchange.refused ≠ [] → attempt.IsTold kind) := by
  induction hcourse with
  | start => exact fun _ hmem => absurd hmem List.not_mem_nil
  | aside _ _ _ ih => exact ih
  | kept _ _ _ ih => exact ih
  | attempted _ hmade ih =>
      rw [List.forall_mem_append, List.forall_mem_singleton]
      exact ⟨ih, hmade.index, hmade.isTold⟩

end Telling

def Operation.kind? : Operation → Option IndexKind
  | .cycle reporter _ _ => some reporter.kind
  | .record _ _ => some .traffic
  | _ => none

namespace Pipeline

variable (setup : Setup) (world : World) (pipeline : Pipeline)

/-- A failed cycle leads to a last error in its own lane. -/
theorem loggedCycle_leads (reporter : Reporter) (mode : RunMode) (guard : Guard) :
    Leads setup world reporter.kind pipeline.session
      (pipeline.loggedCycle setup world reporter mode guard).2.2.session := by
  have hguarded : Leads setup world reporter.kind pipeline.session
      (pipeline.guardedCycle setup world reporter mode guard).2.2.session := by
    cases hguard : guard.running with
    | true =>
        rw [guardedCycle_held setup world pipeline reporter mode hguard]
        exact .refl pipeline.session
    | false =>
        rw [guardedCycle_free setup world pipeline reporter mode hguard]
        exact pipeline.cycle_leads setup world reporter mode
  obtain ⟨logs, hlogs⟩ := loggedCycle_logs setup world pipeline reporter mode guard
  rw [hlogs]
  exact hguarded.aside logs _

/-- Every operation on an index leads to a last error there when it fails. -/
theorem perform_leads {operation : Operation} {kind : IndexKind}
    (hkind : operation.kind? = some kind) :
    Leads setup world kind pipeline.session
      (pipeline.perform setup world operation).2.session := by
  cases operation with
  | cycle reporter mode guard =>
      cases hkind
      exact pipeline.loggedCycle_leads setup world reporter mode guard
  | record record hostInScope =>
      cases hkind
      exact recordTraffic_leads setup world pipeline.session record hostInScope
  | drain => cases hkind
  | forward => cases hkind
  | switch change => cases hkind
  | scope scope => cases hkind

/-- In the course of a cycle or a live message, a last error can be read right after every request
that has left a document undelivered, unless the cluster has given it an empty summary; then there
is none, whatever could be read before. -/
theorem failure_leaves_error_unless_summary_empty {operation : Operation} {kind : IndexKind}
    (hkind : operation.kind? = some kind) :
    let after := (pipeline.perform setup world operation).2.session
    ∃ attempts, Course setup world kind pipeline.session attempts after ∧
      after.ledger = pipeline.session.ledger ++ attempts.map Attempt.exchange ∧
      ∀ attempt ∈ attempts, attempt.exchange.request.index = setup.naming.name kind ∧
        (attempt.exchange.refused ≠ [] →
          let lastError := (attempt.after.stats.get kind).lastError
          (attempt.exchange.reply.hasEmptySummary = true → lastError = none) ∧
          (attempt.exchange.reply.hasEmptySummary = false →
            ∃ text, lastError = some text ∧ text ≠ "")) := by
  intro after
  obtain ⟨attempts, hcourse⟩ := pipeline.perform_leads setup world hkind
  refine ⟨attempts, hcourse, hcourse.ledger, ?_⟩
  intro attempt hmem
  obtain ⟨hindex, htold⟩ := hcourse.isTold attempt hmem
  refine ⟨hindex, fun hrefused => ?_⟩
  obtain ⟨message, herror, hempty⟩ := htold hrefused
  intro lastError
  simp only [lastError, herror]
  refine ⟨fun hsummary => ?_, fun hsummary => ?_⟩
  · rw [hempty.mpr hsummary]
    rfl
  · refine Counters.remembered_of_ne_empty fun hmessage => ?_
    rw [hempty.mp hmessage] at hsummary
    cases hsummary

/-- A site map entry is refused twice, the first time because the cluster is down and the second
time with an empty summary, which makes the first error be forgotten. -/
theorem failure_leaves_error_unless_summary_empty_forgotten :
    let entry : SitemapEntry := ⟨"http://a.test/", "GET", none, none, none⟩
    let setup : Setup := { naming := ⟨"a"⟩ }
    let world := World.rehearsed ⟨[.fail "down", .outcome ⟨0, [0], some ""⟩], .succeed⟩
      { sitemap := .ok [entry] }
    let cycle : Operation := .cycle .sitemap .incremental {}
    let start : Pipeline := { session := Session.fresh (.ofCapacity 1) }
    let pipeline := (start.perform setup world cycle).2
    let after := (pipeline.perform setup world cycle).2.session
    (pipeline.session.stats.get .sitemap).lastError =
        some "Search cluster unreachable at 'http://search.test': down" ∧
      ∃ attempt, Course setup world .sitemap pipeline.session [attempt] after ∧
        attempt.exchange.refused = [Artifact.document world.now entry] ∧
        (attempt.after.stats.get .sitemap).lastError = none := by
  intro entry setup world cycle start pipeline after
  have hkind : cycle.kind? = some .sitemap := rfl
  obtain ⟨attempts, hcourse, hledger, hattempts⟩ :=
    failure_leaves_error_unless_summary_empty setup world pipeline hkind
  let exchange := pipeline.session.bulkExchange setup world
    (Reporter.sitemap.targetAt "http://search.test") [Artifact.document world.now entry]
  have hsent : after.ledger = pipeline.session.ledger ++ [exchange] := by
    dsimp only [entry, setup, world, cycle, start, pipeline, after, exchange]
    rfl
  have hexchanges : attempts.map Attempt.exchange = [exchange] :=
    List.append_cancel_left (hledger.symm.trans hsent)
  obtain ⟨attempt, rfl, hexchange⟩ := List.map_eq_singleton_iff.mp hexchanges
  have hrefused : attempt.exchange.refused = [Artifact.document world.now entry] := by
    rw [hexchange]
    dsimp only [entry, setup, world, cycle, start, pipeline, exchange]
    rfl
  have hempty : attempt.exchange.reply.hasEmptySummary = true := by
    rw [hexchange]
    dsimp only [entry, setup, world, cycle, start, pipeline, exchange]
    rfl
  refine ⟨?_, attempt, hcourse, hrefused, ?_⟩
  · dsimp only [entry, setup, world, cycle, start, pipeline]
    rfl
  · refine ((hattempts attempt (List.mem_singleton_self attempt)).2 ?_).1 hempty
    rw [hrefused]
    exact List.cons_ne_nil _ _

end Pipeline

end SearchFeed
