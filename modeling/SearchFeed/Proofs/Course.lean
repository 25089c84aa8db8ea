import SearchFeed.Proofs.CycleEnd
import SearchFeed.Proofs.LiveMessage

/-! # The course of a cycle or a live message

A part of an export that has an index of its own makes its requests to that
index one after the other, and counts each of them at once. Between them it
tells of what it does, and what was read is noted; only what goes to the
traffic index is kept for another attempt. All cycles and live messages take
such a course, so what its steps keep up holds wherever one of them ends.
-/

namespace SearchFeed

/-- An attempt to deliver documents: the session that it is made in, the exchange, and the session
right after what came of it was counted. -/
structure Attempt where
  before : Session
  exchange : Exchange
  after : Session

namespace Attempt

section Making

variable (setup : Setup) (world : World) (target : Target) (session : Session)

def bulk (documents : List Document) : Attempt where
  before := session
  exchange := session.bulkExchange setup world target documents
  after := (session.deliverBulk setup world target documents).2

def single (errorText : IndexError → String) (document : Document) : Attempt where
  before := session
  exchange := session.singleExchange setup world target document
  after := (session.deliverSingle setup world target errorText document).2

/-- The attempts of the parts of an export, which do not call an error by an empty text. -/
inductive Made : Attempt → Prop
  | bulk (session : Session) (documents : List Document) :
      Made (.bulk setup world target session documents)
  | single (session : Session) {errorText : IndexError → String}
      (htold : ∀ error, errorText error ≠ "") (document : Document) :
      Made (.single setup world target session errorText document)

end Making

variable {setup : Setup} {world : World} {target : Target} {attempt : Attempt}

theorem Made.ledger (hmade : Made setup world target attempt) :
    attempt.after.ledger = attempt.before.ledger ++ [attempt.exchange] := by
  cases hmade with
  | bulk session documents => exact session.deliverBulk_ledger setup world target documents
  | single session _ document => exact session.deliverSingle_ledger setup world target _ document

theorem Made.index (hmade : Made setup world target attempt) :
    attempt.exchange.request.index = setup.naming.name target.kind := by
  cases hmade <;> rfl

end Attempt

section Courses

variable (setup : Setup) (world : World) (kind : IndexKind)

/-- The course of an operation from its start, with its attempts to deliver documents to the index
of one kind. In between there is telling and reading, and documents for the traffic index may be
kept for another attempt. -/
inductive Course (start : Session) : List Attempt → Session → Prop
  | start : Course start [] start
  | aside {attempts : List Attempt} {session : Session}
      (hcourse : Course start attempts session) (logs : LogBuffer) (fetches : List DataSource) :
      Course start attempts { session with logs, fetches }
  | kept {attempts : List Attempt} {session : Session}
      (hcourse : Course start attempts session) (htraffic : kind = .traffic)
      (documents : List Document) :
      Course start attempts
        (session.enqueueFailed world.now (setup.naming.name .traffic) documents).2
  | attempted {attempts : List Attempt} {attempt : Attempt} {sender : Sender} {baseUrl : String}
      (hcourse : Course start attempts attempt.before)
      (hmade : attempt.Made setup world ⟨sender, baseUrl, kind⟩) :
      Course start (attempts ++ [attempt]) attempt.after

/-- An operation gets from one session to another by attempts for the index of one kind. -/
def Leads (start session : Session) : Prop :=
  ∃ attempts, Course setup world kind start attempts session

end Courses

section Following

variable {setup : Setup} {world : World} {kind : IndexKind} {start session : Session}
  {attempts : List Attempt}

/-- The ledger grows by the exchanges of the attempts, one after the other. -/
theorem Course.ledger (hcourse : Course setup world kind start attempts session) :
    session.ledger = start.ledger ++ attempts.map Attempt.exchange := by
  induction hcourse with
  | start => rw [List.map_nil, List.append_nil]
  | aside _ _ _ ih => exact ih
  | kept _ _ documents ih => rw [Session.enqueueFailed_ledger, ih]
  | attempted _ hmade ih =>
      rw [hmade.ledger, ih, List.map_append, List.map_singleton, List.append_assoc]

theorem Leads.refl (session : Session) : Leads setup world kind session session := ⟨[], .start⟩

/-- What is logged and fetched makes no difference to the attempts. -/
theorem Leads.aside (hleads : Leads setup world kind start session) (logs : LogBuffer)
    (fetches : List DataSource) : Leads setup world kind start { session with logs, fetches } := by
  obtain ⟨attempts, hcourse⟩ := hleads
  exact ⟨attempts, hcourse.aside logs fetches⟩

theorem Leads.tell (hleads : Leads setup world kind start session) (now : Instant)
    (event : Event) : Leads setup world kind start (session.tell now event) := by
  obtain ⟨logs, hlogs⟩ := session.tell_eq now event
  rw [hlogs]
  exact hleads.aside logs session.fetches

/-- Keeping refused documents of the traffic for another attempt is no attempt. -/
theorem Leads.kept (hleads : Leads setup world .traffic start session)
    (documents : List Document) :
    Leads setup world .traffic start
      (session.enqueueFailed world.now (setup.naming.name .traffic) documents).2 := by
  obtain ⟨attempts, hcourse⟩ := hleads
  exact ⟨attempts, hcourse.kept rfl documents⟩

/-- A bulk delivery is an attempt more. -/
theorem Leads.deliverBulk (hleads : Leads setup world kind start session) (sender : Sender)
    (baseUrl : String) (documents : List Document) :
    Leads setup world kind start
      (session.deliverBulk setup world ⟨sender, baseUrl, kind⟩ documents).2 := by
  obtain ⟨attempts, hcourse⟩ := hleads
  exact ⟨_, Course.attempted hcourse (.bulk session documents)⟩

/-- A delivery of one document is an attempt more, if its error text says something. -/
theorem Leads.deliverSingle (hleads : Leads setup world kind start session) (sender : Sender)
    (baseUrl : String) {errorText : IndexError → String} (htold : ∀ error, errorText error ≠ "")
    (document : Document) :
    Leads setup world kind start
      (session.deliverSingle setup world ⟨sender, baseUrl, kind⟩ errorText document).2 := by
  obtain ⟨attempts, hcourse⟩ := hleads
  exact ⟨_, Course.attempted hcourse (.single session htold document)⟩

end Following

section Cycles

variable (setup : Setup) (world : World) (session : Session)

/-- A cycle over fetched items gets where its flushes get. -/
theorem Stream.cycle_leads {α κ μ : Type} {kind : IndexKind} {stream : String → Stream α κ μ}
    (hflush : ∀ (baseUrl : String) (batch : Batch κ) (progress : Progress μ),
      Leads setup world kind session progress.session →
        Leads setup world kind session ((stream baseUrl).flush batch progress).session)
    (source : DataSource) (fetched : Except SourceError (List α)) (memory : μ) :
    Leads setup world kind session
      (cycle stream setup world source fetched memory session).2.2 := by
  rcases cycle_cases source memory session stream setup world fetched with
    ⟨reason, -, hcycle⟩ | ⟨baseUrl, error, -, -, hcycle⟩ | ⟨baseUrl, items, -, -, hcycle⟩
  · rw [hcycle]
    exact .refl session
  · rw [hcycle]
    exact (Leads.refl session).aside session.logs _
  · rw [hcycle]
    refine @runFrom_keeps _ _ _ (stream baseUrl) _ _ _
      (fun progress => Leads setup world kind session progress.session) ?_ ?_ (hflush baseUrl)
      items _ ?_
    · exact fun _ event hleads => hleads.tell world.now event
    · exact fun _ _ hleads => hleads
    · exact (Leads.refl session).aside session.logs _

/-- All that a keyed cycle does to its counters comes of its attempts. -/
theorem keyedCycle_leads (α : Type) [KeyedArtifact α] (mode : RunMode)
    (delivered : DeliveredKeys) :
    Leads setup world (Artifact.kind α) session
      (keyedCycle α setup world mode delivered session).2.2 := by
  refine Stream.cycle_leads setup world session ?_ _ _ delivered
  intro baseUrl batch progress hleads
  exact hleads.deliverBulk _ baseUrl batch.documents

/-- All that a cycle of recorded messages does to its counters comes of its attempts. -/
theorem historyCycle_leads :
    Leads setup world .traffic session (historyCycle setup world session).2 := by
  refine Stream.cycle_leads setup world session ?_ _ _ ()
  intro baseUrl batch progress hleads
  have hsent := hleads.deliverBulk (.source .proxyHistory) baseUrl batch.documents
  rw [history_flush_eq]
  split
  · exact hsent
  · exact hsent.kept _

/-- All that a settings cycle does to its counters comes of its attempts. -/
theorem settingsCycle_leads (mode : RunMode) (lastPushed : Option Digest) :
    Leads setup world .settings session
      (settingsCycle setup world mode lastPushed session).2.2 := by
  have hstart : Leads setup world .settings session session := .refl session
  unfold settingsCycle
  cases session.switches.preflight .settings with
  | error reason => exact hstart
  | ok baseUrl =>
      dsimp only
      split
      · exact hstart
      split
      · exact hstart
      split
      · exact hstart
      split
      · exact hstart
      next exported _ _ _ projectId _ =>
        have htold : "Settings index push failed" ≠ "" := by decide
        have hsent := hstart.deliverSingle (.source .settings) baseUrl (fun _ => htold)
          (settingsDocument world.now projectId exported)
        unfold pushSettings
        dsimp only
        split
        · exact hsent
        · exact hsent.tell world.now _

/-- All that a report on the export does to its counters comes of its attempts. -/
theorem selfCycle_leads {reporter : SelfReporter} (htold : reporter.errorText ≠ "") :
    Leads setup world .tool session (reporter.cycle setup world session).2 := by
  have hstart : Leads setup world .tool session session := .refl session
  unfold SelfReporter.cycle
  split
  · exact hstart
  next baseUrl _ =>
    have hsent := hstart.deliverSingle reporter.sender baseUrl (fun _ => htold)
      (reporter.document setup world.now baseUrl session)
    dsimp only
    split
    · exact hsent
    · exact hsent.tell world.now _

/-- All that a live message does to its counters comes of its attempts. -/
theorem recordTraffic_leads (record : TrafficRecord) (hostInScope : Bool) :
    Leads setup world .traffic session
      (session.recordTraffic setup world record hostInScope).2 := by
  have hdecided : Leads setup world .traffic session
      (session.decidedLive world record hostInScope) := (Leads.refl session).tell world.now _
  cases hpreflight : session.switches.preflight .traffic with
  | error reason =>
      rw [Session.recordTraffic_skipped hpreflight]
      exact .refl session
  | ok baseUrl =>
      by_cases hadmitted : session.admitsLive record hostInScope
      · have hsent : Leads setup world .traffic session
            (session.sentLive setup world record hostInScope baseUrl).2 :=
          hdecided.deliverSingle (.source .traffic) baseUrl IndexError.message_ne_empty _
        cases hreply : (session.sentLive setup world record hostInScope baseUrl).1 with
        | ok _ =>
            rw [Session.recordTraffic_taken hpreflight hadmitted hreply]
            exact hsent
        | error error =>
            rw [Session.recordTraffic_failed hpreflight hadmitted hreply]
            exact (hsent.tell world.now _).kept _
      · rw [Session.recordTraffic_outOfScope hpreflight hadmitted]
        exact hdecided

end Cycles

namespace Pipeline

variable (setup : Setup) (world : World) (pipeline : Pipeline)

/-- A cycle of any reporter keeps to the index of the reporter. -/
theorem cycle_leads (reporter : Reporter) (mode : RunMode) :
    Leads setup world reporter.kind pipeline.session
      (pipeline.cycle setup world reporter mode).2.session := by
  obtain ⟨session, memory⟩ := pipeline
  cases reporter with
  | settings => exact settingsCycle_leads setup world session mode memory.settings
  | sitemap => exact keyedCycle_leads setup world session SitemapEntry mode memory.sitemap
  | findings => exact keyedCycle_leads setup world session Finding mode memory.findings
  | proxyHistory => exact historyCycle_leads setup world session
  | toolStats => exact selfCycle_leads setup world session (by decide)
  | configSnapshot => exact selfCycle_leads setup world session (by decide)

end Pipeline

end SearchFeed
