import SearchFeed.Proofs.Footprint

/-! # The statistics and the ledger

Whatever an export does, the counters of an index say what its ledger says.
Documents that get in are counted for whoever sends them, except for the
forwarder of log documents, which is counted nowhere. Documents that do not get
in are counted once only: what a drain pass sends again has been counted before.
-/

namespace SearchFeed

namespace Sender

/-- Whether documents that a sender gets in are counted. -/
def isCredited (sender : Sender) : Bool := sender ≠ .forwarder

/-- Whether requests of a sender are counted in full. -/
def isCounted (sender : Sender) : Bool := sender ≠ .forwarder && sender ≠ .retry

end Sender

/-- The exchanges with the index of a kind whose documents are counted once they get in. -/
def creditedTo (setup : Setup) (kind : IndexKind) (exchanges : List Exchange) : List Exchange :=
  exchanges.filter fun exchange =>
    exchange.request.index = setup.naming.name kind && exchange.request.sender.isCredited

/-- The exchanges with the index of a kind that are counted in full. -/
def countedFor (setup : Setup) (kind : IndexKind) (exchanges : List Exchange) : List Exchange :=
  exchanges.filter fun exchange =>
    exchange.request.index = setup.naming.name kind && exchange.request.sender.isCounted

theorem creditedTo_append (setup : Setup) (kind : IndexKind) (first second : List Exchange) :
    creditedTo setup kind (first ++ second) =
      creditedTo setup kind first ++ creditedTo setup kind second := List.filter_append ..

theorem countedFor_append (setup : Setup) (kind : IndexKind) (first second : List Exchange) :
    countedFor setup kind (first ++ second) =
      countedFor setup kind first ++ countedFor setup kind second := List.filter_append ..

namespace Counters

/-- Counters after some requests to several indexes by several senders. -/
structure Follows (setup : Setup) (kind : IndexKind) (before after : Counters)
    (exchanges : List Exchange) : Prop where
  success : after.success =
    before.success + .ofNat (takenBy (creditedTo setup kind exchanges)).length
  failure : after.failure =
    before.failure + .ofNat (missedBy (countedFor setup kind exchanges)).length
  timed : after.lastPush.isSome ↔
    before.lastPush.isSome ∨ countedFor setup kind exchanges ≠ []

variable {setup : Setup} {kind : IndexKind} {before middle after : Counters}
  {exchanges first second : List Exchange}

/-- What two stretches of exchanges add to the counters adds up. -/
theorem Follows.trans (hfirst : Follows setup kind before middle first)
    (hsecond : Follows setup kind middle after second) :
    Follows setup kind before after (first ++ second) where
  success := by
    rw [hsecond.success, hfirst.success, creditedTo_append, takenBy_append, List.length_append,
      UInt64.ofNat_add, UInt64.add_assoc]
  failure := by
    rw [hsecond.failure, hfirst.failure, countedFor_append, missedBy_append, List.length_append,
      UInt64.ofNat_add, UInt64.add_assoc]
  timed := by
    rw [hsecond.timed, hfirst.timed, or_assoc, countedFor_append, ne_eq, ne_eq, ne_eq,
      List.append_eq_nil_iff, not_and_or]

/-- Requests that are not counted leave the counters alone. -/
theorem Follows.uncounted (hsame : after = before)
    (hcredited : creditedTo setup kind exchanges = [])
    (hcounted : countedFor setup kind exchanges = []) :
    Follows setup kind before after exchanges where
  success := by
    rw [hsame, hcredited]
    exact (UInt64.add_zero _).symm
  failure := by
    rw [hsame, hcounted]
    exact (UInt64.add_zero _).symm
  timed := by simp [hsame, hcounted]

/-- Counters that have gained what all exchanges say follow them, if all are counted. -/
theorem Follows.counted (hgained : before.Gained after exchanges)
    (hcredited : creditedTo setup kind exchanges = exchanges)
    (hcounted : countedFor setup kind exchanges = exchanges) :
    Follows setup kind before after exchanges where
  success := by rw [hcredited, hgained.success]
  failure := by rw [hcounted, hgained.failure]
  timed := by rw [hcounted, hgained.timed]

end Counters

namespace Session

/-- What some work has added to the ledger is what it has added to the counters. -/
structure Booked (setup : Setup) (before after : Session) (exchanges : List Exchange) :
    Prop where
  ledger : after.ledger = before.ledger ++ exchanges
  counters (kind : IndexKind) :
    (before.stats.get kind).Follows setup kind (after.stats.get kind) exchanges

section Booking

variable {setup : Setup} {before middle after : Session} {exchanges first second : List Exchange}

theorem Booked.trans (hfirst : Booked setup before middle first)
    (hsecond : Booked setup middle after second) :
    Booked setup before after (first ++ second) where
  ledger := by rw [hsecond.ledger, hfirst.ledger, List.append_assoc]
  counters kind := (hfirst.counters kind).trans (hsecond.counters kind)

/-- Where nothing is sent and no counter changes, nothing is to be booked. -/
theorem Booked.still (hledger : after.ledger = before.ledger)
    (hstats : after.stats = before.stats) : Booked setup before after [] where
  ledger := by rw [hledger, List.append_nil]
  counters kind := .uncounted (congrArg (Stats.get · kind) hstats) rfl rfl

/-- A stretch of work for one index is booked there and nowhere else. -/
theorem Stint.booked {target : Target} (hsender : target.sender.isCounted = true)
    (hstint : Stint setup target before after exchanges) :
    Booked setup before after exchanges where
  ledger := hstint.ledger
  counters kind := by
    have hcredited : target.sender.isCredited = true := by
      simp only [Sender.isCounted, Bool.and_eq_true] at hsender
      exact hsender.1
    by_cases hkind : kind = target.kind
    · subst hkind
      refine .counted hstint.gained ?_ ?_ <;>
      · apply List.filter_eq_self.mpr
        intro exchange hmem
        obtain ⟨hfrom, -, hindex⟩ := hstint.requests exchange hmem
        simp [hfrom, hindex, hcredited, hsender]
    · refine .uncounted (hstint.others kind hkind) ?_ ?_ <;>
      · apply List.filter_eq_nil_iff.mpr
        intro exchange hmem
        obtain ⟨-, -, hindex⟩ := hstint.requests exchange hmem
        have hapart := setup.naming.name_injective.ne (Ne.symm hkind)
        simp [hindex, hapart]

/-- A drain pass gets documents in, and none of them counts as failing once more. -/
theorem Retries.booked {baseUrl : String} {indexes : List String}
    (hpass : Retries setup baseUrl indexes before after exchanges) :
    Booked setup before after exchanges where
  ledger := hpass.ledger
  counters kind := by
    have hretry : ∀ exchange ∈ exchanges, exchange.request.sender = .retry := by
      intro exchange hmem
      obtain ⟨index, -, hrequest⟩ := hpass.requests exchange hmem
      rw [hrequest]
    have hcredited : creditedTo setup kind exchanges =
        exchangesWith (setup.naming.name kind) exchanges := by
      apply List.filter_congr
      intro exchange hmem
      rw [hretry exchange hmem]
      exact Bool.and_true _
    have hcounted : countedFor setup kind exchanges = [] := by
      apply List.filter_eq_nil_iff.mpr
      intro exchange hmem
      simp [hretry exchange hmem, Sender.isCounted]
    constructor
    · rw [hcredited, hpass.counters]
      rfl
    · rw [hcounted, hpass.counters]
      exact (UInt64.add_zero _).symm
    · simp [hcounted, hpass.counters, Counters.credited]

/-- Log documents are booked nowhere. -/
theorem booked_forwarded {baseUrl index : String} {documents : List Document} {reply : BulkReply}
    {logs : LogBuffer} (hafter : after = { before with
      logs
      ledger := before.ledger ++ [⟨⟨.forwarder, baseUrl, index, .bulk documents⟩, .bulk reply⟩] }) :
    ∃ exchanges, Booked setup before after exchanges := by
  subst hafter
  refine ⟨_, rfl, fun kind => .uncounted rfl ?_ ?_⟩
  · simp [creditedTo, Sender.isCredited]
  · simp [countedFor, Sender.isCounted]

end Booking

end Session

/-- Whatever has an index of its own to send to is counted there. -/
theorem Operation.isCounted_of_target {operation : Operation} {baseUrl : String}
    {target : Target} (htarget : operation.target? baseUrl = some target) :
    target.sender.isCounted = true := by
  cases operation with
  | cycle reporter mode guard =>
      cases htarget
      cases reporter <;> rfl
  | record record hostInScope =>
      cases htarget
      rfl
  | drain => cases htarget
  | forward => cases htarget
  | switch change => cases htarget
  | scope scope => cases htarget

namespace Pipeline

variable (setup : Setup) (world : World) (pipeline : Pipeline)

/-- An operation changes the counters by what it has sent. -/
theorem perform_booked (operation : Operation) (hqueue : pipeline.session.queue.Reachable) :
    ∃ exchanges, Session.Booked setup pipeline.session
      (pipeline.perform setup world operation).2.session exchanges := by
  rcases perform_cases operation hqueue with
    ⟨switches, logs, fetches, hafter⟩ | ⟨url, -, ⟨target, exchanges, htarget, hstint⟩ |
      ⟨-, exchanges, hpass⟩ | ⟨-, documents, reply, logs, hafter⟩⟩
  · exact ⟨[], .still (by rw [hafter]) (by rw [hafter])⟩
  · exact ⟨exchanges, hstint.booked (Operation.isCounted_of_target htarget)⟩
  · exact ⟨exchanges, hpass.booked⟩
  · exact Session.booked_forwarded hafter

/-- Operations change the counters by what they have sent, all in all. -/
theorem performAll_booked (operations : List (World × Operation))
    (hqueue : pipeline.session.queue.Reachable) :
    ∃ exchanges, Session.Booked setup pipeline.session
      (pipeline.performAll setup operations).session exchanges := by
  induction operations generalizing pipeline with
  | nil => exact ⟨[], .still rfl rfl⟩
  | cons first rest ih =>
      obtain ⟨made, hmade⟩ := perform_booked setup first.1 pipeline first.2 hqueue
      obtain ⟨more, hmore⟩ := ih _ (perform_reachable first.2 hqueue)
      exact ⟨made ++ more, hmade.trans hmore⟩

/-- A pipeline that has done nothing yet. -/
def unused (switches : Switches) (started : Instant) (capacity : Nat) (logs : LogBuffer)
    (listening : Option Level) : Pipeline where
  session := { switches, stats := .start started, queue := .ofCapacity capacity, logs, listening }

/-- After any operations, the counters of every index say what the ledger says, and the summary of
the next completed cycle says by how much they grow. -/
theorem stats_agree_with_ledger (setup : Setup) (switches : Switches) (started : Instant)
    (capacity : Nat) (logs : LogBuffer) (listening : Option Level)
    (operations : List (World × Operation)) :
    let pipeline := (unused switches started capacity logs listening).performAll setup operations
    (∀ kind : IndexKind,
      let counters := pipeline.session.stats.get kind
      let credited := creditedTo setup kind pipeline.session.ledger
      let counted := countedFor setup kind pipeline.session.ledger
      counters.success = .ofNat (takenBy credited).length ∧
      counters.failure = .ofNat (missedBy counted).length ∧
      (counters.lastPush.isSome = true ↔ counted ≠ [])) ∧
    ∀ (world : World) (reporter : Reporter) (mode : RunMode) (guard : Guard)
      (summary : CycleSummary),
      let logged := pipeline.loggedCycle setup world reporter mode guard
      logged.1 = .ok (.completed summary) → ∀ kind : IndexKind,
        let before := pipeline.session.stats.get kind
        let after := logged.2.2.session.stats.get kind
        if kind = reporter.kind then
          after.success = before.success + .ofNat summary.succeeded ∧
            after.failure = before.failure + .ofNat summary.failed
        else after = before := by
  intro pipeline
  refine ⟨?_, ?_⟩
  · intro kind counters credited counted
    obtain ⟨exchanges, hledger, hcounters⟩ := performAll_booked setup
      (unused switches started capacity logs listening) operations (.start capacity)
    obtain rfl : pipeline.session.ledger = exchanges := hledger
    have hfollows := hcounters kind
    have hzero : (unused switches started capacity logs listening).session.stats.get kind =
        .zero := by cases kind <;> rfl
    rw [hzero] at hfollows
    refine ⟨hfollows.success.trans (UInt64.zero_add _), hfollows.failure.trans (UInt64.zero_add _),
      hfollows.timed.trans ?_⟩
    simp [Counters.zero, counted]
  · intro world reporter mode guard summary logged hcompleted kind before after
    rcases loggedCycle_ends setup world pipeline reporter mode guard with
      ⟨hunfinished, -⟩ | ⟨url, -, exchanges, total, hresult, hstint, hsucceeded, hfailed⟩
    · exact absurd hcompleted (hunfinished summary)
    · obtain rfl : summary = total := by
        have hsame := hcompleted.symm.trans hresult
        injection hsame with hsame
        injection hsame
      split
      next hkind =>
        subst hkind
        rw [hsucceeded, hfailed]
        exact ⟨hstint.gained.success, hstint.gained.failure⟩
      next hkind => exact hstint.others kind hkind

/-- A live message is refused, and the cycle of recorded messages gets it in. -/
theorem stats_agree_with_ledger_refused_first :
    let record : TrafficRecord :=
      ⟨1, "http://a.test/", "GET", "a.test", 80, false, "proxy", none, .null, .null, []⟩
    let setup : Setup := { naming := ⟨"a"⟩ }
    let world := World.rehearsed ⟨[.reject [0]], .succeed⟩ { proxyHistory := .ok [record] }
    let switches : Switches := { running := true, baseUrl := some "http://search.test" }
    let pipeline := (unused switches ⟨0⟩ 1 .standard none).performAll setup
      [(world, .record record true)]
    let logged := pipeline.loggedCycle setup world .proxyHistory .pushAll {}
    let traffic := pipeline.session.stats.get .traffic
    let traffic' := logged.2.2.session.stats.get .traffic
    traffic.success = 0 ∧ traffic.failure = 1 ∧ traffic.lastPush.isSome = true ∧
      traffic'.success = traffic.success + 1 ∧ traffic'.failure = traffic.failure := by
  intro record setup world switches pipeline logged traffic traffic'
  obtain ⟨hcounters, hcycles⟩ := stats_agree_with_ledger setup switches ⟨0⟩ 1 .standard none
    [(world, .record record true)]
  obtain ⟨hsuccess, hfailure, htimed⟩ := hcounters .traffic
  have hcompleted : logged.1 = .ok (.completed ⟨1, 1, 1, 1, 0, 0⟩) := by
    dsimp only [record, setup, world, switches, pipeline, logged]
    rfl
  obtain ⟨hgained, hmissed⟩ := hcycles world .proxyHistory .pushAll {} _ hcompleted .traffic
  refine ⟨hsuccess.trans ?_, hfailure.trans ?_, htimed.mpr ?_, hgained,
    hmissed.trans (UInt64.add_zero _)⟩
  · dsimp only [record, setup, world, switches]
    rfl
  · dsimp only [record, setup, world, switches]
    rfl
  · dsimp only [record, setup, world, switches]
    exact List.cons_ne_nil _ _

end Pipeline

end SearchFeed
