import SearchFeed.Forwarder
import SearchFeed.Proofs.Unbatched

/-! # Forwarding empties the buffer of log documents

Batches of log documents are sent until one is not full. What is sent has left
the buffer before its reply is there, and nobody looks at the reply. So however
the cluster answers, each batch takes up where the last one ended, and the
number of log documents settles how many batches there are.
-/

namespace SearchFeed

namespace Session

def forwardRequest (setup : Setup) (baseUrl : String) (documents : List Document) : Request :=
  ⟨.forwarder, baseUrl, setup.naming.name .tool, .bulk documents⟩

/-- Some batches of log documents have left the buffer, oldest first, and each was sent in a request
of its own. Nothing else about the session is different. -/
structure Forwarded (setup : Setup) (baseUrl : String) (before after : Session)
    (batches : List (List Document)) : Prop where
  session : ∃ logs exchanges,
    after = { before with logs, ledger := before.ledger ++ exchanges } ∧
      exchanges.map Exchange.request = batches.map (forwardRequest setup baseUrl)
  entries : batches.flatten ++ after.logs.entries = before.logs.entries

variable {setup : Setup} {world : World} {baseUrl : String} {before middle after : Session}

theorem Forwarded.trans {first second : List (List Document)}
    (hfirst : Forwarded setup baseUrl before middle first)
    (hsecond : Forwarded setup baseUrl middle after second) :
    Forwarded setup baseUrl before after (first ++ second) where
  session := by
    obtain ⟨_, made, hmiddle, hmade⟩ := hfirst.session
    obtain ⟨logs, more, hafter, hmore⟩ := hsecond.session
    refine ⟨logs, made ++ more, ?_, ?_⟩
    · rw [hafter, hmiddle, List.append_assoc]
    · rw [List.map_append, List.map_append, hmade, hmore]
  entries := by
    rw [← hfirst.entries, ← hsecond.entries, List.flatten_append, List.append_assoc]

/-- The batch that is sent next, if any log document waits. -/
def nextBatch (session : Session) : List (List Document) :=
  if session.logs.entries = [] then [] else [session.logs.entries.take forwardBatch]

/-- The next batch is the oldest entries of the log, as many as one request takes. -/
theorem flatten_nextBatch (session : Session) :
    session.nextBatch.flatten = session.logs.entries.take forwardBatch := by
  unfold nextBatch
  split
  next hnone => rw [hnone]; rfl
  next => exact List.append_nil _

theorem map_length_nextBatch (session : Session) :
    session.nextBatch.map List.length =
      if session.logs.size = 0 then [] else [min forwardBatch session.logs.size] := by
  unfold nextBatch
  by_cases hnone : session.logs.entries = []
  · rw [if_pos hnone, if_pos (by rw [LogBuffer.size, hnone]; rfl)]
    rfl
  · rw [if_neg hnone, if_neg (by rwa [LogBuffer.size, List.length_eq_zero_iff])]
    simp [LogBuffer.size]

/-- With nothing in the log a pass sends no request. -/
theorem forwardOnce_idle {session : Session}
    (hready : session.switches.destination = .ok baseUrl) (hnone : session.logs.entries = []) :
    session.forwardOnce setup world =
      (0, { session with logs := (session.logs.drain forwardBatch).2 }) := by
  rw [forwardOnce, hready]
  exact if_pos (by simp [hnone])

/-- With something in the log a pass sends one request with the drained documents. -/
theorem forwardOnce_sent {session : Session}
    (hready : session.switches.destination = .ok baseUrl) (hsome : session.logs.entries ≠ []) :
    session.forwardOnce setup world =
      (let (documents, logs) := session.logs.drain forwardBatch
       (documents.length, ({ session with logs }.sendBulk world.cluster .forwarder baseUrl
         (setup.naming.name .tool) documents).2)) := by
  rw [forwardOnce, hready]
  exact if_neg (by simpa [LogBuffer.drain, forwardBatch] using hsome)

/-- One batch is sent if any log document waits, and its size is what is said. -/
theorem forwardOnce_forwarded {session : Session}
    (hready : session.switches.destination = .ok baseUrl) :
    let first := session.forwardOnce setup world
    first.1 = min forwardBatch session.logs.size ∧
      Forwarded setup baseUrl session first.2 session.nextBatch := by
  intro first
  by_cases hnone : session.logs.entries = []
  · have hfirst : first = _ := forwardOnce_idle hready hnone
    rw [hfirst, LogBuffer.size, nextBatch, if_pos hnone]
    refine ⟨by simp [hnone], ⟨_, [], by rw [List.append_nil], rfl⟩, ?_⟩
    simp [LogBuffer.drain, hnone]
  · have hfirst : first = _ := forwardOnce_sent hready hnone
    rw [hfirst, nextBatch, if_neg hnone]
    refine ⟨List.length_take, ⟨_, [_], rfl, rfl⟩, ?_⟩
    rw [List.flatten_singleton]
    exact List.take_append_drop forwardBatch session.logs.entries

/-- Forwarding does not touch the switches, so a ready session stays ready. -/
theorem Forwarded.ready {batches : List (List Document)}
    (hforwarded : Forwarded setup baseUrl before after batches)
    (hready : before.switches.destination = .ok baseUrl) :
    after.switches.destination = .ok baseUrl := by
  obtain ⟨_, _, hafter, -⟩ := hforwarded.session
  rw [hafter]
  exact hready

/-- The log is what was forwarded of it and what is left. -/
theorem Forwarded.size_eq {batches : List (List Document)}
    (hforwarded : Forwarded setup baseUrl before after batches) :
    before.logs.size = batches.flatten.length + after.logs.size := by
  rw [LogBuffer.size, LogBuffer.size, ← List.length_append, hforwarded.entries]

/-- The sizes that a number of log documents is cut into: full batches, and then what is made of
the rest. -/
def cutSizes (last : Nat → List Nat) (count : Nat) : List Nat :=
  List.replicate (count / forwardBatch) forwardBatch ++ last (count % forwardBatch)

/-- One full request's worth more is one full request more, ahead of the others. -/
theorem cutSizes_add (last : Nat → List Nat) (count : Nat) :
    cutSizes last (count + forwardBatch) = forwardBatch :: cutSizes last count := by
  have hpositive : 0 < forwardBatch := by decide
  rw [cutSizes, Nat.add_div_right count hpositive, Nat.add_mod_right, List.replicate_succ]
  rfl

theorem cutSizes_of_lt (last : Nat → List Nat) {count : Nat} (hfew : count < forwardBatch) :
    cutSizes last count = last count := by
  rw [cutSizes, Nat.div_eq_of_lt hfew, Nat.mod_eq_of_lt hfew]
  rfl

/-- Sending goes on for as long as full batches come, and with the first one that is not full the
buffer is empty. -/
theorem forwardAll_forwarded (setup : Setup) (world : World) (session : Session)
    (hready : session.switches.destination = .ok baseUrl) :
    let all := session.forwardAll setup world
    all.1 = cutSizes (fun left => [left]) session.logs.size ∧
      ∃ batches, Forwarded setup baseUrl session all.2 batches ∧
        batches.map List.length =
          cutSizes (fun left => if left = 0 then [] else [left]) session.logs.size ∧
        all.2.logs.entries = [] := by
  induction session using forwardAll.induct setup world with
  | case1 session first hfull ih =>
      intro all
      obtain ⟨hsaid, hsent⟩ : first.1 = _ ∧ _ := forwardOnce_forwarded hready
      obtain ⟨hcounts, batches, hothers, hsizes, hempty⟩ := ih (hsent.ready hready)
      have hall : all = (first.1 :: (first.2.forwardAll setup world).1,
          (first.2.forwardAll setup world).2) := by
        simp only [all]
        rw [forwardAll, if_pos hfull]
      have hsize : session.logs.size = first.2.logs.size + forwardBatch := by
        have hleft := hsent.size_eq
        rw [flatten_nextBatch, List.length_take, ← LogBuffer.size, ← hsaid, hfull] at hleft
        rw [hleft, Nat.add_comm]
      have hnext : session.nextBatch.map List.length = [forwardBatch] := by
        rw [map_length_nextBatch, ← hsaid, hfull, if_neg]
        rw [hsize]
        exact Nat.succ_ne_zero _
      rw [hall, hsize, cutSizes_add, cutSizes_add, ← hcounts, ← hsizes, hfull]
      exact ⟨rfl, _, hsent.trans hothers, by rw [List.map_append, hnext]; rfl, hempty⟩
  | case2 session first hshort =>
      intro all
      obtain ⟨hsaid, hsent⟩ : first.1 = _ ∧ _ := forwardOnce_forwarded hready
      have hall : all = ([first.1], first.2) := by
        simp only [all]
        rw [forwardAll, if_neg hshort]
      have hfew : session.logs.size < forwardBatch := by omega
      have hwhole : min forwardBatch session.logs.size = session.logs.size :=
        Nat.min_eq_right hfew.le
      rw [hall, cutSizes_of_lt _ hfew, cutSizes_of_lt _ hfew, hsaid, hwhole]
      refine ⟨rfl, _, hsent, by rw [map_length_nextBatch, hwhole], ?_⟩
      have hleft := hsent.size_eq
      rw [flatten_nextBatch, List.length_take, ← LogBuffer.size, hwhole] at hleft
      exact List.length_eq_zero_iff.mp (Nat.add_eq_left.mp hleft.symm)

end Session

/-- Whatever the cluster replies, log documents are sent in calls of a hundred until one has fewer,
which is the last. The requests go to the tool index and hold a hundred documents each, but for the
last one if some are left over. Together they hold what was in the buffer, in its order, and
then it is empty. Neither the statistics nor the retry queue take note. -/
theorem forwarding_empties_buffer (setup : Setup) (world : World) (session : Session)
    {baseUrl : String} (hready : session.switches.destination = .ok baseUrl) :
    let count := session.logs.size
    let calls := (session.forwardAll setup world).1
    let after := (session.forwardAll setup world).2
    let sent := session.exchangesSince after
    calls = List.replicate (count / 100) 100 ++ [count % 100] ∧
    calls.length = count / 100 + 1 ∧
    after.ledger = session.ledger ++ sent ∧
    (∀ exchange ∈ sent, exchange.request = ⟨.forwarder, baseUrl, setup.naming.name .tool,
      .bulk exchange.request.payload.documents⟩) ∧
    sent.map (fun exchange => exchange.request.payload.documents.length) =
      List.replicate (count / 100) 100 ++ (if count % 100 = 0 then [] else [count % 100]) ∧
    session.submittedSince after = session.logs.entries ∧
    after.logs.entries = [] ∧
    after.stats = session.stats ∧ after.queue = session.queue := by
  intro count calls after sent
  obtain ⟨hcalls, batches, hforwarded, hsizes, hempty⟩ :=
    Session.forwardAll_forwarded setup world session hready
  obtain ⟨_, exchanges, hafter, hrequests⟩ := hforwarded.session
  have hledger : after.ledger = session.ledger ++ exchanges := congrArg Session.ledger hafter
  obtain rfl : sent = exchanges := Session.exchangesSince_eq hledger
  have hdocuments : sent.map (fun exchange => exchange.request.payload.documents) = batches := by
    have hsame := congrArg (List.map fun request => request.payload.documents) hrequests
    simpa [Function.comp_def, Session.forwardRequest, Payload.documents] using hsame
  refine ⟨hcalls, ?_, hledger, ?_, ?_, ?_, hempty,
    (congrArg Session.stats hafter).trans rfl, (congrArg Session.queue hafter).trans rfl⟩
  · simp [calls, hcalls, Session.cutSizes, forwardBatch, count]
  · intro exchange hmem
    have hrequest : exchange.request ∈ batches.map (Session.forwardRequest setup baseUrl) :=
      hrequests ▸ List.mem_map_of_mem hmem
    obtain ⟨documents, -, hmade⟩ := List.mem_map.mp hrequest
    rw [← hmade]
    rfl
  · rw [← hdocuments, List.map_map] at hsizes
    exact hsizes
  · have hentries := hforwarded.entries
    rw [hempty, List.append_nil, ← hdocuments] at hentries
    exact hentries

/-- A hundred log documents and a cluster that cannot be reached: the one full batch is sent once,
and the call after it finds nothing. -/
theorem forwarding_empties_buffer_unreachable :
    let setup : Setup := { naming := ⟨"a"⟩ }
    let world := World.rehearsed ⟨[], .fail "down"⟩ {}
    let documents := List.replicate 100 Json.null
    let session : Session :=
      { Session.fresh (.ofCapacity 1) with logs := ⟨documents, 1000, 0⟩ }
    let calls := (session.forwardAll setup world).1
    let after := (session.forwardAll setup world).2
    session.switches.destination = .ok "http://search.test" ∧
      calls = [100, 0] ∧ (session.exchangesSince after).length = 1 ∧
      session.submittedSince after = documents ∧ after.logs.entries = [] := by
  intro setup world documents session calls after
  have hready : session.switches.destination = .ok "http://search.test" := by
    dsimp only [session, documents]
    rfl
  obtain ⟨hcalls, -, -, -, hsizes, hsent, hempty, -⟩ :=
    forwarding_empties_buffer setup world session hready
  have hcount : session.logs.size = 100 := List.length_replicate
  rw [hcount] at hcalls hsizes
  exact ⟨hready, hcalls, by simpa using congrArg List.length hsizes, hsent, hempty⟩

end SearchFeed
