import SearchFeed.Exporter
import SearchFeed.Proofs.Session
import SearchFeed.Proofs.SideBySide
import SearchFeed.Rehearsal

/-! # Where a login shows

Two exporters that are put together alike, but for the login in the address they
send to, go through the same run. What one of them sends is what the other one
sends, but for clock values and for the places where the statistics and the
forwarded log documents quote an address.
-/

namespace SearchFeed

variable {named : String → String → Prop} {heard : Option Level}

def ExporterParts.sendingTo (parts : ExporterParts) (baseUrl : String) : ExporterParts :=
  { parts with
    config := { parts.config with index := { parts.config.index with baseUrl := some baseUrl } } }

/-- What is sent but for clock values: by what part, to which index, and which documents. -/
def Request.timeless (request : Request) : Sender × String × List Document :=
  (request.sender, request.index, request.payload.documents.map request.sender.timeless)

/-- If events about the start of an export are taken in, addresses may stand for each other. -/
def MayQuote (named : String → String → Prop) (heard : Option Level) : Prop :=
  ∀ level, heard = some level → Level.info.rank ≤ level.rank →
    ∀ {address address'}, SameSite address address' → named address address'

namespace Pipeline.Alike

variable {one two : Pipeline}

/-- Cycles leave alike pipelines alike. -/
theorem cycles (setup : Setup) {world world' : World} (hworld : World.Alike named world world')
    (reporter : Reporter) (modes : List RunMode) (halike : Pipeline.Alike named heard one two) :
    Pipeline.Alike named heard (one.cycles setup world reporter modes)
      (two.cycles setup world' reporter modes) := by
  induction modes generalizing one two with
  | nil => exact halike
  | cons mode rest ih => exact ih (halike.loggedCycle setup hworld reporter mode {}).2

/-- What is done on another thread leaves pipelines alike, whether it is heard or not. -/
theorem onThread {act act' : Pipeline → Pipeline}
    (hact : ∀ {heard one two}, Pipeline.Alike named heard one two →
      Pipeline.Alike named heard (act one) (act' two))
    (hearing : Bool) (halike : Pipeline.Alike named heard one two) :
    Pipeline.Alike named heard (one.onThread hearing act) (two.onThread hearing act') := by
  have hsession := halike.session
  let listening (pipeline : Pipeline) := if hearing then pipeline.session.listening else none
  have hstarted : Pipeline.Alike named (if hearing then heard else none)
      { one with session := { one.session with listening := listening one } }
      { two with session := { two.session with listening := listening two } } :=
    ⟨{ hsession with
        listening := by simp only [listening, hsession.listening]
        listening' := by simp only [listening, hsession.listening'] }, halike.memory⟩
  have hdone := hact hstarted
  exact ⟨{ hdone.session with
    listening := hsession.listening, listening' := hsession.listening' }, hdone.memory⟩

end Pipeline.Alike

namespace Exporter

inductive Move where
  | start
  | stop
  | pushNow
  | configChanged
  /-- From now on somebody listens down to a level, or nobody does. -/
  | listen (heard : Option Level)
  /-- Something happens to its pipeline. -/
  | operate (operation : Operation)

def move (exporter : Exporter) (world : World) : Move → Exporter
  | .start => exporter.start world
  | .stop => exporter.stop world.now
  | .pushNow => (exporter.pushNow world).2
  | .configChanged => (exporter.configChanged world).2
  | .listen heard => exporter.onSession fun session => { session with listening := heard }
  | .operate operation =>
    { exporter with
      pipeline := (exporter.pipeline.perform exporter.setup world operation).2 }

def play (exporter : Exporter) (steps : List (World × Move)) : Exporter :=
  steps.foldl (fun exporter (world, move) => exporter.move world move) exporter

def requests (exporter : Exporter) : List Request :=
  exporter.pipeline.session.ledger.map Exchange.request

/-- Moves that are the same but for the login in an address. Listening to the start of an export
makes the address be quoted. -/
inductive Move.Alike (named : String → String → Prop) : Move → Move → Prop
  | start : Alike named .start .start
  | stop : Alike named .stop .stop
  | pushNow : Alike named .pushNow .pushNow
  | configChanged : Alike named .configChanged .configChanged
  | listen {heard : Option Level} (hquote : MayQuote named heard) :
      Alike named (.listen heard) (.listen heard)
  | operate {operation operation' : Operation} (hoperation : operation.Alike operation') :
      Alike named (.operate operation) (.operate operation')

/-- Steps in alike worlds that are the same but for the login in an address. -/
structure AlikeSteps (named : String → String → Prop) (step step' : World × Move) : Prop where
  world : World.Alike named step.1 step'.1
  move : Move.Alike named step.2 step'.2

/-- Exporters that are the same but for the login in an address, with alike pipelines. -/
structure Alike (named : String → String → Prop) (heard : Option Level) (one two : Exporter) :
    Prop where
  setup : one.setup = two.setup
  reporters : one.reporters = two.reporters
  started : one.started = two.started
  hearsWorkers : one.hearsWorkers = two.hearsWorkers
  forwards : one.config.log.forwardToIndex = two.config.log.forwardToIndex
  pipeline : Pipeline.Alike named heard one.pipeline two.pipeline

theorem spawnedEvent_eq {one two : Exporter} (halike : Alike named heard one two) :
    one.spawnedEvent = two.spawnedEvent := by
  rw [spawnedEvent, spawnedEvent, halike.reporters, halike.forwards]

/-- What is told at the start quotes the address and is the same around it. -/
theorem alike_startedEvent
    (hnamed : ∀ {address address'}, SameSite address address' → named address address')
    {baseUrl baseUrl' : Option String} (hsite : Option.Rel SameSite baseUrl baseUrl')
    (reporters : Nat) :
    Event.Alike named (startedEvent baseUrl reporters) (startedEvent baseUrl' reporters) := by
  cases hsite with
  | none => exact .refl _
  | some hsite =>
      exact .of_value (.inr ⟨"", _, _, "", hnamed hsite, by simp, by simp⟩) .info target
        "Export started" [] [Field.ofNat "reporters" reporters] "base_url"

/-- The event about the start of an export is alike in both runs, or it is not taken in. -/
theorem tell_startedEvent (hquote : MayQuote named heard) {one two : Session}
    (halike : Session.Alike named heard one two) (reporters : Nat) (now now' : Instant) :
    Session.Alike named heard
      (one.tell now (startedEvent one.switches.usableBaseUrl reporters))
      (two.tell now' (startedEvent two.switches.usableBaseUrl reporters)) := by
  cases heard with
  | none =>
      simp only [Session.tell, halike.listening, halike.listening']
      exact halike
  | some level =>
      by_cases hlevel : Level.info.rank ≤ level.rank
      · exact halike.tell (alike_startedEvent (hquote level rfl hlevel)
          halike.switches.usableBaseUrl reporters) now now'
      · have hkept (baseUrl : Option String) :
            (startedEvent baseUrl reporters).isForwarded level = false := by
          simp [Event.isForwarded, startedEvent, hlevel]
        simp only [Session.tell, halike.listening, halike.listening', LogBuffer.record, hkept]
        exact { halike with listening := rfl, listening' := rfl }

namespace Alike

variable {one two : Exporter} (halike : Alike named heard one two)
include halike

/-- A change that keeps sessions alike keeps exporters alike. -/
theorem onSession {change change' : Session → Session} {heard' : Option Level}
    (hchange : ∀ {one two}, Session.Alike named heard one two →
      Session.Alike named heard' (change one) (change' two)) :
    Alike named heard' (one.onSession change) (two.onSession change') :=
  { halike with pipeline := ⟨hchange halike.pipeline.session, halike.pipeline.memory⟩ }

theorem spawn (now now' : Instant) : Alike named heard (one.spawn now) (two.spawn now') := by
  simp only [Exporter.spawn, halike.started]
  split
  · exact halike
  · have hmarked : Alike named heard { one with started := true } { two with started := true } :=
      { halike with started := rfl }
    rw [spawnedEvent_eq halike]
    exact hmarked.onSession fun hsession => hsession.tell (.refl _) now now'

theorem stop (now now' : Instant) : Alike named heard (one.stop now) (two.stop now') := by
  refine halike.onSession fun {one two} hsession => ?_
  have htotal : one.queue.totalSize = two.queue.totalSize := by
    rw [← RetryQueue.totalSize_masked, hsession.queue, RetryQueue.totalSize_masked]
  have hstopped : Session.Alike named heard
      (one.withSwitches fun switches => { switches with running := false })
      (two.withSwitches fun switches => { switches with running := false }) :=
    { hsession with switches := { hsession.switches with running := rfl } }
  rw [htotal]
  exact hstopped.tell (.refl _) now now'

/-- Alike exporters have sent alike requests. -/
theorem requests : List.Forall₂ (Request.Alike named) one.requests two.requests := by
  rw [Exporter.requests, Exporter.requests, List.forall₂_map_left_iff, List.forall₂_map_right_iff]
  exact halike.pipeline.session.ledger.imp fun _ _ hexchange => hexchange.request

variable {world world' : World} (hworld : World.Alike named world world')
include hworld

/-- Workers that are set going do the same in both runs. -/
theorem trigger (reporters : List Reporter) :
    Alike named heard (one.trigger world reporters) (two.trigger world' reporters) := by
  refine { halike with pipeline := ?_ }
  have hpipeline := halike.pipeline
  simp only [Exporter.trigger, halike.setup, halike.hearsWorkers]
  generalize one.pipeline = pipeline, two.pipeline = pipeline' at hpipeline
  -- No cycle tells the address that is set, so nothing is asked of what may be quoted.
  induction reporters generalizing pipeline pipeline' with
  | nil => exact hpipeline
  | cons reporter rest ih =>
      exact ih _ _ (hpipeline.onThread (fun hstarted =>
        hstarted.cycles two.setup hworld reporter [.pushAll]) two.hearsWorkers)

/-- Alike exporters start alike, if what is told at the start may be quoted or is not heard. -/
theorem start (hquote : MayQuote named heard) :
    Alike named heard (one.start world) (two.start world') := by
  have hrunning : Alike named heard
      (one.onSession fun session =>
        session.withSwitches fun switches => { switches with running := true })
      (two.onSession fun session =>
        session.withSwitches fun switches => { switches with running := true }) :=
    halike.onSession fun hsession =>
      { hsession with switches := { hsession.switches with running := rfl } }
  have hspawned := hrunning.spawn world.now world'.now
  have hpushed := hspawned.trigger hworld (.configSnapshot :: one.reporters)
  have htold := hpushed.onSession fun hsession =>
    tell_startedEvent hquote hsession one.reporters.length world.now world'.now
  simp only [Exporter.start, ← halike.reporters]
  exact htold

theorem pushNow : Alike named heard (one.pushNow world).2 (two.pushNow world').2 := by
  simp only [Exporter.pushNow, halike.started, halike.reporters]
  split
  · exact halike.trigger hworld two.reporters
  · exact halike

theorem configChanged :
    Alike named heard (one.configChanged world).2 (two.configChanged world').2 := by
  have hrunning : one.isRunning = two.isRunning := halike.pipeline.session.switches.running
  simp only [Exporter.configChanged, hrunning, halike.started]
  split
  · exact halike.trigger hworld [.configSnapshot]
  · exact halike

/-- Alike moves leave alike exporters, which are listened to down to the same level. -/
theorem move (hquote : MayQuote named heard) {move move' : Move}
    (hmove : Move.Alike named move move') :
    ∃ heard', MayQuote named heard' ∧
      Alike named heard' (one.move world move) (two.move world' move') := by
  cases hmove with
  | start => exact ⟨heard, hquote, halike.start hworld hquote⟩
  | stop => exact ⟨heard, hquote, halike.stop world.now world'.now⟩
  | pushNow => exact ⟨heard, hquote, halike.pushNow hworld⟩
  | configChanged => exact ⟨heard, hquote, halike.configChanged hworld⟩
  | @listen heard' hquote' =>
      have hlistened : Alike named heard'
          (one.onSession fun session => { session with listening := heard' })
          (two.onSession fun session => { session with listening := heard' }) :=
        halike.onSession fun hsession => { hsession with listening := rfl, listening' := rfl }
      exact ⟨heard', hquote', hlistened⟩
  | operate hoperation =>
      refine ⟨heard, hquote, { halike with pipeline := ?_ }⟩
      simp only [Exporter.move, halike.setup]
      exact halike.pipeline.perform two.setup hworld hoperation

omit hworld in
/-- Alike exporters are alike after alike runs. -/
theorem play (hquote : MayQuote named heard) {steps steps' : List (World × Move)}
    (hsteps : List.Forall₂ (AlikeSteps named) steps steps') :
    ∃ heard', Alike named heard' (one.play steps) (two.play steps') := by
  -- What is listened to may change on the way, so each step hands a level of its own to the next.
  induction hsteps generalizing one two heard with
  | nil => exact ⟨heard, halike⟩
  | cons hstep _ ih =>
      obtain ⟨heard', hquote', hmoved⟩ := halike.move hstep.world hquote hstep.move
      exact ih hmoved hquote'

end Alike

theorem alike_start (now now' : Instant) (kind : IndexKind) :
    ((Stats.start now).get kind).Alike named ((Stats.start now').get kind) := by
  simp only [Stats.get, Stats.start, PerKind.get_const]
  exact ⟨rfl, rfl, rfl, .none⟩

/-- Exporters that are put together for the same site are alike. -/
theorem alike_of_build (parts : ExporterParts) {baseUrl baseUrl' : String}
    (hsite : SameSite baseUrl baseUrl') {now now' : Instant} {exporter exporter' : Exporter}
    (hbuilt : build (parts.sendingTo baseUrl) now = .ok exporter)
    (hbuilt' : build (parts.sendingTo baseUrl') now' = .ok exporter') :
    Alike named none exporter exporter' := by
  rw [eq_assembled hbuilt, eq_assembled hbuilt']
  exact
    { setup := rfl
      reporters := rfl
      started := rfl
      hearsWorkers := rfl
      forwards := rfl
      pipeline :=
        { session :=
            { switches := ⟨rfl, .some hsite, rfl, rfl, rfl⟩
              counters := alike_start now now'
              queue := rfl
              logs := ⟨rfl, rfl, .nil⟩
              listening := rfl
              listening' := rfl
              ledger := .nil }
          memory := rfl } }

end Exporter

theorem Payload.Alike.documents {sender : Sender} {payload payload' : Payload}
    (halike : Payload.Alike named sender payload payload') :
    List.Forall₂ (sender.AlikeDocuments named) payload.documents payload'.documents := by
  cases halike with
  | bulk halike => exact halike
  | single halike => exact .cons halike .nil

section Rehearsed

variable (hsite : ∀ {address address'}, SameSite address address' → named address address')
  {request request' : Request} (halike : Request.Alike named request request')
include hsite halike

theorem alike_unreachable (reason : String) :
    IndexError.Alike named (.unreachable request.baseUrl reason)
      (.unreachable request'.baseUrl reason) :=
  .unreachable reason (hsite halike.baseUrl)

/-- A prepared reply to several documents is the same for alike requests, but for the address. -/
theorem Cue.bulk_alike (cue : Cue) : AlikeReplies named (cue.bulk request) (cue.bulk request') := by
  have hlength := halike.payload.documents.length_eq
  cases cue with
  | fail reason => exact .error (alike_unreachable hsite halike reason)
  | refuse reason =>
      simp only [Cue.bulk, halike.index]
      exact .error (.same _)
  | succeed =>
      simp only [Cue.bulk, hlength]
      exact .ok _
  | reject positions =>
      simp only [Cue.bulk, hlength]
      exact .ok _
  | acceptFirst count =>
      simp only [Cue.bulk, hlength]
      exact .ok _
  | outcome given => exact .ok given

/-- A prepared reply to one document is the same for alike requests, but for the address. -/
theorem Cue.single_alike (cue : Cue) :
    AlikeReplies named (cue.single request) (cue.single request') := by
  cases cue with
  | fail reason => exact .error (alike_unreachable hsite halike reason)
  | refuse reason =>
      simp only [Cue.single, halike.index]
      exact .error (.same _)
  | succeed => exact .ok ()
  | outcome given => exact .ok ()
  | reject positions =>
      simp only [Cue.single, halike.index]
      exact .error (.same _)
  | acceptFirst count =>
      simp only [Cue.single, halike.index]
      split
      · exact .ok ()
      · exact .error (.same _)

omit halike in
/-- A cluster that plays a script answers alike requests alike. -/
theorem Script.cluster_alike (script : Script) (start : Nat) :
    Cluster.Alike named (script.cluster start) (script.cluster start) where
  bulk hpast hrequest := by
    simp only [Script.cluster, hpast.length_eq]
    exact Cue.bulk_alike hsite hrequest _
  single hpast hrequest := by
    simp only [Script.cluster, hpast.length_eq]
    exact Cue.single_alike hsite hrequest _

end Rehearsed

/-- Alike requests are the same but for clock values if their sender quotes no address, or if no
address stands for another. -/
theorem Request.Alike.timeless_eq {request request' : Request}
    (halike : Request.Alike named request request')
    (hsender : request.sender.quotes = false ∨ ∀ {address address'}, named address address' →
      address = address') : request.timeless = request'.timeless := by
  have hdocuments : List.Forall₂ Eq
      (request.payload.documents.map request.sender.timeless)
      (request'.payload.documents.map request.sender.timeless) := by
    rw [List.forall₂_map_left_iff, List.forall₂_map_right_iff]
    exact halike.payload.documents.imp fun _ _ => Sender.AlikeDocuments.eq hsender
  rw [List.forall₂_eq_eq_eq] at hdocuments
  rw [timeless, timeless, ← halike.sender, halike.index, hdocuments]

/-- Where no address stands for another, alike requests are the same but for clock values. -/
theorem Request.Alike.map_timeless_eq {requests requests' : List Request}
    (halike : List.Forall₂ (Request.Alike named) requests requests')
    (hnamed : ∀ {address address'}, named address address' → address = address') :
    requests.map timeless = requests'.map timeless := by
  rw [← List.forall₂_eq_eq_eq, List.forall₂_map_left_iff, List.forall₂_map_right_iff]
  exact halike.imp fun _ _ hrequest => hrequest.timeless_eq (.inr hnamed)

/-- Requests of those who do not quote addresses are the same but for clock values. -/
theorem Request.Alike.filter_timeless_eq {requests requests' : List Request}
    (halike : List.Forall₂ (Request.Alike named) requests requests') :
    (requests.filter fun request => !request.sender.quotes).map timeless =
      (requests'.filter fun request => !request.sender.quotes).map timeless := by
  induction halike with
  | nil => rfl
  | @cons request request' _ _ hrequest _ ih =>
      have hsender := hrequest.sender
      cases hquotes : request.sender.quotes with
      | true =>
          rw [List.filter_cons_of_neg (by simp [hquotes]),
            List.filter_cons_of_neg (by simp [← hsender, hquotes]), ih]
      | false =>
          rw [List.filter_cons_of_pos (by simp [hquotes]),
            List.filter_cons_of_pos (by simp [← hsender, hquotes]), List.map_cons, List.map_cons,
            ih, hrequest.timeless_eq (.inl hquotes)]

/-- Two exporters are put together for addresses that differ in the login only and go through the
same run, but for clock values and for the address that a cluster names when it cannot be reached.
Both send the same requests with the same documents, but for clock values and for the places where
statistics and forwarded log documents quote an address; if no address is quoted for another, they
send the same but for clock values. -/
theorem Exporter.logins_show_only_in_quotes (named : String → String → Prop)
    (parts : ExporterParts) {baseUrl baseUrl' : String} (hlogin : SameButLogin baseUrl baseUrl')
    {now now' : Instant} {exporter exporter' : Exporter}
    (hbuilt : build (parts.sendingTo baseUrl) now = .ok exporter)
    (hbuilt' : build (parts.sendingTo baseUrl') now' = .ok exporter')
    {steps steps' : List (World × Move)} (hsteps : List.Forall₂ (AlikeSteps named) steps steps') :
    let sent := (exporter.play steps).requests
    let sent' := (exporter'.play steps').requests
    List.Forall₂ (Request.Alike named) sent sent' ∧
      (sent.filter fun request => !request.sender.quotes).map Request.timeless =
        (sent'.filter fun request => !request.sender.quotes).map Request.timeless ∧
      ((∀ {address address'}, named address address' → address = address') →
        sent.map Request.timeless = sent'.map Request.timeless) := by
  intro sent sent'
  have halike : Alike named none exporter exporter' :=
    alike_of_build parts (.inr hlogin) hbuilt hbuilt'
  have hquote : MayQuote named none := fun level hlevel => nomatch hlevel
  obtain ⟨heard, hplayed⟩ := halike.play hquote hsteps
  have hrequests := hplayed.requests
  exact ⟨hrequests, Request.Alike.filter_timeless_eq hrequests,
    Request.Alike.map_timeless_eq hrequests⟩

/-- The last errors that a document about the statistics tells of. -/
def statedErrors (document : Document) : List String :=
  let indexes := ((document.get? "message").bind (Json.get? "stats")).bind (Json.get? "indexes")
  match indexes with
  | some (.array items) => items.filterMap fun item =>
    match item.get? "last_error" with
    | some (.string error) => some error
    | _ => none
  | _ => []

/-- A cluster that cannot be reached turns away two exporters in the name of different users: they
send alike requests, but their statistics and their log documents tell the one from the other. -/
theorem Exporter.logins_show_only_in_quotes_unreachable :
    let parts : ExporterParts := { config := {}, offered := fun _ => false }
    let exporter := assembled (parts.sendingTo "http://u:p@[::1]/") ⟨0⟩
    let exporter' := assembled (parts.sendingTo "http://v:q@[::1]/") ⟨0⟩
    let world := World.rehearsed ⟨[], .fail "down"⟩ {}
    let steps : List (World × Move) := [(world, .listen (some .info)), (world, .start),
      (world, .operate (.record default true)), (world, .pushNow), (world, .operate .forward)]
    let sent := (exporter.play steps).requests
    let sent' := (exporter'.play steps).requests
    List.Forall₂ (Request.Alike SameSite) sent sent' ∧
      sent.map Request.timeless ≠ sent'.map Request.timeless := by
  intro parts exporter exporter' world steps sent sent'
  have hlogin : SameButLogin "http://u:p@[::1]/" "http://v:q@[::1]/" := by
    refine ⟨(Url.ofText? "http://u:p@[::1]/").get (by decide +kernel),
      (Url.ofText? "http://v:q@[::1]/").get (by decide +kernel), (Option.some_get _).symm,
      (Option.some_get _).symm, ?_, ?_, by decide +kernel⟩
    · exact ⟨_, _, rfl, by decide +kernel, rfl, by decide +kernel⟩
    · exact ⟨_, _, rfl, by decide +kernel, rfl, by decide +kernel⟩
  have hbuilt : build (parts.sendingTo "http://u:p@[::1]/") ⟨0⟩ = .ok exporter :=
    build_eq_ok ⟨0⟩ (by decide +kernel) rfl
  have hbuilt' : build (parts.sendingTo "http://v:q@[::1]/") ⟨0⟩ = .ok exporter' :=
    build_eq_ok ⟨0⟩ (by decide +kernel) rfl
  have husual : Instant.IsUsual ⟨0⟩ := Nat.zero_lt_succ _
  have hworld : World.Alike SameSite world world :=
    ⟨rfl, Script.cluster_alike id _ 0, husual, husual⟩
  have hsteps : List.Forall₂ (AlikeSteps SameSite) steps steps :=
    .cons ⟨hworld, .listen fun _ _ _ => id⟩ <| .cons ⟨hworld, .start⟩ <|
    .cons ⟨hworld, .operate (.same fun _ hswitch => nomatch hswitch)⟩ <|
    .cons ⟨hworld, .pushNow⟩ <|
    .cons ⟨hworld, .operate (.same fun _ hswitch => nomatch hswitch)⟩ .nil
  obtain ⟨hsent, -⟩ :=
    logins_show_only_in_quotes SameSite parts hlogin hbuilt hbuilt' hsteps
  refine ⟨hsent, fun hsame => ?_⟩
  have herrors := congrArg (List.map fun request : Sender × String × List Document =>
    request.2.2.flatMap statedErrors) hsame
  revert herrors
  decide +kernel

end SearchFeed
