import SearchFeed.Drain
import SearchFeed.Forwarder
import SearchFeed.Proofs.Lane
import SearchFeed.Proofs.Quoting

/-! # Two runs side by side

Two exports that differ in the login that their address names meet the same
world, except that a cluster may quote the address it was given. Their sessions
stay alike: what they have sent, counted and kept is the same but for clock
values and quoted addresses. Each operation on a session takes alike sessions to
alike sessions.
-/

namespace SearchFeed

section Relations

-- Which addresses may stand for each other where an address is quoted.
variable (named : String → String → Prop)

/-- Replies that are the same but for an address that could not be reached. -/
inductive AlikeReplies {α : Type} : Except IndexError α → Except IndexError α → Prop
  | ok (value : α) : AlikeReplies (.ok value) (.ok value)
  | error {error error' : IndexError} (halike : IndexError.Alike named error error') :
      AlikeReplies (.error error) (.error error')

inductive Reply.Alike : Reply → Reply → Prop
  | bulk {reply reply' : BulkReply} (halike : AlikeReplies named reply reply') :
      Alike (.bulk reply) (.bulk reply')
  | single {reply reply' : DocumentReply} (halike : AlikeReplies named reply reply') :
      Alike (.single reply) (.single reply')

inductive Payload.Alike (sender : Sender) : Payload → Payload → Prop
  | bulk {documents documents' : List Document}
      (halike : List.Forall₂ (sender.AlikeDocuments named) documents documents') :
      Alike sender (.bulk documents) (.bulk documents')
  | single {document document' : Document}
      (halike : sender.AlikeDocuments named document document') :
      Alike sender (.single document) (.single document')

/-- Requests of one sender to the same site and index with alike documents. -/
structure Request.Alike (request request' : Request) : Prop where
  sender : request.sender = request'.sender
  baseUrl : SameSite request.baseUrl request'.baseUrl
  index : request.index = request'.index
  payload : Payload.Alike named request.sender request.payload request'.payload

structure Exchange.Alike (exchange exchange' : Exchange) : Prop where
  request : Request.Alike named exchange.request exchange'.request
  reply : Reply.Alike named exchange.reply exchange'.reply

/-- Clusters that answer alike requests alike, if all exchanges before have been alike. -/
structure Cluster.Alike (cluster cluster' : Cluster) : Prop where
  bulk {past past' : List Exchange} {request request' : Request} :
    List.Forall₂ (Exchange.Alike named) past past' → Request.Alike named request request' →
      AlikeReplies named (cluster.bulk past request) (cluster'.bulk past' request')
  single {past past' : List Exchange} {request request' : Request} :
    List.Forall₂ (Exchange.Alike named) past past' → Request.Alike named request request' →
      AlikeReplies named (cluster.single past request) (cluster'.single past' request')

/-- Worlds with the same sources and with alike clusters; clocks and durations are free. -/
structure World.Alike (world world' : World) : Prop where
  sources : world.sources = world'.sources
  cluster : Cluster.Alike named world.cluster world'.cluster
  usual : world.now.IsUsual
  usual' : world'.now.IsUsual

structure Event.Alike (event event' : Event) : Prop where
  level : event.level = event'.level
  target : event.target = event'.target
  text : SameAround named event.text event'.text

structure LogBuffer.Alike (logs logs' : LogBuffer) : Prop where
  capacity : logs.capacity = logs'.capacity
  dropped : logs.dropped = logs'.dropped
  entries : List.Forall₂ (Sender.forwarder.AlikeDocuments named) logs.entries logs'.entries

/-- Switches that are the same but for the login in the address. -/
structure Switches.Alike (switches switches' : Switches) : Prop where
  running : switches.running = switches'.running
  baseUrl : Option.Rel SameSite switches.baseUrl switches'.baseUrl
  selected : switches.selected = switches'.selected
  settingsParts : switches.settingsParts = switches'.settingsParts
  scope : switches.scope = switches'.scope

/-- Sessions that have done, counted and kept the same, but for clock values and quoted addresses,
while events down to a level were taken in. -/
structure Session.Alike (heard : Option Level) (one two : Session) : Prop where
  switches : one.switches.Alike two.switches
  counters : ∀ kind, (one.stats.get kind).Alike named (two.stats.get kind)
  queue : one.queue.masked = two.queue.masked
  logs : LogBuffer.Alike named one.logs two.logs
  listening : one.listening = heard
  listening' : two.listening = heard
  ledger : List.Forall₂ (Exchange.Alike named) one.ledger two.ledger

end Relations

variable {named : String → String → Prop}

namespace Switches.Alike

variable {switches switches' : Switches} (halike : switches.Alike switches')
include halike

theorem usableBaseUrl : Option.Rel SameSite switches.usableBaseUrl switches'.usableBaseUrl := by
  have hbaseUrl := halike.baseUrl
  rw [Switches.usableBaseUrl, Switches.usableBaseUrl]
  generalize switches.baseUrl = set, switches'.baseUrl = set' at hbaseUrl
  cases hbaseUrl with
  | none => exact .none
  | some hsite =>
      simp only [Option.filter_some, hsite.isBlankText_eq]
      split
      · exact .some hsite
      · exact .none

/-- Both are kept from sending for the same reason, or both send to the same site. -/
theorem destination :
    (∃ reason, switches.destination = .error reason ∧ switches'.destination = .error reason) ∨
    ∃ url url', SameSite url url' ∧ switches.destination = .ok url ∧
      switches'.destination = .ok url' := by
  have husable := halike.usableBaseUrl
  rw [Switches.destination, Switches.destination, halike.running]
  generalize switches.usableBaseUrl = usable, switches'.usableBaseUrl = usable' at husable
  split
  · exact .inl ⟨_, rfl, rfl⟩
  · cases husable with
    | none => exact .inl ⟨_, rfl, rfl⟩
    | some hsite => exact .inr ⟨_, _, hsite, rfl, rfl⟩

/-- Both sessions are turned away for the same reason, or both may go, to one site. -/
theorem preflight (source : DataSource) :
    (∃ reason, switches.preflight source = .error reason ∧
      switches'.preflight source = .error reason) ∨
    ∃ url url', SameSite url url' ∧ switches.preflight source = .ok url ∧
      switches'.preflight source = .ok url' := by
  simp only [Switches.preflight, Switches.isSelected, halike.selected]
  rcases halike.destination with ⟨reason, hone, htwo⟩ | ⟨url, url', hsite, hone, htwo⟩
  · exact .inl ⟨reason, by rw [hone], by rw [htwo]⟩
  · rw [hone, htwo]
    dsimp only
    split
    next hselected => exact .inr ⟨url, url', hsite, rfl, if_pos hselected⟩
    next hselected => exact .inl ⟨_, rfl, if_neg hselected⟩

theorem filter : switches.filter = switches'.filter := by
  rw [Switches.filter, Switches.filter, halike.scope]

theorem exportedParts : switches.exportedParts = switches'.exportedParts := by
  rw [Switches.exportedParts, Switches.exportedParts, halike.settingsParts]

end Switches.Alike

theorem Event.Alike.refl (event : Event) : Event.Alike named event event :=
  ⟨rfl, rfl, .refl event.text⟩

theorem Text.joined_around (separator : String) (before after : List String) :
    ∃ lead rest, ∀ text, Text.joined separator (before ++ text :: after) =
      lead ++ text ++ rest := by
  induction before with
  | nil =>
      cases after with
      | nil => exact ⟨"", "", fun text => by simp [Text.joined]⟩
      | cons next more =>
          refine ⟨"", separator ++ Text.joined separator (next :: more), fun text => ?_⟩
          simp [Text.joined, String.append_assoc]
  | cons first others ih =>
      obtain ⟨lead, rest, hothers⟩ := ih
      refine ⟨first ++ separator ++ lead, rest, fun text => ?_⟩
      have hfirst : Text.joined separator (first :: (others ++ text :: after)) =
          first ++ separator ++ Text.joined separator (others ++ text :: after) := by
        cases others <;> rfl
      rw [List.cons_append, hfirst, hothers]
      simp only [String.append_assoc]

/-- What comes before and after a value in the text of an event does not depend on the value. -/
theorem Event.text_around (level : Level) (target message : String) (before after : List Field)
    (name : String) : ∃ lead rest, ∀ value,
      (Event.mk level target message (before ++ ⟨name, value⟩ :: after)).text =
        lead ++ value ++ rest := by
  let shown (field : Field) : String := field.name ++ "=" ++ field.value
  obtain ⟨lead, rest, hfields⟩ := Text.joined_around " " (before.map shown) (after.map shown)
  have htext (value : String) : Event.fieldsText (before ++ ⟨name, value⟩ :: after) =
      lead ++ (name ++ "=" ++ value) ++ rest := by
    rw [← hfields, Event.fieldsText, List.map_append, List.map_cons]
  have hsome (value : String) : (before ++ Field.mk name value :: after).isEmpty = false := by
    simp
  refine ⟨(if message.isEmpty then "" else message ++ " ") ++ (lead ++ (name ++ "=")), rest, ?_⟩
  intro value
  simp only [Event.text, hsome, htext, Bool.false_eq_true, if_false]
  split
  · simp only [String.empty_append, String.append_assoc]
  · simp only [String.append_assoc]

/-- Events that differ in one value are alike if both values quote the same around an address. -/
theorem Event.Alike.of_value {value value' : String} (hsame : SameAround named value value')
    (level : Level) (target message : String) (before after : List Field) (name : String) :
    Event.Alike named ⟨level, target, message, before ++ ⟨name, value⟩ :: after⟩
      ⟨level, target, message, before ++ ⟨name, value'⟩ :: after⟩ := by
  obtain ⟨lead, rest, htext⟩ := Event.text_around level target message before after name
  refine ⟨rfl, rfl, ?_⟩
  rw [htext, htext]
  exact hsame.within lead rest

/-- A document enters alike buffers alike. -/
theorem LogBuffer.Alike.push {logs logs' : LogBuffer} (halike : LogBuffer.Alike named logs logs')
    {document document' : Document}
    (hdocument : Sender.forwarder.AlikeDocuments named document document') :
    LogBuffer.Alike named (logs.push document) (logs'.push document') := by
  have hsize : logs.size = logs'.size := halike.entries.length_eq
  have hlast := List.Forall₂.cons hdocument List.Forall₂.nil
  simp only [LogBuffer.push, halike.capacity, hsize]
  split
  · exact ⟨rfl, congrArg (· + 1) halike.dropped,
      List.rel_append (List.forall₂_drop 1 halike.entries) hlast⟩
  · exact ⟨rfl, halike.dropped, List.rel_append halike.entries hlast⟩

theorem LogBuffer.Alike.record {logs logs' : LogBuffer} (halike : LogBuffer.Alike named logs logs')
    {event event' : Event} (hevent : Event.Alike named event event') (least : Level)
    (now now' : Instant) :
    LogBuffer.Alike named (logs.record least now event) (logs'.record least now' event') := by
  have hforwarded : event.isForwarded least = event'.isForwarded least := by
    rw [Event.isForwarded, Event.isForwarded, hevent.level, hevent.target]
  simp only [LogBuffer.record, hforwarded]
  split
  · exact halike.push (eventDocument_alike now now' hevent.level hevent.target hevent.text)
  · exact halike

namespace Session.Alike

variable {heard : Option Level} {one two : Session} (halike : Session.Alike named heard one two)
include halike

/-- Alike events leave sessions alike. -/
theorem tell {event event' : Event} (hevent : Event.Alike named event event')
    (now now' : Instant) :
    Session.Alike named heard (one.tell now event) (two.tell now' event') := by
  simp only [Session.tell, halike.listening, halike.listening']
  cases heard with
  | none => exact halike
  | some least => exact ⟨halike.switches, halike.counters, halike.queue,
      halike.logs.record hevent least now now', rfl, rfl, halike.ledger⟩

theorem tellAll (events : List Event) (now now' : Instant) :
    Session.Alike named heard (one.tellAll now events) (two.tellAll now' events) := by
  induction events generalizing one two with
  | nil => exact halike
  | cons event rest ih =>
      rw [tellAll_cons, tellAll_cons]
      exact ih (halike.tell (.refl event) now now')

omit halike in
/-- Sending the same in both runs brings alike replies and leaves alike sessions. -/
theorem sendBulk {world world' : World} (hworld : World.Alike named world world')
    (halike : Session.Alike named heard one two) {sender : Sender} {baseUrl baseUrl' : String}
    (hsite : SameSite baseUrl baseUrl') (index : String) {documents documents' : List Document}
    (hdocuments : List.Forall₂ (sender.AlikeDocuments named) documents documents') :
    let sent := one.sendBulk world.cluster sender baseUrl index documents
    let sent' := two.sendBulk world'.cluster sender baseUrl' index documents'
    AlikeReplies named sent.1 sent'.1 ∧ Session.Alike named heard sent.2 sent'.2 := by
  intro sent sent'
  have hrequest : Request.Alike named ⟨sender, baseUrl, index, .bulk documents⟩
      ⟨sender, baseUrl', index, .bulk documents'⟩ := ⟨rfl, hsite, rfl, .bulk hdocuments⟩
  have hreply := hworld.cluster.bulk halike.ledger hrequest
  exact ⟨hreply, { halike with
    ledger := List.rel_append halike.ledger (.cons ⟨hrequest, .bulk hreply⟩ .nil) }⟩

omit halike in
/-- Alike documents sent to one site leave sessions alike, and get alike replies. -/
theorem sendSingle {world world' : World} (hworld : World.Alike named world world')
    (halike : Session.Alike named heard one two) {sender : Sender} {baseUrl baseUrl' : String}
    (hsite : SameSite baseUrl baseUrl') (index : String) {document document' : Document}
    (hdocument : sender.AlikeDocuments named document document') :
    let sent := one.sendSingle world.cluster sender baseUrl index document
    let sent' := two.sendSingle world'.cluster sender baseUrl' index document'
    AlikeReplies named sent.1 sent'.1 ∧ Session.Alike named heard sent.2 sent'.2 := by
  intro sent sent'
  have hrequest : Request.Alike named ⟨sender, baseUrl, index, .single document⟩
      ⟨sender, baseUrl', index, .single document'⟩ := ⟨rfl, hsite, rfl, .single hdocument⟩
  have hreply := hworld.cluster.single halike.ledger hrequest
  exact ⟨hreply, { halike with
    ledger := List.rel_append halike.ledger (.cons ⟨hrequest, .single hreply⟩ .nil) }⟩

end Session.Alike

def AlikeErrors (named : String → String → Prop) : Option String → Option String → Prop :=
  Option.Rel fun message message' =>
    Option.Rel (SameReason named) (Counters.remembered message) (Counters.remembered message')

theorem alikeErrors_refl (error : Option String) : AlikeErrors named error error := by
  have hrefl (text : Option String) : Option.Rel (SameReason named) text text := by
    cases text with
    | none => exact .none
    | some text => exact .some (.refl text)
  cases error with
  | none => exact .none
  | some message => exact .some (hrefl _)

theorem IndexError.Alike.remembered {error error' : IndexError}
    (halike : IndexError.Alike named error error') :
    AlikeErrors named (some error.message) (some error'.message) := by
  refine .some ?_
  simp only [Counters.remembered, String.isEmpty_iff, IndexError.message_ne_empty, if_false]
  exact .some (.inr ⟨error, error', halike, rfl, rfl⟩)

/-- Counters that note alike replies stay alike. -/
theorem Counters.Alike.noted {counters counters' : Counters}
    (halike : counters.Alike named counters') (latency latency' : Nat)
    {error error' : Option String} (herror : AlikeErrors named error error')
    {delivery delivery' : Delivery} (hsucceeded : delivery.succeeded = delivery'.succeeded)
    (hfailed : delivery.failed.length = delivery'.failed.length) :
    (counters.noted latency error delivery).Alike named
      (counters'.noted latency' error' delivery') := by
  refine ⟨?_, ?_, rfl, ?_⟩
  · simp only [Counters.noted, halike.success, hsucceeded]
  · simp only [Counters.noted, halike.failure, hfailed]
  · cases herror with
    | none => exact halike.lastError
    | some hremembered => exact hremembered

/-- What alike replies mean for the same documents. -/
theorem AlikeReplies.delivery {reply reply' : BulkReply} (halike : AlikeReplies named reply reply')
    {documents documents' : List Document}
    (hdocuments : documents.map Json.masked = documents'.map Json.masked) :
    AlikeErrors named (Delivery.errorText? documents reply)
      (Delivery.errorText? documents' reply') ∧
    (Delivery.ofReply documents reply).succeeded = (Delivery.ofReply documents' reply').succeeded ∧
    (Delivery.ofReply documents reply).failed.map Json.masked =
      (Delivery.ofReply documents' reply').failed.map Json.masked := by
  cases halike with
  | ok outcome =>
      obtain ⟨herror, hsucceeded, hfailed⟩ := Delivery.settled_alike (.ok outcome) hdocuments
      exact ⟨herror ▸ alikeErrors_refl _, hsucceeded, hfailed⟩
  | error halike =>
      refine ⟨halike.remembered, ?_, hdocuments⟩
      simp only [Delivery.ofReply, BulkReply.refused, Nat.sub_self]

theorem alike_flushEvent (index : String) {submitted submitted' : Nat}
    {delivery delivery' : Delivery} (hsubmitted : submitted = submitted')
    (hsucceeded : delivery.succeeded = delivery'.succeeded)
    (hfailed : delivery.failed.length = delivery'.failed.length) :
    Event.Alike named (Session.flushEvent index submitted delivery)
      (Session.flushEvent index submitted' delivery') := by
  rw [Session.flushEvent, Session.flushEvent, hsubmitted, hsucceeded, hfailed]
  exact .refl _

/-- What a source or the retry queue sends is compared without the time of its export. -/
theorem alikeDocuments_of_masked (sender : Sender) {documents documents' : List Document}
    (htimeless : ∀ document, sender.timeless document = document.masked)
    (hdocuments : documents.map Json.masked = documents'.map Json.masked) :
    List.Forall₂ (sender.AlikeDocuments named) documents documents' := by
  rw [← List.forall₂_eq_eq_eq, List.forall₂_map_left_iff, List.forall₂_map_right_iff] at hdocuments
  refine hdocuments.imp fun document document' hsame => .of_eq ?_
  rw [htimeless, htimeless, hsame]

namespace Session.Alike

variable {heard : Option Level} {one two : Session} (halike : Session.Alike named heard one two)
include halike

theorem noteDelivery (kind : IndexKind) (latency latency' : Nat) {error error' : Option String}
    (herror : AlikeErrors named error error') {delivery delivery' : Delivery}
    (hsucceeded : delivery.succeeded = delivery'.succeeded)
    (hfailed : delivery.failed.length = delivery'.failed.length) :
    Session.Alike named heard (one.noteDelivery kind latency error delivery)
      (two.noteDelivery kind latency' error' delivery') := by
  refine { halike with counters := fun other => ?_ }
  rw [noteDelivery_get, noteDelivery_get]
  split
  · exact (halike.counters other).noted latency latency' herror hsucceeded hfailed
  · exact halike.counters other

omit halike in
/-- Documents of a source that are the same but for clock values have the same effect in both
runs. -/
theorem deliverBulk (setup : Setup) {world world' : World}
    (hworld : World.Alike named world world') (halike : Session.Alike named heard one two)
    (source : DataSource) (kind : IndexKind) {baseUrl baseUrl' : String}
    (hsite : SameSite baseUrl baseUrl') {documents documents' : List Document}
    (hdocuments : documents.map Json.masked = documents'.map Json.masked) :
    let sent := one.deliverBulk setup world ⟨.source source, baseUrl, kind⟩ documents
    let sent' := two.deliverBulk setup world' ⟨.source source, baseUrl', kind⟩ documents'
    sent.1.succeeded = sent'.1.succeeded ∧
      sent.1.failed.map Json.masked = sent'.1.failed.map Json.masked ∧
      Session.Alike named heard sent.2 sent'.2 := by
  intro sent sent'
  obtain ⟨hreply, hsent⟩ := halike.sendBulk hworld hsite (setup.naming.name kind)
    (alikeDocuments_of_masked (.source source) (fun _ => rfl) hdocuments)
  obtain ⟨herror, hsucceeded, hfailed⟩ := hreply.delivery hdocuments
  have hsubmitted := congrArg List.length hdocuments
  have hlength := congrArg List.length hfailed
  simp only [List.length_map] at hsubmitted hlength
  refine ⟨hsucceeded, hfailed, ?_⟩
  apply (hsent.noteDelivery kind world.latency world'.latency herror hsucceeded hlength).tell
  exact alike_flushEvent (setup.naming.name kind) hsubmitted hsucceeded hlength

omit halike in
/-- A document has the same effect in both runs if it tells the same but for clock values and quoted
addresses. -/
theorem deliverSingle (setup : Setup) {world world' : World}
    (hworld : World.Alike named world world') (halike : Session.Alike named heard one two)
    {sender : Sender} (kind : IndexKind) {baseUrl baseUrl' : String}
    (hsite : SameSite baseUrl baseUrl') {errorText : IndexError → String}
    (herrorText : ∀ {error error'}, IndexError.Alike named error error' →
      AlikeErrors named (some (errorText error)) (some (errorText error')))
    {document document' : Document} (hdocument : sender.AlikeDocuments named document document') :
    let sent := one.deliverSingle setup world ⟨sender, baseUrl, kind⟩ errorText document
    let sent' := two.deliverSingle setup world' ⟨sender, baseUrl', kind⟩ errorText document'
    AlikeReplies named sent.1 sent'.1 ∧ Session.Alike named heard sent.2 sent'.2 := by
  intro sent sent'
  obtain ⟨hreply, hsent⟩ := halike.sendSingle hworld hsite (setup.naming.name kind) hdocument
  simp only [sent, sent', Session.deliverSingle]
  generalize one.sendSingle world.cluster sender baseUrl (setup.naming.name kind) document = asked,
    two.sendSingle world'.cluster sender baseUrl' (setup.naming.name kind) document' = asked'
    at hreply hsent
  obtain ⟨reply, after⟩ := asked
  obtain ⟨reply', after'⟩ := asked'
  cases hreply with
  | ok value =>
      refine ⟨.ok value, hsent.noteDelivery kind _ _ (alikeErrors_refl none) ?_ ?_⟩
      · rfl
      · rfl
  | error herror =>
      refine ⟨.error herror, hsent.noteDelivery kind _ _ (herrorText herror) ?_ ?_⟩
      · rfl
      · rfl

theorem enqueueFailed (index : String) {documents documents' : List Document}
    (hdocuments : documents.map Json.masked = documents'.map Json.masked) (now now' : Instant) :
    (one.enqueueFailed now index documents).1 = (two.enqueueFailed now' index documents').1 ∧
      Session.Alike named heard (one.enqueueFailed now index documents).2
        (two.enqueueFailed now' index documents').2 := by
  have hoffered := one.queue.masked_offerAll index documents
  rw [halike.queue, hdocuments, two.queue.masked_offerAll] at hoffered
  obtain ⟨hcount, hroom⟩ := Prod.mk.inj hoffered
  have hsubmitted := congrArg List.length hdocuments
  simp only [List.length_map] at hsubmitted
  have hsize : (one.queue.offerAll index documents).2.size index =
      (two.queue.offerAll index documents').2.size index := by
    rw [← RetryQueue.size_masked, ← hroom, RetryQueue.size_masked]
  have hkept : Session.Alike named heard
      { one with queue := (one.queue.offerAll index documents).2 }
      { two with queue := (two.queue.offerAll index documents').2 } :=
    { halike with queue := hroom.symm }
  simp only [Session.enqueueFailed, ← hcount, hsubmitted, hsize]
  split
  · exact ⟨rfl, hkept.tellAll _ now now'⟩
  · exact ⟨rfl, hkept⟩

theorem creditDelivered (naming : IndexNaming) (index : String) (count : Nat) :
    Session.Alike named heard (one.creditDelivered naming index count)
      (two.creditDelivered naming index count) := by
  simp only [Session.creditDelivered]
  split
  next kind _ =>
    refine { halike with counters := fun other => ?_ }
    have hcounters := halike.counters other
    simp only [Stats.get_addSuccess]
    split
    · exact { hcounters with success := congrArg (· + _) hcounters.success }
    · exact hcounters
  · exact halike

/-- Alike replies to further attempts have the same effect. -/
theorem settleRetry (setup : Setup) (world world' : World) (index : String)
    {documents documents' : List Document}
    (hdocuments : documents.map Json.masked = documents'.map Json.masked)
    {reply reply' : BulkReply} (hreply : AlikeReplies named reply reply') (summary : DrainSummary) :
    let settled := one.settleRetry setup world index documents reply summary
    let settled' := two.settleRetry setup world' index documents' reply' summary
    settled.1 = settled'.1 ∧ Session.Alike named heard settled.2 settled'.2 := by
  intro settled settled'
  obtain ⟨-, hsucceeded, hfailed⟩ := hreply.delivery hdocuments
  simp only [Delivery.ofReply] at hsucceeded hfailed
  have hlength := congrArg List.length hfailed
  have hsubmitted := congrArg List.length hdocuments
  simp only [List.length_map] at hlength hsubmitted
  have hnone : (BulkReply.refused documents reply).isEmpty =
      (BulkReply.refused documents' reply').isEmpty := by
    rw [← List.isEmpty_map, hfailed, List.isEmpty_map]
  have hheard : Session.Alike named heard
      (one.heardBack setup world index documents reply)
      (two.heardBack setup world' index documents' reply') := by
    simp only [heardBack, hsucceeded]
    cases hreply with
    | ok outcome => exact halike.creditDelivered setup.naming index _
    | error herror =>
        exact halike.tell (.of_value herror.message .debug retryTarget "Retry bulk request failed"
          [⟨"index", index⟩] [] "error") world.now world'.now
  simp only [settled, settled', settleRetry_eq, hnone, hlength, hsubmitted]
  split
  · exact ⟨rfl, hheard⟩
  · obtain ⟨hkept, hoffered⟩ := hheard.enqueueFailed index hfailed world.now world'.now
    rw [hkept]
    exact ⟨rfl, hoffered⟩

/-- A drain of one index leaves sessions alike and drains as much in both. -/
theorem drainIndex (setup : Setup) {world world' : World}
    (hworld : World.Alike named world world') {baseUrl baseUrl' : String}
    (hsite : SameSite baseUrl baseUrl') (index : String) (summary : DrainSummary) :
    let drained := one.drainIndex setup world baseUrl index summary
    let drained' := two.drainIndex setup world' baseUrl' index summary
    drained.1 = drained'.1 ∧ Session.Alike named heard drained.2 drained'.2 := by
  intro drained drained'
  have hpolled := one.queue.masked_poll index setup.drainBatchSize
  rw [halike.queue, two.queue.masked_poll] at hpolled
  obtain ⟨hdocuments, hqueue⟩ := Prod.mk.inj hpolled
  have hnone : (one.queue.poll index setup.drainBatchSize).1.isEmpty =
      (two.queue.poll index setup.drainBatchSize).1.isEmpty := by
    rw [← List.isEmpty_map, ← hdocuments, List.isEmpty_map]
  have hleft : Session.Alike named heard
      { one with queue := (one.queue.poll index setup.drainBatchSize).2 }
      { two with queue := (two.queue.poll index setup.drainBatchSize).2 } :=
    { halike with queue := hqueue.symm }
  simp only [drained, drained', Session.drainIndex, hnone]
  split
  · exact ⟨rfl, hleft⟩
  · obtain ⟨hreply, hsent⟩ := hleft.sendBulk hworld hsite index
      (alikeDocuments_of_masked .retry (fun _ => rfl) hdocuments.symm)
    exact hsent.settleRetry setup world world' index hdocuments.symm hreply summary

omit halike in
theorem foldl_drainIndex (setup : Setup) {world world' : World}
    (hworld : World.Alike named world world') {baseUrl baseUrl' : String}
    (hsite : SameSite baseUrl baseUrl') (indexes : List String)
    (before before' : DrainSummary × Session) (hsummary : before.1 = before'.1)
    (halike : Session.Alike named heard before.2 before'.2) :
    let drained := indexes.foldl (fun (summary, session) index =>
      session.drainIndex setup world baseUrl index summary) before
    let drained' := indexes.foldl (fun (summary, session) index =>
      session.drainIndex setup world' baseUrl' index summary) before'
    drained.1 = drained'.1 ∧ Session.Alike named heard drained.2 drained'.2 := by
  induction indexes generalizing before before' with
  | nil => exact ⟨hsummary, halike⟩
  | cons index rest ih =>
      obtain ⟨summary, one⟩ := before
      obtain ⟨summary', two⟩ := before'
      cases hsummary
      obtain ⟨hfirst, hdrained⟩ := halike.drainIndex setup hworld hsite index summary
      exact ih _ _ hfirst hdrained

/-- A drain pass does the same in both runs. -/
theorem drainOnce (setup : Setup) {world world' : World}
    (hworld : World.Alike named world world') :
    Session.Alike named heard (one.drainOnce setup world).2 (two.drainOnce setup world').2 := by
  have htotal {one two : Session} (halike : Session.Alike named heard one two) :
      one.queue.totalSize = two.queue.totalSize := by
    rw [← RetryQueue.totalSize_masked, halike.queue, RetryQueue.totalSize_masked]
  rcases halike.switches.destination with ⟨reason, hone, htwo⟩ | ⟨url, url', hsite, hone, htwo⟩
  · simp only [Session.drainOnce, hone, htwo, htotal halike]
    exact halike.tell (.refl _) world.now world'.now
  · -- Documents wait for the same indexes in both runs, so the passes visit the same ones.
    have hpending : one.queue.pending = two.queue.pending := by
      rw [← RetryQueue.pending_masked, halike.queue, RetryQueue.pending_masked]
    obtain ⟨hsummary, hdrained⟩ := foldl_drainIndex setup hworld hsite two.queue.pending ({}, one)
      ({}, two) rfl halike
    simp only [Session.drainOnce, hone, htwo, hpending]
    rw [hsummary]
    split
    · rw [htotal hdrained]
      exact hdrained.tell (.refl _) world.now world'.now
    · exact hdrained

/-- Forwarding sends alike log documents in both runs. -/
theorem forwardOnce (setup : Setup) {world world' : World}
    (hworld : World.Alike named world world') :
    Session.Alike named heard (one.forwardOnce setup world).2 (two.forwardOnce setup world').2 := by
  have hlogs := halike.logs
  rcases halike.switches.destination with ⟨reason, hone, htwo⟩ | ⟨url, url', hsite, hone, htwo⟩
  · simp only [Session.forwardOnce, hone, htwo]
    exact { halike with logs := ⟨hlogs.capacity, hlogs.dropped, .nil⟩ }
  · have htaken : List.Forall₂ (Sender.forwarder.AlikeDocuments named)
        (one.logs.drain forwardBatch).1 (two.logs.drain forwardBatch).1 :=
      List.forall₂_take forwardBatch hlogs.entries
    have hnone : (one.logs.drain forwardBatch).1.isEmpty =
        (two.logs.drain forwardBatch).1.isEmpty := by
      rw [Bool.eq_iff_iff, List.isEmpty_iff_length_eq_zero, List.isEmpty_iff_length_eq_zero,
        htaken.length_eq]
    have hleft : Session.Alike named heard { one with logs := (one.logs.drain forwardBatch).2 }
        { two with logs := (two.logs.drain forwardBatch).2 } :=
      { halike with logs := ⟨hlogs.capacity, hlogs.dropped,
          List.forall₂_drop forwardBatch hlogs.entries⟩ }
    simp only [Session.forwardOnce, hone, htwo, hnone]
    split
    · exact hleft
    · exact (hleft.sendBulk hworld hsite (setup.naming.name .tool) htaken).2

end Session.Alike

end SearchFeed
