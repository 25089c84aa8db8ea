import Mathlib.Data.List.Forall2
import SearchFeed.Config.Review
import SearchFeed.LogBuffer
import SearchFeed.Proofs.Masked
import SearchFeed.Proofs.Padding
import SearchFeed.Proofs.Stint
import SearchFeed.Reporter.Snapshot

/-! # Texts that quote an address

Two exports may send to the same place in the name of different users. Their
documents can tell which of them they come from only where they quote the
address: in the reason why the cluster could not be reached, and in what is told
about that. Everything else in them is the same but for clock values.
-/

namespace SearchFeed

/-- The address names a user and a password. -/
def Url.HasLogin (url : Url) : Prop :=
  ∃ authority password, url.authority = some authority ∧ authority.username ≠ [] ∧
    authority.password = some password ∧ password ≠ []

/-- Two addresses with a user and a password each that are the same without them. -/
def SameButLogin (one two : String) : Prop :=
  ∃ url url', Url.ofText? one = some url ∧ Url.ofText? two = some url' ∧
    url.HasLogin ∧ url'.HasLogin ∧ url.withoutCredentials = url'.withoutCredentials

/-- Addresses that are the same, or the same but for the user and the password that both name. -/
def SameSite (one two : String) : Prop := one = two ∨ SameButLogin one two

section Addresses

theorem Url.HasLogin.hasCredentials {url : Url} (hlogin : url.HasLogin) :
    url.hasCredentials = true := by
  obtain ⟨authority, password, hauthority, husername, -⟩ := hlogin
  simp [Url.hasCredentials, hauthority, Authority.hasCredentials, husername]

/-- The same is told of both addresses once they are concealed. -/
theorem SameSite.concealed_eq {one two : String} (hsame : SameSite one two) :
    concealed one = concealed two := by
  rcases hsame with rfl | ⟨url, url', hone, htwo, hlogin, hlogin', hwithout⟩
  · rfl
  · simp only [concealed, hone, htwo, hlogin.hasCredentials, hlogin'.hasCredentials, if_true,
      hwithout]

/-- A blank text has no scheme. -/
theorem readScheme?_blank {text : List Char} (hblank : ∀ c ∈ text, Text.isBlank c = true) :
    Url.readScheme? text = none := by
  cases text with
  | nil => rfl
  | cons c rest =>
      have hfirst := Text.not_isAlpha_of_isBlank (hblank c List.mem_cons_self)
      simp only [Url.readScheme?, hfirst, Bool.not_false, if_true]

theorem cleaned_subset (text : List Char) : Url.cleaned text ⊆ text := by
  intro c hc
  have hmiddle := List.mem_reverse.mp (List.mem_filter.mp hc).1
  have hend := List.mem_reverse.mp ((List.dropWhile_sublist _).subset hmiddle)
  exact (List.dropWhile_sublist _).subset hend

/-- What spells an address is not blank. -/
theorem not_isBlankText {text : String} {url : Url} (hread : Url.ofText? text = some url) :
    Text.isBlankText text = false := by
  rw [Bool.eq_false_iff]
  intro hblank
  have hall := List.all_eq_true.mp hblank
  rw [Url.ofText?, Url.ofChars?,
    readScheme?_blank fun c hc => hall c (cleaned_subset text.toList hc)] at hread
  cases hread

theorem SameSite.isBlankText_eq {one two : String} (hsame : SameSite one two) :
    Text.isBlankText one = Text.isBlankText two := by
  rcases hsame with rfl | ⟨url, url', hone, htwo, -⟩
  · rfl
  · rw [not_isBlankText hone, not_isBlankText htwo]

end Addresses

section Quoting

-- Which addresses may stand for each other where an address is quoted.
variable (named : String → String → Prop)

/-- Texts that are the same, or the same around the addresses that they quote. -/
def SameAround (text text' : String) : Prop :=
  text = text' ∨ ∃ before address address' after, named address address' ∧
    text = before ++ address ++ after ∧ text' = before ++ address' ++ after

/-- Reasons that are the same but for the address that could not be reached. -/
inductive IndexError.Alike : IndexError → IndexError → Prop
  | same (error : IndexError) : Alike error error
  | unreachable {address address' : String} (reason : String) (hnamed : named address address') :
      Alike (.unreachable address reason) (.unreachable address' reason)

/-- What is remembered of reasons that are the same but for an address. -/
def SameReason (text text' : String) : Prop :=
  text = text' ∨ ∃ error error', IndexError.Alike named error error' ∧
    text = Counters.shortened error.message ∧ text' = Counters.shortened error'.message

variable {named}

theorem SameAround.refl (text : String) : SameAround named text text := .inl rfl

/-- What differs in one place only differs there within any longer text. -/
theorem SameAround.within {text text' : String} (hsame : SameAround named text text')
    (lead rest : String) : SameAround named (lead ++ text ++ rest) (lead ++ text' ++ rest) := by
  rcases hsame with rfl | ⟨before, address, address', after, hnamed, rfl, rfl⟩
  · exact .inl rfl
  · refine .inr ⟨lead ++ before, address, address', after ++ rest, hnamed, ?_, ?_⟩
    · simp only [String.append_assoc]
    · simp only [String.append_assoc]

theorem IndexError.Alike.message {error error' : IndexError}
    (halike : IndexError.Alike named error error') :
    SameAround named error.message error'.message := by
  cases halike with
  | same => exact .inl rfl
  | unreachable reason hnamed =>
      exact .inr ⟨"Search cluster unreachable at '", _, _, "': " ++ reason, hnamed,
        String.append_assoc, String.append_assoc⟩

theorem SameReason.refl (text : String) : SameReason named text text := .inl rfl

section Equality

variable (hnamed : ∀ {address address'}, named address address' → address = address')
include hnamed

theorem IndexError.Alike.eq {error error' : IndexError}
    (halike : IndexError.Alike named error error') : error = error' := by
  cases halike with
  | same => rfl
  | unreachable reason hquoted => rw [hnamed hquoted]

/-- If an address stands for nothing but itself, texts that quote it are the same. -/
theorem SameAround.eq {text text' : String} (hsame : SameAround named text text') :
    text = text' := by
  rcases hsame with hsame | ⟨before, address, address', after, hquoted, rfl, rfl⟩
  · exact hsame
  · rw [hnamed hquoted]

theorem SameReason.eq {text text' : String} (hsame : SameReason named text text') :
    text = text' := by
  rcases hsame with hsame | ⟨error, error', halike, rfl, rfl⟩
  · exact hsame
  · rw [halike.eq hnamed]

end Equality

end Quoting

namespace Json

variable (same : String → String → Prop)

mutual

/-- Values that are the same but for their texts, which are alike one by one. -/
def Matches : Json → Json → Prop
  | .string text, other => ∃ text', other = .string text' ∧ same text text'
  | .array items, other => ∃ items', other = .array items' ∧ MatchesItems items items'
  | .object members, other =>
    ∃ members', other = .object members' ∧ MatchesMembers members members'
  | value, other => other = value

def MatchesItems : List Json → List Json → Prop
  | [], others => others = []
  | item :: rest, others =>
    ∃ item' rest', others = item' :: rest' ∧ Matches item item' ∧ MatchesItems rest rest'

def MatchesMembers : List (String × Json) → List (String × Json) → Prop
  | [], others => others = []
  | (key, value) :: rest, others =>
    ∃ value' rest', others = (key, value') :: rest' ∧ Matches value value' ∧
      MatchesMembers rest rest'

end

variable {same}

mutual

/-- A document matches itself, whatever texts may be taken for the same. -/
theorem matches_refl (hsame : ∀ text, same text text) : ∀ value : Json, Matches same value value
  | .null => rfl
  | .bool _ => rfl
  | .int _ => rfl
  | .double _ => rfl
  | .string text => ⟨text, rfl, hsame text⟩
  | .array items => ⟨items, rfl, matchesItems_refl hsame items⟩
  | .object members => ⟨members, rfl, matchesMembers_refl hsame members⟩

theorem matchesItems_refl (hsame : ∀ text, same text text) :
    ∀ items : List Json, MatchesItems same items items
  | [] => rfl
  | item :: rest => ⟨item, rest, rfl, matches_refl hsame item, matchesItems_refl hsame rest⟩

theorem matchesMembers_refl (hsame : ∀ text, same text text) :
    ∀ members : List (String × Json), MatchesMembers same members members
  | [] => rfl
  | (_, value) :: rest =>
      ⟨value, rest, rfl, matches_refl hsame value, matchesMembers_refl hsame rest⟩

end

mutual

/-- Where only equal texts are taken for the same, documents that match are equal. -/
theorem eq_of_matches (hsame : ∀ text text', same text text' → text = text') :
    ∀ {value value' : Json}, Matches same value value' → value = value'
  | .null, _, hmatches => hmatches.symm
  | .bool _, _, hmatches => hmatches.symm
  | .int _, _, hmatches => hmatches.symm
  | .double _, _, hmatches => hmatches.symm
  | .string _, _, ⟨_, heq, htext⟩ => heq ▸ congrArg Json.string (hsame _ _ htext)
  | .array _, _, ⟨_, heq, hitems⟩ => heq ▸ congrArg Json.array (eq_of_matchesItems hsame hitems)
  | .object _, _, ⟨_, heq, hmembers⟩ =>
      heq ▸ congrArg Json.object (eq_of_matchesMembers hsame hmembers)

theorem eq_of_matchesItems (hsame : ∀ text text', same text text' → text = text') :
    ∀ {items items' : List Json}, MatchesItems same items items' → items = items'
  | [], _, hmatches => hmatches.symm
  | _ :: _, _, ⟨_, _, heq, hitem, hrest⟩ =>
      heq ▸ congrArg₂ List.cons (eq_of_matches hsame hitem) (eq_of_matchesItems hsame hrest)

theorem eq_of_matchesMembers (hsame : ∀ text text', same text text' → text = text') :
    ∀ {members members' : List (String × Json)},
      MatchesMembers same members members' → members = members'
  | [], _, hmatches => hmatches.symm
  | (_, _) :: _, _, ⟨_, _, heq, hvalue, hrest⟩ =>
      heq ▸ congrArg₂ List.cons (congrArg (Prod.mk _) (eq_of_matches hsame hvalue))
        (eq_of_matchesMembers hsame hrest)

end

theorem matchesItems_of_forall₂ {items items' : List Json}
    (hitems : List.Forall₂ (Matches same) items items') : MatchesItems same items items' := by
  induction hitems with
  | nil => rfl
  | cons hitem _ ih => exact ⟨_, _, rfl, hitem, ih⟩

def withheld (_ : Json) : Json := .null

def eachItem (mask : Json → Json) : Json → Json
  | .array items => .array (items.map mask)
  | other => other

/-- Statistics that do not tell durations. -/
def untimedStats (stats : Json) : Json :=
  (stats.maskAt "uptime_ms" withheld).maskAt "indexes"
    (eachItem (maskAt "last_push_duration_ms" withheld))

/-- A document about the export itself that does not tell times or durations. -/
def untimed (document : Json) : Json :=
  (document.masked.maskAt "timestamp" withheld).maskAt "message" (maskAt "stats" untimedStats)

end Json

namespace Sender

variable (named : String → String → Prop)

/-- A document of a sender that does not tell clock values. -/
def timeless (document : Document) : Sender → Document
  | .source _ => document.masked
  | .retry => document.masked
  | .toolStats => document.untimed
  | .configSnapshot => document.untimed
  | .forwarder => document.untimed

/-- How texts in the documents of a sender may differ: statistics may quote the reason why a request
failed, and log documents may quote an address in any of their texts. -/
def sameText : Sender → String → String → Prop
  | .toolStats => SameReason named
  | .forwarder => SameAround named
  | _ => Eq

/-- Documents of a sender that are the same but for clock values and quoted addresses. -/
def AlikeDocuments (sender : Sender) (document document' : Document) : Prop :=
  Json.Matches (sender.sameText named) (sender.timeless document) (sender.timeless document')

variable {named}

theorem sameText_refl (sender : Sender) (text : String) : sender.sameText named text text := by
  cases sender with
  | toolStats => exact .inl rfl
  | forwarder => exact .inl rfl
  | source source => rfl
  | configSnapshot => rfl
  | retry => rfl

theorem AlikeDocuments.of_eq {sender : Sender} {document document' : Document}
    (hsame : sender.timeless document = sender.timeless document') :
    sender.AlikeDocuments named document document' := by
  rw [AlikeDocuments, hsame]
  exact Json.matches_refl sender.sameText_refl _

/-- Whether the documents of a sender may quote an address. -/
def quotes : Sender → Bool
  | .toolStats => true
  | .forwarder => true
  | _ => false

/-- Where the sender quotes nothing, or there is one address to quote, only equal texts are the
same. -/
theorem sameText_eq {sender : Sender}
    (hsender : sender.quotes = false ∨ ∀ {address address'}, named address address' →
      address = address') {text text' : String} (hsame : sender.sameText named text text') :
    text = text' := by
  cases sender with
  | toolStats =>
      rcases hsender with hquiet | hnamed
      · cases hquiet
      · exact SameReason.eq hnamed hsame
  | forwarder =>
      rcases hsender with hquiet | hnamed
      · cases hquiet
      · exact SameAround.eq hnamed hsame
  | source source => exact hsame
  | configSnapshot => exact hsame
  | retry => exact hsame

/-- Alike documents are the same but for clock values if they do not quote addresses, or if an
address stands for nothing but itself. -/
theorem AlikeDocuments.eq {sender : Sender}
    (hsender : sender.quotes = false ∨ ∀ {address address'}, named address address' →
      address = address') {document document' : Document}
    (halike : sender.AlikeDocuments named document document') :
    sender.timeless document = sender.timeless document' :=
  Json.eq_of_matches (fun _ _ hsame => sameText_eq hsender hsame) halike

end Sender

namespace Counters

variable (named : String → String → Prop)

/-- Counters that are the same but for durations and a quoted address. -/
structure Alike (counters counters' : Counters) : Prop where
  success : counters.success = counters'.success
  failure : counters.failure = counters'.failure
  lastPush : counters.lastPush.isSome = counters'.lastPush.isSome
  lastError : Option.Rel (SameReason named) counters.lastError counters'.lastError

end Counters

section Documents

variable {named : String → String → Prop}

theorem untimed_selfDocument (now : Instant) (eventType : String)
    (message : List (String × Json)) (messageText : String) :
    (selfDocument now eventType message messageText).untimed = .object
      [("timestamp", .null),
       ("level", .string Level.info.name),
       ("event_type", .string eventType),
       ("source", .string "artifact-export"),
       ("message", (Json.object message).maskAt "stats" Json.untimedStats),
       ("message_text", .string messageText),
       ("extension_version", .string extensionVersion),
       ("document_meta", (documentMeta now).maskAt "indexed_at" Json.zeroed)] := by
  simp [selfDocument, Json.untimed, Json.masked_object, Json.maskAt, Json.withheld]

theorem indexJson_matches (kind : IndexKind) (indexName : String) (queueSize : Nat)
    {counters counters' : Counters} (halike : counters.Alike named counters') :
    let mask := Json.maskAt "last_push_duration_ms" Json.withheld
    Json.Matches (SameReason named)
      (mask (StatsSnapshot.indexJson ⟨kind, indexName, counters, queueSize⟩))
      (mask (StatsSnapshot.indexJson ⟨kind, indexName, counters', queueSize⟩)) := by
  intro mask
  obtain ⟨success, failure, lastPush, lastError⟩ := counters
  obtain ⟨success', failure', lastPush', lastError'⟩ := counters'
  obtain ⟨rfl, rfl, htimed, herror⟩ := halike
  cases lastPush <;> cases lastPush' <;> cases htimed <;> cases herror <;>
    simp_all [mask, StatsSnapshot.indexJson, Json.maskAt, Json.withheld, Json.Matches,
      Json.MatchesMembers, SameReason.refl]

section Statistics

variable (setup : Setup) (now now' : Instant) {one two : Session}
  (hcounters : ∀ kind, (one.stats.get kind).Alike named (two.stats.get kind))
  (hqueue : one.queue.masked = two.queue.masked)
include hcounters hqueue

theorem snapshot_totals :
    let snapshot := one.stats.snapshot setup.naming one.queue now
    let snapshot' := two.stats.snapshot setup.naming two.queue now'
    snapshot.totalSuccess = snapshot'.totalSuccess ∧
      snapshot.totalFailure = snapshot'.totalFailure ∧
      snapshot.totalQueued = snapshot'.totalQueued := by
  intro snapshot snapshot'
  have hsuccess (kind : IndexKind) := (hcounters kind).success
  have hfailure (kind : IndexKind) := (hcounters kind).failure
  refine ⟨?_, ?_, ?_⟩
  · simp only [snapshot, snapshot', StatsSnapshot.totalSuccess, Stats.snapshot, List.foldl_map,
      hsuccess]
  · simp only [snapshot, snapshot', StatsSnapshot.totalFailure, Stats.snapshot, List.foldl_map,
      hfailure]
  · simp only [snapshot, snapshot', Stats.snapshot]
    rw [← one.queue.totalSize_masked, hqueue, two.queue.totalSize_masked]

/-- The two snapshots of the statistics differ in their times and in how an address is quoted,
nowhere else. -/
theorem statsJson_matches :
    Json.Matches (SameReason named)
      (Json.untimedStats (one.stats.snapshot setup.naming one.queue now).json)
      (Json.untimedStats (two.stats.snapshot setup.naming two.queue now').json) := by
  obtain ⟨hsuccess, hfailure, hqueued⟩ :=
    snapshot_totals setup now now' hcounters hqueue
  have hsize (index : String) : one.queue.size index = two.queue.size index := by
    rw [← RetryQueue.size_masked, hqueue, RetryQueue.size_masked]
  have hindexes : Json.MatchesItems (SameReason named)
      (((one.stats.snapshot setup.naming one.queue now).indexes.map StatsSnapshot.indexJson).map
        (Json.maskAt "last_push_duration_ms" Json.withheld))
      (((two.stats.snapshot setup.naming two.queue now').indexes.map StatsSnapshot.indexJson).map
        (Json.maskAt "last_push_duration_ms" Json.withheld)) := by
    apply Json.matchesItems_of_forall₂
    simp only [Stats.snapshot, List.map_map, Stats.queueSize, hsize]
    exact List.forall₂_map_left_iff.mpr (List.forall₂_map_right_iff.mpr
      (List.forall₂_same.mpr fun kind _ => indexJson_matches kind _ _ (hcounters kind)))
  simp only [StatsSnapshot.json, hsuccess, hfailure, hqueued]
  refine ⟨_, rfl, _, _, rfl, ⟨_, rfl, hindexes⟩, ?_⟩
  exact Json.matchesMembers_refl SameReason.refl _

/-- Statistics of alike sessions tell the same but for clock values and reasons that quote an
address. -/
theorem statsDocument_alike (hnow : now.IsUsual) (hnow' : now'.IsUsual)
    (hrunning : one.switches.running = two.switches.running) :
    Sender.toolStats.AlikeDocuments named (statsDocument setup now one)
      (statsDocument setup now' two) := by
  obtain ⟨hsuccess, hfailure, hqueued⟩ :=
    snapshot_totals setup now now' hcounters hqueue
  have hstats := statsJson_matches setup now now' hcounters hqueue
  simp only [Sender.AlikeDocuments, Sender.timeless, Sender.sameText, statsDocument,
    untimed_selfDocument, hsuccess, hfailure, hqueued, hrunning, documentMeta_maskAt hnow hnow']
  simp [Json.Matches, Json.MatchesMembers, Json.maskAt, SameReason.refl, hstats,
    Json.matches_refl SameReason.refl]

end Statistics

/-- A snapshot of the settings tells where documents go, but not in whose name. -/
theorem configDocument_alike (setup : Setup) {now now' : Instant} (hnow : now.IsUsual)
    (hnow' : now'.IsUsual) {baseUrl baseUrl' : String} (hsame : SameSite baseUrl baseUrl')
    {switches switches' : Switches} (hselected : switches.selected = switches'.selected)
    (hparts : switches.settingsParts = switches'.settingsParts)
    (hscope : switches.scope = switches'.scope) :
    Sender.configSnapshot.AlikeDocuments named (configDocument setup now baseUrl switches)
      (configDocument setup now' baseUrl' switches') := by
  apply Sender.AlikeDocuments.of_eq
  simp only [Sender.timeless, configDocument, untimed_selfDocument, hselected, hparts, hscope,
    hsame.concealed_eq, documentMeta_maskAt hnow hnow']

/-- The log documents of events with alike texts are alike. -/
theorem eventDocument_alike (now now' : Instant) {event event' : Event}
    (hlevel : event.level = event'.level) (htarget : event.target = event'.target)
    (htext : SameAround named event.text event'.text) :
    Sender.forwarder.AlikeDocuments named (event.document now) (event'.document now') := by
  simp [Sender.AlikeDocuments, Sender.timeless, Sender.sameText, Event.document, Json.untimed,
    Json.masked_object, Json.maskAt, Json.withheld, Json.Matches, Json.MatchesMembers, hlevel,
    htarget, htext, SameAround.refl]

end Documents

end SearchFeed
