import SearchFeed.Proofs.LoginReading
import SearchFeed.Proofs.Operation
import SearchFeed.Proofs.Session

/-! # The destination in a snapshot of the settings

A snapshot of the settings tells the base address without its login, as far as
one is found in it. An address of the web that can be read loses its login, and
what is left is the same for every login. One that cannot be read is told as it
is, and so is one without a scheme, because its user name passes for the scheme.
-/

namespace SearchFeed

namespace Login

variable {lead : Lead} (rest : String)

/-- An address of the web is told without its login just if it can be read, and what is told then
is the same for every login. -/
theorem exists_concealed (hlead : lead ≠ .bare) :
    ∃ told? : Option String, ∀ login : Login,
      (Url.ofText? (login.address lead rest)).isSome = told?.isSome ∧
        concealed (login.address lead rest) = told?.getD (login.address lead rest) := by
  obtain ⟨site?, hsite⟩ := Url.exists_site hlead rest
  let nameless := fun (site : Url × Url.Authority) =>
    { site.1 with authority := some { site.2 with username := [], password := none } : Url }
  refine ⟨site?.map fun site => String.ofList (nameless site).text, fun login => ?_⟩
  obtain ⟨password, hread⟩ := hsite login
  cases site? with
  | none =>
      have hnone : Url.ofText? (login.address lead rest) = none := hread
      rw [concealed, hnone]
      exact ⟨rfl, rfl⟩
  | some site =>
      obtain ⟨url, authority⟩ := site
      have hsome : Url.ofText? (login.address lead rest) = some
          { url with authority := some (authority.inNameOf login.user.toList password) } := hread
      have hnamed : Url.hasCredentials { url with
          authority := some (authority.inNameOf login.user.toList password) } = true := by
        simp [Url.hasCredentials, Url.Authority.hasCredentials, Url.Authority.inNameOf]
      rw [concealed, hsome]
      exact ⟨rfl, if_pos hnamed⟩

/-- An address without a scheme is told as it is, unless its user name is a known scheme of the
web. -/
theorem concealed_bare (login : Login)
    (hkind : Url.schemeKind (login.user.toList.map Char.toLower) ≠ .known) :
    concealed (login.address .bare rest) = login.address .bare rest := by
  unfold concealed
  split
  next url hread =>
    rw [Url.not_hasCredentials_bare login hkind hread]
    rfl
  next => rfl

/-- An address with a login is no blank text. -/
theorem isBlankText_address (login : Login) :
    Text.isBlankText (login.address lead rest) = false := by
  rw [Text.isBlankText, List.all_eq_false]
  exact ⟨'@', by simp [toList_address], by decide⟩

/-- There are logins that an address shows when it is told as it is. -/
theorem exists_told_apart : ∃ one two : Login, one.user.text = "a" ∧ two.user.text = "a" ∧
    ∀ (lead : Lead) (rest : String), one.address lead rest ≠ two.address lead rest := by
  let user : PlainWord := ⟨"a", by decide, by decide⟩
  refine ⟨⟨user, ⟨"b", by decide, by decide⟩⟩, ⟨user, ⟨"c", by decide, by decide⟩⟩, rfl, rfl, ?_⟩
  intro lead rest hsame
  have hchars := congrArg String.toList hsame
  rw [toList_address, toList_address, List.append_cancel_left_eq] at hchars
  simp [chars, PlainWord.toList] at hchars

/-- The same is told for all logins just if a scheme of the web is in front and the address can be
read. -/
theorem concealed_eq_iff (lead : Lead) :
    (∀ login other : Login,
        concealed (login.address lead rest) = concealed (other.address lead rest)) ↔
      lead ≠ .bare ∧ ∃ login : Login, (Url.ofText? (login.address lead rest)).isSome = true := by
  obtain ⟨one, two, hone, htwo, hapart⟩ := exists_told_apart
  by_cases hlead : lead = .bare
  · subst hlead
    refine iff_of_false (fun hsame => hapart .bare rest ?_) fun hweb => hweb.1 rfl
    have htold := hsame one two
    have hkept (login : Login) (huser : login.user.text = "a") :=
      concealed_bare rest login (by rw [PlainWord.toList, huser]; decide)
    rwa [hkept one hone, hkept two htwo] at htold
  · obtain ⟨told?, hconcealed⟩ := exists_concealed rest hlead
    cases told? with
    | none =>
        refine iff_of_false (fun hsame => hapart lead rest ?_) ?_
        · have htold := hsame one two
          rwa [(hconcealed one).2, (hconcealed two).2] at htold
        · rintro ⟨-, login, hread⟩
          rw [(hconcealed login).1] at hread
          cases hread
    | some told =>
        refine iff_of_true (fun login other => ?_) ⟨hlead, one, (hconcealed one).1⟩
        rw [(hconcealed login).2, (hconcealed other).2]
        rfl

end Login

/-- The destination that a document about the settings tells. -/
def toldDestination? (document : Document) : Option Json :=
  (document.get? "message").bind (Json.get? "destination")

/-- If the switches allow it, a report on the export is sent. -/
theorem SelfReporter.cycle_ledger_ready (reporter : SelfReporter) (setup : Setup) (world : World)
    {session : Session} {baseUrl : String} (hready : session.switches.destination = .ok baseUrl) :
    (reporter.cycle setup world session).2.ledger = session.ledger ++
      [session.singleExchange setup world ⟨reporter.sender, baseUrl, .tool⟩
        (reporter.document setup world.now baseUrl session)] := by
  rw [cycle, hready]
  dsimp only
  split
  · exact session.deliverSingle_ledger ..
  · rw [Session.tell_ledger]
    exact session.deliverSingle_ledger ..

namespace Pipeline

variable (setup : Setup) (world : World) (mode : RunMode) (pipeline : Pipeline)

/-- The destinations that are told when the base address is switched and a cycle of the reporter
about the settings follows. -/
def toldDestinations (address : String) : List (Option Json) :=
  let switched := (pipeline.perform setup world
    (.switch fun switches => { switches with baseUrl := some address })).2
  let after := (switched.perform setup world (.cycle .configSnapshot mode {})).2
  (after.session.ledger.drop switched.session.ledger.length).flatMap fun exchange =>
    exchange.request.payload.documents.map toldDestination?

variable {pipeline}

/-- A running export with an address sends one snapshot, which tells the concealed address. -/
theorem toldDestinations_eq (hrunning : pipeline.session.switches.running = true)
    {address : String} (hwritten : Text.isBlankText address = false) :
    pipeline.toldDestinations setup world mode address =
      [some (.string (concealed address))] := by
  let session := pipeline.session.withSwitches fun switches =>
    { switches with baseUrl := some address }
  have hready : session.switches.destination = .ok address := by
    simp [session, Session.withSwitches, Switches.destination, Switches.usableBaseUrl, hrunning,
      Option.filter, hwritten]
  have hledger := configReporter.cycle_ledger_ready setup world hready
  change ((configReporter.cycle setup world session).2.ledger.drop
    session.ledger.length).flatMap _ = _
  rw [hledger, List.drop_left]
  rfl

variable (pipeline)

/-- A base address begins with `http://`, with `https://` or with the login itself. Whatever comes
after the login, a snapshot of the settings tells one destination. That is the same for all logins
just if there is a scheme in front and the address can be read, which does not depend on the login.
An address that cannot be read is told as it is, with its login; and so is one without a scheme
unless its user name is a known scheme of the web. -/
theorem destination_hides_login_iff (hrunning : pipeline.session.switches.running = true)
    (lead : Lead) (rest : String) :
    let told := fun login : Login =>
      pipeline.toldDestinations setup world mode (login.address lead rest)
    let readable := fun login : Login => (Url.ofText? (login.address lead rest)).isSome
    (∀ login, (told login).length = 1) ∧
      ((∀ login other, told login = told other) ↔
        lead ≠ .bare ∧ ∃ login, readable login = true) ∧
      (lead ≠ .bare → ∀ login other, readable login = readable other) ∧
      (lead ≠ .bare → ∀ login, readable login = false →
        told login = [some (.string (login.address lead rest))]) ∧
      (lead = .bare → ∀ login, Url.schemeKind (login.user.toList.map Char.toLower) ≠ .known →
        told login = [some (.string (login.address lead rest))]) := by
  intro told readable
  have htold : ∀ login, told login = [some (.string (concealed (login.address lead rest)))] :=
    fun login => toldDestinations_eq setup world mode hrunning (login.isBlankText_address rest)
  refine ⟨fun login => by rw [htold]; rfl, ?_, fun hlead login other => ?_,
    fun hlead login hbroken => ?_, fun hbare login hkind => ?_⟩
  · simp only [htold, List.cons.injEq, Option.some.injEq, Json.string.injEq, and_true]
    exact Login.concealed_eq_iff rest lead
  · obtain ⟨told?, hconcealed⟩ := Login.exists_concealed rest hlead
    exact (hconcealed login).1.trans (hconcealed other).1.symm
  · have hnone : Url.ofText? (login.address lead rest) = none := by simpa [readable] using hbroken
    rw [htold, concealed, hnone]
  · subst hbare
    rw [htold, Login.concealed_bare rest login hkind]

/-- Two users of one cluster are told apart by what a snapshot tells of an address without a
scheme. -/
theorem destination_hides_login_iff_bare :
    let switches : Switches := { running := true }
    let session : Session := { switches, stats := .start ⟨0⟩, queue := .ofCapacity 1 }
    let told := Pipeline.toldDestinations ⟨⟨"a"⟩, .standard, 100⟩
      (.rehearsed ⟨[], .succeed⟩ {}) .pushAll ⟨session, {}⟩
    session.switches.running = true ∧
      told "admin:s3cret@search.test:9200" = [some (.string "admin:s3cret@search.test:9200")] ∧
      told "root:hunter2@search.test:9200" = [some (.string "root:hunter2@search.test:9200")] := by
  intro switches session told
  let admin : Login := ⟨⟨"admin", by decide, by decide⟩, ⟨"s3cret", by decide, by decide⟩⟩
  let root : Login := ⟨⟨"root", by decide, by decide⟩, ⟨"hunter2", by decide, by decide⟩⟩
  obtain ⟨-, -, -, -, hbare⟩ := destination_hides_login_iff _ _ _ ⟨session, {}⟩ rfl .bare
    "search.test:9200"
  exact ⟨rfl, hbare rfl admin (by decide), hbare rfl root (by decide)⟩

end Pipeline

end SearchFeed
