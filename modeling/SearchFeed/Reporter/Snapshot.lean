import SearchFeed.Cycle
import SearchFeed.Delivery
import SearchFeed.Url.Reader

/-! # Reporters about the export itself

Two reporters write documents about the export to the tool index: one about
its statistics and one about its settings. Neither depends on a source, and
neither remembers anything.
-/

namespace SearchFeed

/-- A document about the export itself. -/
def selfDocument (now : Instant) (eventType : String) (message : List (String × Json))
    (messageText : String) : Document :=
  .object
    [("timestamp", .string now.text),
     ("level", .string Level.info.name),
     ("event_type", .string eventType),
     ("source", .string "artifact-export"),
     ("message", .object message),
     ("message_text", .string messageText),
     ("extension_version", .string extensionVersion),
     ("document_meta", documentMeta now)]

/-- The document about the statistics. -/
def statsDocument (setup : Setup) (now : Instant) (session : Session) : Document :=
  let snapshot := session.stats.snapshot setup.naming session.queue now
  selfDocument now "stats_snapshot"
    [("export_running", .bool session.switches.running), ("stats", snapshot.json)]
    ("Export stats: " ++ toString snapshot.totalSuccess.toNat ++ " indexed, " ++
      toString snapshot.totalFailure.toNat ++ " failed, " ++
      toString snapshot.totalQueued ++ " queued")

/-- The document about the settings of the export. It tells where documents go, but not with what
credentials. -/
def configDocument (setup : Setup) (now : Instant) (baseUrl : String) (switches : Switches) :
    Document :=
  let scope := switches.scope
  selfDocument now "config_snapshot"
    [("data_sources", .ofTexts (switches.selected.map DataSource.name)),
     ("settings_parts", .ofTexts (switches.settingsParts.map SettingsPart.name)),
     ("scope_type", .string scope.kind.name),
     ("custom_entries", .array (scope.custom.map fun entry => .object
       [("value", .string entry.value), ("kind", .string entry.kind.name)])),
     ("index_names", .ofTexts (setup.naming.names switches.selected)),
     ("destination", .string (concealed baseUrl))]
    ("config_snapshot scope=" ++ scope.kind.name ++ " sources=" ++
      toString switches.selected.length)

/-- What a reporter about the export itself is made of. -/
structure SelfReporter where
  sender : Sender
  document : Setup → Instant → (baseUrl : String) → Session → Document
  /-- What is remembered when the document was not taken. -/
  errorText : String
  /-- What is told when the document was not taken. -/
  failureText : String
  target : String

/-- The reporter about the statistics. -/
def statsReporter : SelfReporter where
  sender := .toolStats
  document setup now _ session := statsDocument setup now session
  errorText := "Tool stats snapshot push failed"
  failureText := "Tool stats snapshot push failed"
  target := "artifact_export_core::reporter::tool_stats"

/-- The reporter about the settings of the export. -/
def configReporter : SelfReporter where
  sender := .configSnapshot
  document setup now baseUrl session := configDocument setup now baseUrl session.switches
  errorText := "Tool config snapshot push failed"
  failureText := "Config snapshot push failed"
  target := "artifact_export_core::reporter::config_snapshot"

/-- A cycle of a reporter about the export itself. -/
def SelfReporter.cycle (reporter : SelfReporter) (setup : Setup) (world : World)
    (session : Session) : CycleResult × Session :=
  match session.switches.destination with
  | .error reason => (.ok (.skipped reason), session)
  | .ok baseUrl =>
    let target : Target := ⟨reporter.sender, baseUrl, .tool⟩
    let (reply, session) := session.deliverSingle setup world target
      (fun _ => reporter.errorText) (reporter.document setup world.now baseUrl session)
    let result := .ok (.completed (.ofSingle reply))
    match reply with
    | .ok () => (result, session)
    | .error error =>
      (result, session.tell world.now
        { level := .debug, target := reporter.target, message := reporter.failureText,
          fields := [⟨"error", error.message⟩] })

end SearchFeed
