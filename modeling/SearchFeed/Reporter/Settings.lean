import SearchFeed.Cycle
import SearchFeed.Delivery
import SearchFeed.Json.Reader

/-! # The reporter of settings

The enabled parts of the settings are exported as one document. The digest of
what was exported is remembered when the document has been taken, and an
incremental cycle that comes to the same digest sends nothing.
-/

namespace SearchFeed

/-- An exported text: the value it spells, or the text itself if it spells none. -/
def settingsValue (text : String) : Json := (Json.read? text).getD (.string text)

/-- The texts of the given parts, in order, unless one of them cannot be exported. -/
def exportParts (sources : Sources) :
    List SettingsPart → Except SourceError (List (SettingsPart × String))
  | [] => .ok []
  | part :: rest =>
    match sources.settings part with
    | .error error => .error error
    | .ok text =>
      match exportParts sources rest with
      | .error error => .error error
      | .ok exported => .ok ((part, text) :: exported)

/-- What stands for exported settings in comparisons: the texts one after the other. -/
def combinedSettings (exported : List (SettingsPart × String)) : String :=
  Text.joined "\n" (exported.map Prod.snd)

/-- The digest of exported settings. -/
def settingsDigest (exported : List (SettingsPart × String)) : Digest :=
  Blake3.hash (combinedSettings exported).toUTF8.toList

/-- The document of exported settings. -/
def settingsDocument (now : Instant) (projectId : String)
    (exported : List (SettingsPart × String)) : Document :=
  .object (("project_id", .string projectId) ::
    (exported.map fun (part, text) => ("settings_" ++ part.name, settingsValue text)) ++
    [("document_meta", documentMeta now)])

namespace Session

/-- The part of the program that speaks about settings. -/
def settingsTarget : String := "artifact_export_core::reporter::settings"

/-- What is told when the settings were not taken. -/
def settingsEvent (index : String) (error : IndexError) : Event where
  level := .debug
  target := settingsTarget
  message := "Settings push failed"
  fields := [⟨"index", index⟩, ⟨"error", error.message⟩]

end Session

/-- Sends exported settings. What is remembered changes only if they are taken. -/
def pushSettings (setup : Setup) (world : World) (baseUrl projectId : String)
    (exported : List (SettingsPart × String)) (lastPushed : Option Digest) (session : Session) :
    CycleResult × Option Digest × Session :=
  let target : Target := ⟨.source .settings, baseUrl, .settings⟩
  let (reply, session) := session.deliverSingle setup world target
    (fun _ => "Settings index push failed") (settingsDocument world.now projectId exported)
  let result := .ok (.completed (.ofSingle reply))
  match reply with
  | .ok () => (result, some (settingsDigest exported), session)
  | .error error =>
    (result, lastPushed,
      session.tell world.now (Session.settingsEvent (setup.naming.name .settings) error))

/-- A cycle of the reporter of settings. -/
def settingsCycle (setup : Setup) (world : World) (mode : RunMode) (lastPushed : Option Digest)
    (session : Session) : CycleResult × Option Digest × Session :=
  match session.switches.preflight .settings with
  | .error reason => (.ok (.skipped reason), lastPushed, session)
  | .ok baseUrl =>
    let parts := session.switches.exportedParts
    if parts.isEmpty then (.ok (.skipped .sourceNotSelected), lastPushed, session)
    else
      match exportParts world.sources parts with
      | .error error => (.error error, lastPushed, session)
      | .ok exported =>
        if mode = .incremental ∧ lastPushed = some (settingsDigest exported) then
          (.ok (.skipped .unchanged), lastPushed, session)
        else
          match world.sources.projectId with
          | .error error => (.error error, lastPushed, session)
          | .ok projectId =>
            pushSettings setup world baseUrl projectId exported lastPushed session

end SearchFeed
