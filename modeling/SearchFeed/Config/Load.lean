import SearchFeed.Config.Decode
import SearchFeed.Config.Environment
import SearchFeed.Config.FileSystem
import SearchFeed.Config.Review

/-! # Loading a configuration

A configuration comes from the first source that is there: a file that a
variable names, the text of a variable, the standard file, or else the standard
settings. Environment variables go on top, and the result is reviewed.
-/

namespace SearchFeed

/-- A configuration or why there is none, and what was told on the way. -/
structure Loading where
  events : List Event
  result : Except ConfigError Config

namespace Config

/-- Puts the variables of an environment on top of a configuration and reviews the result. -/
def settle (environment : Environment) (config : Config) : Loading :=
  match config.override environment with
  | .error error => ⟨[], .error error⟩
  | .ok config =>
    match review config.remarks with
    | (events, some error) => ⟨events, .error error⟩
    | (events, none) => ⟨events, .ok config⟩

/-- Names the step that a refusal happened in. -/
def inStep {α : Type} (step : ConfigStep) : Except ConfigError α → Except ConfigError α
  | .ok value => .ok value
  | .error cause => .error (.during step cause)

/-- The configuration of a file. -/
def ofFile (files : FileSystem) (path : String) : Except ConfigError Config :=
  match files.text? path with
  | none => .error (.during (.readingFile path) .file)
  | some text => inStep (.parsingFile path) (ofText text)

/-- The file that is looked for when no other source is named. -/
def standardPath : String := "./artifact-export.toml"

/-- The configuration of the first source that is there. -/
def ofSources (files : FileSystem) (environment : Environment) : Except ConfigError Config :=
  match environment "CONFIG" with
  | some path => ofFile files path
  | none =>
    match environment "CONFIG_CONTENT" with
    | some text => inStep .parsingContentVariable (ofText text)
    | none => if files.exists? standardPath then ofFile files standardPath else .ok {}

/-- The part of the program that speaks about sources of configurations. -/
def sourcesTarget : String := "artifact_export_config::sources"

/-- Loads the configuration of the first source that is there. -/
def load (files : FileSystem) (environment : Environment) : Loading :=
  match ofSources files environment with
  | .error error => ⟨[], .error error⟩
  | .ok config => config.settle environment

/-- Loads the configuration of the first source that is there, or else the standard settings. -/
def loadOrDefault (files : FileSystem) (environment : Environment) : Loading :=
  match ofSources files environment with
  | .ok config => config.settle environment
  | .error error =>
    let loading := ({} : Config).settle environment
    let warning : Event :=
      { level := .warn, target := sourcesTarget,
        message := "Ignoring unreadable config file; using defaults",
        fields := [⟨"error", error.headline⟩] }
    ⟨warning :: loading.events, loading.result⟩

/-- Loads the configuration of a file. -/
def loadFile (files : FileSystem) (environment : Environment) (path : String) : Loading :=
  match ofFile files path with
  | .error error => ⟨[], .error error⟩
  | .ok config => config.settle environment

/-- Loads a configuration from its text, or the standard settings if there is none. -/
def loadText (environment : Environment) (text : Option String) : Loading :=
  match text with
  | none => ({} : Config).settle environment
  | some text =>
    match inStep .parsingText (ofText text) with
    | .error error => ⟨[], .error error⟩
    | .ok config => config.settle environment

end Config

end SearchFeed
