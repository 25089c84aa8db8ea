import SearchFeed.Source
import SearchFeed.Text.Joined
import SearchFeed.Text.Whole

/-! # Why a configuration is refused

A refusal has a cause and, around it, the steps that were under way when the
cause was found.
-/

namespace SearchFeed

/-- What the names of all environment variables of the exporter begin with. -/
def variableStem : String := "ARTIFACT_EXPORT_"

/-- What was under way when a configuration was refused. -/
inductive ConfigStep where
  | readingFile (path : String)
  | parsingFile (path : String)
  | parsingContentVariable
  | parsingText
  | readingScopeVariable
  | readingListVariable (key : String)
  | checkingBaseUrl (url : String)
  | checkingPattern (pattern : String)
deriving DecidableEq, Repr

/-- The step as told to the user. -/
def ConfigStep.message : ConfigStep → String
  | .readingFile path => "Failed to read config file: " ++ path
  | .parsingFile path => "Failed to parse config file: " ++ path
  | .parsingContentVariable =>
    "Failed to parse inline config from " ++ variableStem ++ "CONFIG_CONTENT"
  | .parsingText => "Failed to parse inline config content"
  | .readingScopeVariable => "Invalid " ++ variableStem ++ "SCOPE value"
  | .readingListVariable key => "Failed to parse " ++ variableStem ++ key
  | .checkingBaseUrl url => "index.base_url is not a valid URL: " ++ url
  | .checkingPattern pattern => "scope.custom has an invalid regex: " ++ pattern

/-- Why a configuration is refused. -/
inductive ConfigError where
  /-- A file breaks the rules of its notation, or holds values of the wrong kinds. -/
  | malformed
  /-- A pattern breaks the rules of its notation. -/
  | pattern
  | address
  | file
  | unknownScope (text : String)
  | unknownSource (text : String)
  | unknownPart (text : String)
  | notWhole (key : String) (fault : Text.WholeError)
  | notTruth (key : String)
  | emptyStem
  | foreignScheme (scheme : String)
  | notPositive (key : String)
  | missingIndexer
  | during (step : ConfigStep) (cause : ConfigError)
deriving DecidableEq, Repr

namespace ConfigError

/-- What is told of a refusal: the steps, the outermost first, and the cause. -/
def layers : ConfigError → List String
  | .malformed => ["<toml>"]
  | .pattern => ["<regex>"]
  | .address => ["<url>"]
  | .file => ["<io>"]
  | .unknownScope text =>
    ["Unsupported scope: " ++ text ++ ". Supported: " ++
      Text.joined ", " ["all", "burp", "custom"]]
  | .unknownSource text =>
    ["Unsupported data source: " ++ text ++ ". Supported: " ++
      Text.joined ", " (DataSource.all.map DataSource.name)]
  | .unknownPart text =>
    ["Unsupported settings part: " ++ text ++ ". Supported: " ++
      Text.joined ", " (SettingsPart.all.map SettingsPart.name)]
  | .notWhole key fault =>
    ["Failed to parse " ++ variableStem ++ key ++ ": " ++ fault.message]
  | .notTruth key =>
    ["Failed to parse " ++ variableStem ++ key ++
      " (expected bool): provided string was not `true` or `false`"]
  | .emptyStem => ["index.prefix must not be empty"]
  | .foreignScheme scheme => ["index.base_url must use http or https, got '" ++ scheme ++ "'"]
  | .notPositive key => [key ++ " must be greater than 0"]
  | .missingIndexer => ["An indexer is required to build an exporter"]
  | .during step cause => step.message :: cause.layers

/-- The refusal as told to the user. -/
def message (error : ConfigError) : String := Text.joined ": " error.layers

/-- The outermost step of a refusal, or its cause if there is no step. -/
def headline (error : ConfigError) : String := error.layers.head?.getD ""

end ConfigError

end SearchFeed
