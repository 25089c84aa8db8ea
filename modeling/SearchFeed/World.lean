import SearchFeed.Artifact
import SearchFeed.Exchange

/-! # The world around an export

What an operation meets: the items that the host tool has, the cluster that
answers, and the time.
-/

namespace SearchFeed

/-- Why nothing could be read from a source. -/
structure SourceError where
  source : DataSource
  reason : String
deriving DecidableEq, Repr

/-- The error as told to the user. -/
def SourceError.message (error : SourceError) : String :=
  "Failed to read " ++ error.source.name ++ ": " ++ error.reason

/-- What the host tool has to export. -/
structure Sources where
  sitemap : Except SourceError (List SitemapEntry) := .ok []
  findings : Except SourceError (List Finding) := .ok []
  proxyHistory : Except SourceError (List TrafficRecord) := .ok []
  /-- Whether the host tool has an address in its own scope. -/
  hostInScope : DataSource → String → Bool := fun _ _ => true
  settings : SettingsPart → Except SourceError String := fun _ => .ok ""
  projectId : Except SourceError String := .ok ""

/-- The world during one operation. -/
structure World where
  sources : Sources
  cluster : Cluster
  now : Instant
  /-- How long a request takes, in milliseconds. -/
  latency : Nat

end SearchFeed
