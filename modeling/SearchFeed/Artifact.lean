import SearchFeed.Index
import SearchFeed.Instant
import SearchFeed.Json
import SearchFeed.Key

/-! # Artifacts

The items that are exported one document each: entries of the site map,
findings of a scan and messages that passed the proxy. An artifact has a URL
that the export scope is asked about, a key by which it is known again, and a
document.
-/

namespace SearchFeed

/-- The version of the layout of documents. -/
def schemaVersion : String := "1"

/-- The version of the exporter as told in documents. -/
def extensionVersion : String := "0.1.0"

/-- Versions and time of export, attached to every document. -/
def documentMeta (now : Instant) : Json :=
  .object [("schema_version", .string schemaVersion),
    ("extension_version", .string extensionVersion),
    ("indexed_at", .string now.text)]

/-- Items that are exported as documents. -/
class Artifact (α : Type) where
  source : DataSource
  url : α → String
  identity : α → List String
  document : Instant → α → Document

namespace Artifact

variable {α : Type} [Artifact α]

/-- The key by which an item is known again. -/
def key (item : α) : PushKey := .ofFields (identity item)

/-- The kind of index that items of a type go to. -/
def kind (α : Type) [Artifact α] : IndexKind := .ofSource (source α)

end Artifact

/-- The name of the transport of a connection. -/
def transport (secure : Bool) : Json := .string (if secure then "https" else "http")

/-- A request found by crawling. -/
structure SitemapEntry where
  url : String
  method : String
  statusCode : Option Nat
  mimeType : Option String
  title : Option String
deriving Repr, Inhabited

instance : Artifact SitemapEntry where
  source := .sitemap
  url := SitemapEntry.url
  identity entry := [entry.url, entry.method]
  document now entry := .object
    [("url", .string entry.url),
      ("method", .string entry.method),
      ("status_code", .ofNat? entry.statusCode),
      ("mime_type", .ofText? entry.mimeType),
      ("title", .ofText? entry.title),
      ("document_meta", documentMeta now)]

/-- An issue found by scanning. -/
structure Finding where
  name : String
  severity : String
  confidence : String
  baseUrl : String
  host : String
  port : Nat
  secure : Bool
  detail : String
  remediation : String
  /-- Requests and responses that show the issue. -/
  evidence : List Json
deriving Repr, Inhabited

instance : Artifact Finding where
  source := .findings
  url := Finding.baseUrl
  identity finding :=
    [finding.name, finding.baseUrl, finding.host, toString finding.port, finding.severity,
      finding.detail]
  document now finding := .object
    [("name", .string finding.name),
      ("severity", .string finding.severity),
      ("confidence", .string finding.confidence),
      ("host", .string finding.host),
      ("port", .int finding.port),
      ("protocol_transport", transport finding.secure),
      ("url", .string finding.baseUrl),
      ("description", .string finding.detail),
      ("remediation_detail", .string finding.remediation),
      ("request_responses_missing", .bool finding.evidence.isEmpty),
      ("request_responses", .array finding.evidence),
      ("document_meta", documentMeta now)]

/-- A request that passed the proxy, with its response. -/
structure TrafficRecord where
  /-- The number of the message in its session. -/
  id : Nat
  url : String
  method : String
  host : String
  port : Nat
  secure : Bool
  tool : String
  status : Option Nat
  request : Json
  response : Json
  annotations : List (String × Json)
deriving Repr, Inhabited

instance : Artifact TrafficRecord where
  source := .traffic
  url := TrafficRecord.url
  identity record := [toString record.id, record.url, record.method]
  document now record := .object
    [("url", .string record.url),
      ("method", .string record.method),
      ("host", .string record.host),
      ("port", .int record.port),
      ("protocol_transport", transport record.secure),
      ("tool", .string record.tool),
      ("status", .ofNat? record.status),
      ("request", record.request),
      ("response", record.response),
      ("annotations", .object record.annotations),
      ("document_meta", documentMeta now)]

end SearchFeed
