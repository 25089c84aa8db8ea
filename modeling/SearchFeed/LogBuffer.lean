import SearchFeed.Artifact
import SearchFeed.Event

/-! # Buffered log documents

Events become log documents and wait in a buffer of limited size until they
are sent to the tool index. A full buffer makes room by giving up its oldest
document. Events about sending to the tool index never enter it, or sending
would feed itself.
-/

namespace SearchFeed

/-- Log documents waiting to be sent, oldest first. -/
structure LogBuffer where
  entries : List Document
  capacity : Nat
  /-- How many documents were given up, counted in 64 bits. -/
  dropped : UInt64
deriving Repr

namespace LogBuffer

/-- An empty buffer for that many documents, at least one. -/
def ofCapacity (capacity : Nat) : LogBuffer := ⟨[], max capacity 1, 0⟩

/-- An empty buffer of the usual size. -/
def standard : LogBuffer := ofCapacity 1000

instance : Inhabited LogBuffer := ⟨standard⟩

/-- How many documents wait. -/
def size (buffer : LogBuffer) : Nat := buffer.entries.length

/-- Puts a document at the end and gives up the oldest one if the buffer is full. -/
def push (buffer : LogBuffer) (document : Document) : LogBuffer :=
  if buffer.capacity ≤ buffer.size then
    { buffer with
      entries := buffer.entries.drop 1 ++ [document]
      dropped := buffer.dropped + 1 }
  else { buffer with entries := buffer.entries ++ [document] }

/-- Takes out up to that many of the oldest documents. -/
def drain (buffer : LogBuffer) (count : Nat) : List Document × LogBuffer :=
  (buffer.entries.take count, { buffer with entries := buffer.entries.drop count })

/-- Takes out everything and says how many documents there were. -/
def clear (buffer : LogBuffer) : Nat × LogBuffer :=
  (buffer.size, { buffer with entries := [] })

end LogBuffer

namespace Event

/-- The parts of the program that send to the tool index. -/
def silentTargets : List String :=
  ["artifact_export_core::log_forwarder",
    "artifact_export_core::retry",
    "artifact_export_core::reporter::tool_stats",
    "artifact_export_core::reporter::config_snapshot"]

/-- Whether events of a target, and of any target that begins like it, are kept out. -/
def isSilent (target : String) : Bool :=
  silentTargets.any fun silent => silent.toList.isPrefixOf target.toList

/-- Whether an event enters the buffer when events down to a level are wanted. -/
def isForwarded (least : Level) (event : Event) : Bool :=
  event.level.rank ≤ least.rank && !isSilent event.target

/-- The log document of an event. -/
def document (now : Instant) (event : Event) : Document := .object
  [("timestamp", .string now.text),
    ("level", .string event.level.name),
    ("event_type", .string "log"),
    ("message_text", .string event.text),
    ("target", .string event.target),
    ("source", .string "artifact-export"),
    ("extension_version", .string extensionVersion)]

end Event

/-- Takes in an event if it is wanted. -/
def LogBuffer.record (buffer : LogBuffer) (least : Level) (now : Instant) (event : Event) :
    LogBuffer :=
  if event.isForwarded least then buffer.push (event.document now) else buffer

end SearchFeed
