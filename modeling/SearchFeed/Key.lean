import SearchFeed.Digest.Blake3
import SearchFeed.Text.Joined

/-! # Keys of items

An item is known again by the digest of the texts that identify it.
-/

namespace SearchFeed

/-- Identifies an item by its content. -/
structure PushKey where
  digest : Digest
deriving DecidableEq, Repr

namespace PushKey

/-- The bytes that stand for a list of identifying texts: the texts with a bar between them. -/
def material (fields : List String) : List UInt8 := (Text.joined "|" fields).toUTF8.toList

/-- The key of an item with these identifying texts. -/
def ofFields (fields : List String) : PushKey := ⟨Blake3.hash (material fields)⟩

/-- The key in hexadecimal. -/
def hex (key : PushKey) : String := key.digest.hex

/-- The key as it shows in diagnostics: its first sixteen digits. -/
def label (key : PushKey) : String :=
  "PushKey(" ++ String.ofList (key.hex.toList.take 16) ++ ")"

end PushKey

/-- The keys of items that have been delivered. -/
structure DeliveredKeys where
  keys : List PushKey
deriving Repr, Inhabited

namespace DeliveredKeys

/-- Nothing delivered yet. -/
def empty : DeliveredKeys := ⟨[]⟩

/-- Whether an item has been delivered. -/
def contains (delivered : DeliveredKeys) (key : PushKey) : Bool := delivered.keys.contains key

/-- Notes one more key. -/
def mark (delivered : DeliveredKeys) (key : PushKey) : DeliveredKeys :=
  if delivered.contains key then delivered else ⟨key :: delivered.keys⟩

/-- Notes keys, which may repeat. -/
def markAll (delivered : DeliveredKeys) (keys : List PushKey) : DeliveredKeys :=
  keys.foldl mark delivered

/-- How many different keys there are. -/
def size (delivered : DeliveredKeys) : Nat := delivered.keys.length

end DeliveredKeys

end SearchFeed
