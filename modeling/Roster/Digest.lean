import Roster.Entry
import Roster.Json
import Roster.Sha256

/-! The digest of a list of entries, which depends on node ids, versions and tombstones alone. -/

namespace Roster.Digest

/-- What the digest sees of an entry. -/
structure Version where
  nodeId : String
  timestamp : Millis
  tombstone : Bool
  deriving DecidableEq

/-- What the digest sees of an entry. -/
def versionOf (entry : Entry) : Version := ⟨entry.nodeId, entry.timestamp, entry.isTombstone⟩

/-- A version as a record. -/
def Version.toJson (version : Version) : Json :=
  .obj [("node_id", .str version.nodeId), ("timestamp", .int version.timestamp.val),
    ("tombstone", .bool version.tombstone)]

/-- The versions of entries in ascending order of node ids; those of one node keep their order. -/
def versions (entries : List Entry) : List Version :=
  (entries.map versionOf).mergeSort (fun a b => a.nodeId ≤ b.nodeId)

/-- The text that is hashed for a list of entries. -/
def text (entries : List Entry) : String :=
  (Json.arr ((versions entries).map Version.toJson)).compact

/-- A byte as two hexadecimal digits in lower case. -/
def hexByte (byte : UInt8) : List Char :=
  [Nat.digitChar (byte.toNat / 16), Nat.digitChar (byte.toNat % 16)]

/-- The hash of a text in hexadecimal digits. -/
def hashText (text : String) : String :=
  String.ofList ((Sha256.hash text.toUTF8.toList).flatMap hexByte)

/-- The digest of a list of entries. -/
def ofEntries (entries : List Entry) : String := hashText (text entries)

end Roster.Digest
