import NovaEdge.FederationClock
import NovaEdge.Json

/-! Data model of the federation package: keys, tracked resources, tombstones, the change
messages exchanged by peers, and the JSON merge of the merge strategy. -/
namespace NovaEdge.Federation

abbrev Bytes := List UInt8

abbrev Instant := ℤ

structure ResourceKey where
 (kind ns name : String)
 deriving DecidableEq

def ResourceKey.string (k : ResourceKey) : String :=
 if k.ns = "" then k.kind ++ "/" ++ k.name else k.kind ++ "/" ++ k.ns ++ "/" ++ k.name

structure TrackedResource where
 key : ResourceKey
 (resourceVersion hash : String)
 data : Bytes
 vectorClock : VectorClock
 originMember : String
 lastModified : Instant
 labels : KeyedMap String String
 deriving DecidableEq

structure Tombstone where
 key : ResourceKey
 deletionTime : Instant
 vectorClock : VectorClock
 originMember : String
 deriving DecidableEq

inductive ChangeType
 | created
 | updated
 | deleted
 deriving DecidableEq

inductive WireChangeType
 | unspecified
 | created
 | updated
 | deleted
 | unrecognized (number : ℤ)
 deriving DecidableEq

structure ResourceChange where
 changeId : String
 vectorClock : VectorClock
 changeType : WireChangeType
 (resourceType ns name resourceVersion : String)
 resourceData : Bytes
 resourceHash : String
 timestamp : Instant
 originMember : String
 labels : KeyedMap String String

def ResourceChange.key (c : ResourceChange) : ResourceKey := ⟨c.resourceType,c.ns,c.name⟩

def ResourceChange.tracked (c : ResourceChange) : TrackedResource where
 key := c.key
 resourceVersion := c.resourceVersion
 hash := c.resourceHash
 data := c.resourceData
 vectorClock := c.vectorClock
 originMember := c.originMember
 lastModified := c.timestamp
 labels := c.labels

def ResourceChange.tombstone (c : ResourceChange) : Tombstone where
 key := c.key
 deletionTime := c.timestamp
 vectorClock := c.vectorClock
 originMember := c.originMember

structure ChangeEntry where
 id : String
 key : ResourceKey
 type : ChangeType
 resource : Option TrackedResource
 tombstone : Option Tombstone
 vectorClock : VectorClock
 timestamp : Instant
 deriving DecidableEq

def ChangeType.toWire : ChangeType → WireChangeType
 | .created => .created
 | .updated => .updated
 | .deleted => .deleted

def changeEntryToProto (entry : ChangeEntry) : ResourceChange where
 changeId := entry.id
 vectorClock := entry.vectorClock
 changeType := entry.type.toWire
 resourceType := entry.key.kind
 ns := entry.key.ns
 name := entry.key.name
 resourceVersion := (entry.resource.map (·.resourceVersion)).getD ""
 resourceData := (entry.resource.map (·.data)).getD []
 resourceHash := (entry.resource.map (·.hash)).getD ""
 timestamp := entry.timestamp
 originMember := match entry.tombstone with
  | some t => t.originMember
  | none => (entry.resource.map (·.originMember)).getD ""
 labels := (entry.resource.map (·.labels)).getD ∅

inductive ConflictResolutionType
 | none
 | lastWriterWins
 | merged
 | pendingManual
 | localWins
 | remoteWins

structure ConflictInfo where
 key : ResourceKey
 (localVersion remoteVersion : TrackedResource)
 detectedAt : Instant
 resolution : ConflictResolutionType
 requiresManual : Bool

inductive ConflictStrategy
 | lastWriterWins
 | merge
 | manual
 | other (name : String)
 deriving DecidableEq

structure Config where
 localMember : String
 conflictResolutionStrategy : ConflictStrategy
 tombstoneTTL : ℤ
 resourceTypes : List String
 batchSize : ℕ

structure Endpoint where
 address : String
 port : ℤ
 ready : Bool

structure ServiceEndpoints where
 (serviceName ns clusterName region zone : String)
 endpoints : List Endpoint

mutual
/-- Fields of the overlay override those of the base, nested objects recursively. -/
def mergeMaps (base : JsonObject) : JsonObject → JsonObject
 | [] => base
 | (k,v)::rest => mergeMaps (JsonObject.put base k (mergeValue (JsonObject.get base k) v)) rest

def mergeValue (base : Option JsonValue) : JsonValue → JsonValue
 | .obj overlay => match base with
  | some (.obj b) => .obj (mergeMaps b overlay)
  | _ => .obj overlay
 | v => v
end

def mergeLabelMaps (base overlay : KeyedMap String String) : KeyedMap String String :=
 overlay.pairs.foldl (fun acc f => acc.set f.1 f.2) base

/-- Serialisation used by the package but implemented by its libraries. -/
structure Codec where
 unmarshalObject : Bytes → Option JsonObject
 marshalObject : JsonObject → Option Bytes
 unmarshalServiceEndpoints : Bytes → Option ServiceEndpoints

inductive FederationError
 | unmarshalLocal
 | unmarshalRemote
 | marshalMerged
 | conflictNotFound (key : String)
 | peerNotFound (peer : String)

end NovaEdge.Federation
