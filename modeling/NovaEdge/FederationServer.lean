import NovaEdge.FederationTypes

/-! The federation server as explicit state passing. Every call of `time.Now` is an argument
of the operation that makes it, in program order; generated change identifiers likewise. The
operations run one at a time; local changes that overlap are the subject of `LocalClock`. -/
namespace NovaEdge.Federation

abbrev RemoteEndpointCache := KeyedMap String (KeyedMap String ServiceEndpoints)

namespace RemoteEndpointCache

def serviceKey (ns serviceName : String) : String := ns ++ "/" ++ serviceName

def update (c : RemoteEndpointCache) (cluster : String) (eps : ServiceEndpoints) :
  RemoteEndpointCache :=
 c.set cluster (((c.find? cluster).getD ∅).set (serviceKey eps.ns eps.serviceName) eps)

def delete (c : RemoteEndpointCache) (cluster ns serviceName : String) : RemoteEndpointCache :=
 match c.find? cluster with
 | none => c
 | some clusterMap =>
  let rest := clusterMap.delete (serviceKey ns serviceName)
  if rest.entries = [] then KeyedMap.delete c cluster else c.set cluster rest

def getForService (c : RemoteEndpointCache) (ns serviceName : String) : List ServiceEndpoints :=
 c.values.filterMap fun clusterMap => clusterMap.find? (serviceKey ns serviceName)

end RemoteEndpointCache

structure SyncStats where
 (totalChangesReceived conflictsDetected conflictsResolved fullSyncs : ℕ)

structure Notification where
 key : ResourceKey
 change : ChangeType
 data : Bytes

structure Server where
 config : Config
 vectorClock : VectorClock
 resources : KeyedMap String TrackedResource
 tombstones : KeyedMap String Tombstone
 conflicts : KeyedMap String ConflictInfo
 peerOutboxes : KeyedMap String (List ChangeEntry)
 endpointCache : RemoteEndpointCache
 stats : SyncStats
 notifications : List Notification

def newServer (config : Config) : Server where
 config := config
 vectorClock := VectorClock.increment ∅ config.localMember
 resources := ∅
 tombstones := ∅
 conflicts := ∅
 peerOutboxes := ∅
 endpointCache := ∅
 stats := ⟨0,0,0,0⟩
 notifications := []

namespace Server

def notifyChange (s : Server) (key : ResourceKey) (change : ChangeType) (data : Bytes) : Server :=
 { s with notifications := s.notifications ++ [⟨key,change,data⟩] }

def countReceived (s : Server) : Server :=
 { s with stats := { s.stats with totalChangesReceived := s.stats.totalChangesReceived+1 } }

def countConflict (s : Server) : Server :=
 { s with stats := { s.stats with conflictsDetected := s.stats.conflictsDetected+1 } }

def countResolved (s : Server) : Server :=
 { s with stats := { s.stats with conflictsResolved := s.stats.conflictsResolved+1 } }

def applyServiceEndpoints (codec : Codec) (s : Server) (data : Bytes) (peerName : String) :
  Server :=
 match codec.unmarshalServiceEndpoints data with
 | none => s
 | some eps =>
  let cluster := if eps.clusterName = "" then peerName else eps.clusterName
  { s with endpointCache := s.endpointCache.update cluster eps }

def deleteServiceEndpoints (s : Server) (ns name peerName : String) : Server :=
 { s with endpointCache := RemoteEndpointCache.delete s.endpointCache peerName ns name }

def mergeResources (codec : Codec) (config : Config) (now : Instant)
  (existing remote : TrackedResource) : Except FederationError TrackedResource :=
 match codec.unmarshalObject existing.data with
 | none => .error .unmarshalLocal
 | some localData =>
  match codec.unmarshalObject remote.data with
  | none => .error .unmarshalRemote
  | some remoteData =>
   match codec.marshalObject (mergeMaps localData remoteData) with
   | none => .error .marshalMerged
   | some mergedData => .ok {
     key := existing.key
     resourceVersion := ""
     hash := ""
     data := mergedData
     vectorClock :=
      (existing.vectorClock.mergeMap remote.vectorClock).increment config.localMember
     originMember := config.localMember
     lastModified := now
     labels := mergeLabelMaps existing.labels remote.labels }

def storeResource (s : Server) (keyStr : String) (r : TrackedResource) : Server :=
 { s with resources := s.resources.set keyStr r }

/-- A live version takes the place of a tombstone, and a tombstone that of a live version. -/
def storeLive (s : Server) (keyStr : String) (r : TrackedResource) : Server :=
 { s with resources := s.resources.set keyStr r, tombstones := s.tombstones.delete keyStr }

def storeTombstone (s : Server) (keyStr : String) (t : Tombstone) : Server :=
 { s with resources := s.resources.delete keyStr, tombstones := s.tombstones.set keyStr t }

def parkConflict (s : Server) (keyStr : String) (c : ConflictInfo) : Server :=
 { s with conflicts := s.conflicts.set keyStr c }

/-- `detectedAt` and `mergedAt` are the two clock reads of the conflict path. -/
def handleConflict (codec : Codec) (s : Server) (key : ResourceKey) (existing : TrackedResource)
  (remote : ResourceChange) (detectedAt mergedAt : Instant) :
  Server × Option FederationError :=
 let keyStr := key.string
 let remoteResource := { remote.tracked with key := key }
 let conflict : ConflictInfo := ⟨key,existing,remoteResource,detectedAt,.none,false⟩
 let pending := { conflict with resolution := .pendingManual, requiresManual := true }
 let s := s.countConflict
 match s.config.conflictResolutionStrategy with
 | .lastWriterWins =>
  if existing.lastModified < remoteResource.lastModified then
   (((s.storeResource keyStr remoteResource).notifyChange key .updated
    remoteResource.data).countResolved,none)
  else (s.countResolved,none)
 | .merge =>
  match mergeResources codec s.config mergedAt existing remoteResource with
  | .error e => (s.parkConflict keyStr pending,some e)
  | .ok merged =>
   (((s.storeResource keyStr merged).countResolved).notifyChange key .updated merged.data,none)
 | .manual => (s.parkConflict keyStr pending,none)
 | .other _ => (s,none)

def applyUpsert (codec : Codec) (s : Server) (peerName : String) (change : ResourceChange)
  (localChangeType : ChangeType) : Server :=
 let s := s.storeLive change.key.string change.tracked
 let s := if change.resourceType = "ServiceEndpoints" then
  s.applyServiceEndpoints codec change.resourceData peerName else s
 s.notifyChange change.key localChangeType change.resourceData

def applyDelete (s : Server) (peerName : String) (change : ResourceChange) : Server :=
 let s := s.storeTombstone change.key.string change.tombstone
 let s := if change.resourceType = "ServiceEndpoints" then
  s.deleteServiceEndpoints change.ns change.name peerName else s
 s.notifyChange change.key .deleted []

def applyChange (codec : Codec) (s : Server) (peerName : String) (change : ResourceChange) :
  Server :=
 match change.changeType with
 | .unspecified => s
 | .created => (s.applyUpsert codec peerName change .created).countReceived
 | .updated => (s.applyUpsert codec peerName change .updated).countReceived
 | .deleted => (s.applyDelete peerName change).countReceived
 | .unrecognized _ => s.countReceived

def observe (s : Server) (clocks : VectorClock) : Server :=
 { s with vectorClock := s.vectorClock.mergeMap clocks }

/-- Causality is checked against the live version of the key only, never its tombstone. -/
def handleResourceChange (codec : Codec) (s : Server) (peerName : String)
  (change : ResourceChange) (detectedAt mergedAt : Instant) : Server × Option FederationError :=
 let s := s.observe change.vectorClock
 match s.resources.find? change.key.string with
 | some existing =>
  if existing.vectorClock.concurrent change.vectorClock then
   s.handleConflict codec change.key existing change detectedAt mergedAt
  else if change.vectorClock.happenedBefore existing.vectorClock then (s,none)
  else (s.applyChange codec peerName change,none)
 | none => (s.applyChange codec peerName change,none)

def outboxCapacity : ℕ := 1000

/-- A full outbox drops the newest change. -/
def fanOut (outboxes : KeyedMap String (List ChangeEntry)) (entry : ChangeEntry) :
  KeyedMap String (List ChangeEntry) :=
 outboxes.pairs.foldl (fun acc p =>
  if p.2.length < outboxCapacity then acc.set p.1 (p.2 ++ [entry]) else acc) outboxes

/-- `stamp` is the entry's clock read and `stored` the later one of its resource. -/
def localEntry (s : Server) (id : String) (key : ResourceKey) (changeType : ChangeType)
  (data : Bytes) (labels : KeyedMap String String) (stamp stored : Instant) : ChangeEntry :=
 let clock := s.vectorClock.increment s.config.localMember
 match changeType with
 | .deleted => ⟨id,key,changeType,none,
   some ⟨key,stored,clock,s.config.localMember⟩,clock,stamp⟩
 | _ => ⟨id,key,changeType,
   some ⟨key,"","",data,clock,s.config.localMember,stored,labels⟩,none,clock,stamp⟩

def recordLocalChange (s : Server) (id : String) (key : ResourceKey) (changeType : ChangeType)
  (data : Bytes) (labels : KeyedMap String String) (stamp stored : Instant) : Server :=
 let entry := s.localEntry id key changeType data labels stamp stored
 let s := { s with vectorClock := s.vectorClock.increment s.config.localMember }
 let s := match entry.tombstone with
  | some t => s.storeTombstone key.string t
  | none => match entry.resource with
   | some r => s.storeLive key.string r
   | none => s
 { s with peerOutboxes := fanOut s.peerOutboxes entry }

/-- Resolving by the remote version writes the live map only; the tombstone map is not read. -/
def resolveConflict (s : Server) (keyStr : String) (useLocal : Bool) :
  Server × Option FederationError :=
 match s.conflicts.find? keyStr with
 | none => (s,some (.conflictNotFound keyStr))
 | some conflict =>
  let s := if useLocal then s
   else (s.storeResource keyStr conflict.remoteVersion).notifyChange conflict.key .updated
    conflict.remoteVersion.data
  (({ s with conflicts := s.conflicts.delete keyStr } : Server).countResolved,none)

def tombstoneExpired (config : Config) (now : Instant) (t : Tombstone) : Bool :=
 config.tombstoneTTL < now - t.deletionTime

def cleanupTombstones (s : Server) (now : Instant) : Server :=
 { s with tombstones := s.tombstones.deleteIf fun e => tombstoneExpired s.config now e.2 }

/-- `Manager.UpdateConfig` replaces the configuration under the running server. -/
def updateConfig (s : Server) (config : Config) : Server := { s with config := config }

def openOutbox (s : Server) (peerName : String) : Server :=
 { s with peerOutboxes := s.peerOutboxes.set peerName [] }

def closeOutbox (s : Server) (peerName : String) : Server :=
 { s with peerOutboxes := s.peerOutboxes.delete peerName }

def fromPeer (entry : ChangeEntry) (peerName : String) : Bool :=
 entry.resource.any (·.originMember = peerName) || entry.tombstone.any (·.originMember = peerName)

def sendNext (s : Server) (peerName : String) : Server × Option ResourceChange :=
 match s.peerOutboxes.find? peerName with
 | some (entry::rest) =>
  ({ s with peerOutboxes := s.peerOutboxes.set peerName rest },
   if fromPeer entry peerName then none else some (changeEntryToProto entry))
 | _ => (s,none)

end Server
end NovaEdge.Federation
