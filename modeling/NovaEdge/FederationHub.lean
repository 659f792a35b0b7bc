import NovaEdge.FederationEndpoints
import NovaEdge.FederationClockBound

/-! The two dispatchers of messages from peers: the manager for streams that this member's clients
opened, and the server for streams that peers opened. -/
namespace NovaEdge.Federation
open Server

inductive Mode
 | hubSpoke
 | mesh
 | unified
 deriving DecidableEq

structure PeerState where
 vectorClock : VectorClock := ∅
 (lastSeen lastSyncTime : Instant := 0)
 healthy : Bool := false
 agentCount : ℤ := 0

inductive SyncMessage
 | change (change : ResourceChange)
 | ack (vectorClock : VectorClock)
 | heartbeat (vectorClock : VectorClock) (agentCount : ℤ)
 | conflict (key : ResourceKey)

inductive StreamSide
 | client
 | server

structure Arrival where
 side : StreamSide
 peerName : String
 message : SyncMessage
 (receivedAt handledAt mergedAt : Instant := 0)

structure Member where
 mode : Mode
 server : Server
 peerStates : KeyedMap String PeerState := ∅

namespace Member

def updatePeerState (m : Member) (peerName : String) (f : PeerState → PeerState) : Member :=
 { m with peerStates := m.peerStates.set peerName (f ((m.peerStates.find? peerName).getD {})) }

def handleSyncAck (m : Member) (peerName : String) (clock : VectorClock) (now : Instant) : Member :=
 m.updatePeerState peerName fun state => { state with vectorClock := clock, lastSyncTime := now }

def handleHeartbeat (m : Member) (peerName : String) (clock : VectorClock) (agentCount : ℤ)
  (now : Instant) : Member :=
 m.updatePeerState peerName fun state =>
  { state with vectorClock := clock, lastSeen := now, healthy := true, agentCount := agentCount }

def handleChange (codec : Codec) (m : Member) (a : Arrival) (change : ResourceChange) : Member :=
 { m with
   server := (m.server.handleResourceChange codec a.peerName change a.handledAt a.mergedAt).1 }

def handlePeerMessage (codec : Codec) (m : Member) (a : Arrival) : Member :=
 match a.message with
 | .change change => if m.mode = .hubSpoke then m else m.handleChange codec a change
 | .ack clock => m.handleSyncAck a.peerName clock a.handledAt
 | .heartbeat clock agentCount => m.handleHeartbeat a.peerName clock agentCount a.handledAt
 | .conflict _ => m

/-- One iteration of the loop; the mode is not looked at. -/
def handleIncomingMessage (codec : Codec) (m : Member) (a : Arrival) : Member :=
 let m := m.updatePeerState a.peerName fun state => { state with lastSeen := a.receivedAt }
 match a.message with
 | .change change => m.handleChange codec a change
 | .ack clock => m.handleSyncAck a.peerName clock a.handledAt
 | .heartbeat clock agentCount => m.handleHeartbeat a.peerName clock agentCount a.handledAt
 | .conflict _ => m

def deliver (codec : Codec) (m : Member) (a : Arrival) : Member :=
 match a.side with
 | .client => m.handlePeerMessage codec a
 | .server => m.handleIncomingMessage codec a

end Member

structure SameContent (s t : Server) : Prop where
 resources : ∀ k, t.resources.find? k = s.resources.find? k
 tombstones : ∀ k, t.tombstones.find? k = s.tombstones.find? k
 endpointCache : ∀ cluster k, t.endpointCache.cached cluster k = s.endpointCache.cached cluster k

/-- It carries no type, or deletes again what is already deleted in this way. -/
def AppliesNothing (s : Server) (peerName : String) (change : ResourceChange) : Prop :=
 match change.changeType with
 | .created | .updated => False
 | .deleted => s.resources.find? change.key.string = none ∧
   s.tombstones.find? change.key.string = some change.tombstone ∧
   (change.resourceType = "ServiceEndpoints" → s.endpointCache.cached peerName
    (RemoteEndpointCache.serviceKey change.ns change.name) = none)
 | .unspecified | .unrecognized _ => True

def KeepsVersion (codec : Codec) (s : Server) (change : ResourceChange) (mergedAt : Instant) :
  Prop :=
 ∀ r, s.resources.find? change.key.string = some r →
  r.vectorClock.concurrent change.vectorClock = true →
   match s.config.conflictResolutionStrategy with
   | .lastWriterWins => change.timestamp ≤ r.lastModified
   | .merge => ∀ merged,
     mergeResources codec s.config mergedAt r change.tracked = .ok merged → merged = r
   | .manual | .other _ => True

/-- The message is no change on a stream that the peer opened, or such a change has no effect. -/
def Inert (codec : Codec) (m : Member) (a : Arrival) : Prop :=
 ∀ change, a.side = .server → a.message = .change change →
  (Passes m.server change → AppliesNothing m.server a.peerName change) ∧
   (¬ Passes m.server change → KeepsVersion codec m.server change a.mergedAt)

section
variable {codec : Codec} {s : Server} {peerName : String} {change : ResourceChange} {d m : Instant}

lemma sameContent_receive_iff : SameContent s (s.handleResourceChange codec peerName change d m).1 ↔
      (((s.register change.key.string).receive codec s.config change d m).live =
        s.resources.find? change.key.string ∧
       ((s.register change.key.string).receive codec s.config change d m).tomb =
        s.tombstones.find? change.key.string) ∧
      ∀ cluster k, (s.handleResourceChange codec peerName change d m).1.endpointCache.cached
       cluster k = s.endpointCache.cached cluster k := by
 have hr := register_handleResourceChange codec s peerName change d m
 constructor
 · intro h
   have hke := hr change.key.string
   rw [if_pos rfl] at hke
   exact ⟨⟨hke ▸ h.resources _,hke ▸ h.tombstones _⟩,h.endpointCache⟩
 · rintro ⟨⟨hl,ht⟩,hc⟩
   refine ⟨fun k => ?_,fun k => ?_,hc⟩
   · change (register _ k).live = _
     rw [hr]
     split_ifs with hk
     · rw [hk,hl]
     · rfl
   · change (register _ k).tomb = _
     rw [hr]
     split_ifs with hk
     · rw [hk,ht]
     · rfl

lemma cached_receive_delete_iff (hde : change.changeType = .deleted) (c : RemoteEndpointCache) :
  (∀ cl k, (c.receive codec peerName change).cached cl k = c.cached cl k) ↔
   (change.resourceType = "ServiceEndpoints" →
    c.cached peerName (RemoteEndpointCache.serviceKey change.ns change.name) = none) := by
 unfold RemoteEndpointCache.receive
 by_cases hki : change.resourceType = "ServiceEndpoints"
 · simp only [hki,if_true,hde,RemoteEndpointCache.cached_delete,true_implies]
   constructor
   · intro h
     exact (h peerName _).symm.trans (if_pos ⟨rfl,rfl⟩)
   · intro h cl k
     split_ifs with hk
     · rw [hk.1,hk.2,h]
     · rfl
 · simp [hki]

lemma sameContent_of_passes_iff (h : Passes s change) :
  SameContent s (s.handleResourceChange codec peerName change d m).1 ↔
   AppliesNothing s peerName change := by
 rw [sameContent_receive_iff,receive_of_passes h,endpointCache_of_passes h]
 -- a stored version is newer than the one it replaces
 have hn : s.resources.find? change.key.string ≠ some change.tracked := by
  intro hr
  exact lt_irrefl _ (h _ hr)
 unfold Register.apply AppliesNothing
 cases hc : change.changeType with
 | created | updated =>
  refine iff_of_false ?_ not_false
  rintro ⟨⟨hl,-⟩,-⟩
  exact hn hl.symm
 | deleted =>
  rw [cached_receive_delete_iff hc,and_assoc]
  exact and_congr eq_comm (and_congr eq_comm Iff.rfl)
 | unspecified | unrecognized n =>
  refine iff_of_true ⟨⟨rfl,rfl⟩,fun cluster k => ?_⟩ trivial
  simp [RemoteEndpointCache.receive,hc]

lemma keepsVersion_iff {r : TrackedResource}
  (hr : s.resources.find? change.key.string = some r) : KeepsVersion codec s change m ↔
   (r.vectorClock.concurrent change.vectorClock = true →
    match s.config.conflictResolutionStrategy with
    | .lastWriterWins => change.timestamp ≤ r.lastModified
    | .merge => ∀ mgd, mergeResources codec s.config m r change.tracked = .ok mgd → mgd = r
    | .manual | .other _ => True) := by
 constructor
 · intro hk
   exact hk r hr
 · intro hk r' hr'
   obtain rfl : r = r' := mem_unique hr hr'
   exact hk

lemma sameContent_of_not_passes_iff (h : ¬ Passes s change) :
  SameContent s (s.handleResourceChange codec peerName change d m).1 ↔
   KeepsVersion codec s change m := by
 rw [sameContent_receive_iff,endpointCache_of_not_passes h]
 obtain ⟨r,hr,hn⟩ := not_passes_iff.mp h
 have hl : (s.register change.key.string).live = some r := hr
 have hu : ((s.register change.key.string).live = s.resources.find? change.key.string ∧
   (s.register change.key.string).tomb = s.tombstones.find? change.key.string) ∧
   ∀ cl k, s.endpointCache.cached cl k = s.endpointCache.cached cl k :=
  ⟨⟨rfl,rfl⟩,fun _ _ => rfl⟩
 rw [keepsVersion_iff hr]
 unfold Register.receive
 rw [hl]
 dsimp only
 by_cases hc : r.vectorClock.concurrent change.vectorClock = true
 · rw [if_pos hc,forall_prop_of_true hc]
   unfold Register.conflict
   cases s.config.conflictResolutionStrategy with
   | lastWriterWins =>
    split_ifs with ht
    · refine iff_of_false ?_ (not_le.mpr ht)
      rintro ⟨⟨ha,-⟩,-⟩
      have hk : change.tracked = r := Option.some.inj (ha.trans hr)
      exact absurd ht (by rw [← hk]; exact lt_irrefl _)
    · exact iff_of_true hu (not_lt.mp ht)
   | merge =>
    cases hm : mergeResources codec s.config m r change.tracked with
    | error e => exact iff_of_true hu fun _ hm => by cases hm
    | ok merged => simp [Register.put,hr,register]
   | manual | other n => exact iff_of_true hu trivial
 · rw [if_neg hc,if_pos (hn.resolve_left hc)]
   exact iff_of_true hu fun hc' => absurd hc' hc

lemma sameContent_deliver_iff (peerStates : KeyedMap String PeerState) (a : Arrival) :
  SameContent s (Member.deliver codec ⟨.hubSpoke,s,peerStates⟩ a).server ↔
   Inert codec ⟨.hubSpoke,s,peerStates⟩ a := by
 have hr : SameContent s s := ⟨fun _ => rfl,fun _ => rfl,fun _ _ => rfl⟩
 obtain ⟨side,peerName,message,receivedAt,handledAt,mergedAt⟩ := a
 cases side with
 | client =>
  refine iff_of_true ?_ fun _ hsi => by cases hsi
  cases message <;> exact hr
 | server =>
  cases message with
  | ack | heartbeat | conflict => exact iff_of_true hr fun _ _ hm => by cases hm
  | change change =>
   change SameContent s (s.handleResourceChange codec peerName change handledAt mergedAt).1 ↔ _
   have hn : Inert codec ⟨.hubSpoke,s,peerStates⟩
     ⟨.server,peerName,.change change,receivedAt,handledAt,mergedAt⟩ ↔
     (Passes s change → AppliesNothing s peerName change) ∧
      (¬ Passes s change → KeepsVersion codec s change mergedAt) := by
    constructor
    · intro h
      exact h change rfl rfl
    · rintro h _ - ⟨⟩
      exact h
   rw [hn]
   by_cases hp : Passes s change
   · simp [sameContent_of_passes_iff hp,hp]
   · simp [sameContent_of_not_passes_iff hp,hp]

end

lemma SameContent.trans {s t u : Server} (h : SameContent s t) (h' : SameContent t u) :
  SameContent s u :=
 ⟨fun k => (h'.resources k).trans (h.resources k),
  fun k => (h'.tombstones k).trans (h.tombstones k),
  fun c k => (h'.endpointCache c k).trans (h.endpointCache c k)⟩

lemma SameContent.symm {s t : Server} (h : SameContent s t) : SameContent t s :=
 ⟨fun k => (h.resources k).symm,fun k => (h.tombstones k).symm,
  fun c k => (h.endpointCache c k).symm⟩

lemma Member.mode_deliver (co : Codec) (m : Member) (a : Arrival) :
  (m.deliver co a).mode = m.mode := by
 unfold deliver handlePeerMessage handleIncomingMessage
 split
 · split
   · split_ifs <;> rfl
   all_goals rfl
 · split <;> rfl

theorem hub_isolated_iff (codec : Codec) (s : Server) (peerStates : KeyedMap String PeerState)
  (arrivals : List Arrival) : (∀ n, SameContent s
    ((arrivals.take n).foldl (Member.deliver codec) ⟨.hubSpoke,s,peerStates⟩).server) ↔
   Along (Member.deliver codec) (Inert codec) ⟨.hubSpoke,s,peerStates⟩
    arrivals := by
 have hn : ∀ (m : Member) a, m.mode = .hubSpoke → SameContent s m.server →
   (m.deliver codec a).mode = .hubSpoke := fun m a hm _ => (m.mode_deliver codec a).trans hm
 have ht : ∀ (m : Member) a, m.mode = .hubSpoke → SameContent s m.server →
   (SameContent s (m.deliver codec a).server ↔ Inert codec m a) := by
  rintro ⟨mode,t,states⟩ a rfl ha
  rw [← sameContent_deliver_iff states a]
  exact ⟨fun h => ha.symm.trans h,fun h => ha.trans h⟩
 exact forall_take_iff_along (P := fun m : Member => SameContent s m.server)
  hn ht rfl ⟨fun _ => rfl,fun _ => rfl,fun _ _ => rfl⟩ arrivals

/-- Over the stream that the spoke opened; the hub's own stream has no effect. -/
theorem spoke_writes_to_hub :
  let hub : Member := { mode := .hubSpoke
                        server := newServer (sampleConfig "hub" .lastWriterWins) }
  let created := sampleChange "1" (KeyedMap.set ∅ "spoke" 1) .created sampleKey emptyObject 5 "spoke"
  let deleted := sampleChange "2" (KeyedMap.set ∅ "spoke" 2) .deleted sampleKey [] 6 "spoke"
  let sent := fun side => [created,deleted].map fun change : ResourceChange =>
   ({ side := side, peerName := "spoke", message := .change change } : Arrival)
  let received := fun side n => ((sent side).take n).foldl (Member.deliver emptyObjectCodec) hub
  ((received .server 1).server.resources.find? sampleKey.string).isSome = true ∧
   ((received .server 2).server.tombstones.find? sampleKey.string).isSome = true ∧
   (received .client 1).server.resources.find? sampleKey.string = none ∧
   (received .client 2).server.tombstones.find? sampleKey.string = none := by
 decide

end NovaEdge.Federation
