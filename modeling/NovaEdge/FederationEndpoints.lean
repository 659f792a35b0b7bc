import NovaEdge.FederationRun

/-! What a received change does to the cache of remote endpoints. -/
namespace NovaEdge.Federation
open KeyedMap Server VectorClock

namespace RemoteEndpointCache

def cached (c : RemoteEndpointCache) (cluster key : String) : Option ServiceEndpoints :=
 (c.find? cluster).bind fun clusterMap => clusterMap.find? key

lemma cached_delete (c : RemoteEndpointCache) (clu ns sn cl k : String) :
  (delete c clu ns sn).cached cl k =
   if cl = clu ∧ k = serviceKey ns sn then none else c.cached cl k := by
 unfold cached delete
 cases hc : c.find? clu with
 | none =>
  by_cases hl : cl = clu
  · simp [hl,hc]
  · simp [hl]
 | some clusterMap =>
  have hr : ∀ k, (clusterMap.delete (serviceKey ns sn)).find? k =
    if k = serviceKey ns sn then none else clusterMap.find? k :=
   find?_delete clusterMap _
  dsimp only
  split_ifs with hm hb hb
  · rw [hb.1,find?_delete_self]
    rfl
  · by_cases hl : cl = clu
    · -- nothing else was cached for the cluster
      have hk : k ≠ serviceKey ns sn := fun h => hb ⟨hl,h⟩
      have hn : clusterMap.find? k = none := by
       rw [← find?_delete_ne clusterMap hk]
       exact AList.lookup_eq_none.mpr (by simp [AList.mem_keys,AList.keys,List.keys,hm])
      rw [hl,find?_delete_self,hc,Option.bind_some,hn]
      rfl
    · rw [find?_delete_ne c hl]
  · rw [hb.1,find?_set_self,Option.bind_some,hr,if_pos hb.2]
  · by_cases hl : cl = clu
    · rw [hl,find?_set_self,hc,Option.bind_some,Option.bind_some,hr, if_neg fun h => hb ⟨hl,h⟩]
    · rw [find?_set_ne c _ hl]

end RemoteEndpointCache

def ServiceEndpoints.cacheCluster (eps : ServiceEndpoints) (peerName : String) : String :=
 if eps.clusterName = "" then peerName else eps.clusterName

def RemoteEndpointCache.receive (codec : Codec) (c : RemoteEndpointCache) (peerName : String)
  (change : ResourceChange) : RemoteEndpointCache :=
 if change.resourceType = "ServiceEndpoints" then
  match change.changeType with
  | .created | .updated => match codec.unmarshalServiceEndpoints change.resourceData with
   | none => c
   | some eps => c.update (eps.cacheCluster peerName) eps
  | .deleted => RemoteEndpointCache.delete c peerName change.ns change.name
  | .unspecified | .unrecognized _ => c
 else c

def Passes (s : Server) (change : ResourceChange) : Prop :=
 ∀ r, s.resources.find? change.key.string = some r → r.vectorClock.get < change.vectorClock.get

section
variable {co : Codec} {s : Server} {pn : String} {ch : ResourceChange} {d m : Instant}

lemma endpointCache_applyUpsert (t : ChangeType) : (s.applyUpsert co pn ch t).endpointCache =
   if ch.resourceType = "ServiceEndpoints" then
    match co.unmarshalServiceEndpoints ch.resourceData with
    | none => s.endpointCache
    | some eps => s.endpointCache.update (eps.cacheCluster pn) eps
   else s.endpointCache := by
 unfold applyUpsert applyServiceEndpoints
 split_ifs
 · cases co.unmarshalServiceEndpoints ch.resourceData <;> rfl
 · rfl

lemma endpointCache_applyChange : (s.applyChange co pn ch).endpointCache =
  s.endpointCache.receive co pn ch := by
 unfold applyChange RemoteEndpointCache.receive
 cases ch.changeType with
 | created => exact endpointCache_applyUpsert .created
 | updated => exact endpointCache_applyUpsert .updated
 | deleted =>
  unfold applyDelete
  split_ifs <;> rfl
 | unspecified | unrecognized n => split_ifs <;> rfl

lemma endpointCache_handleConflict (key : ResourceKey) (old : TrackedResource) :
  (s.handleConflict co key old ch d m).1.endpointCache = s.endpointCache := by
 unfold handleConflict
 dsimp only
 split
 · split_ifs <;> rfl
 · split <;> rfl
 · rfl
 · rfl

variable {r : TrackedResource}

lemma Passes.not_concurrent (h : Passes s ch) (hr : s.resources.find? ch.key.string = some r) :
  ¬ r.vectorClock.concurrent ch.vectorClock = true := by
 rw [concurrent_iff]
 exact fun hn => hn.1 (h r hr)

lemma Passes.not_older (h : Passes s ch) (hr : s.resources.find? ch.key.string = some r) :
  ¬ ch.vectorClock.happenedBefore r.vectorClock = true := by
 rw [happenedBefore_iff]
 exact lt_asymm (h r hr)

lemma not_passes_iff : ¬ Passes s ch ↔ ∃ r, s.resources.find? ch.key.string = some r ∧
      (r.vectorClock.concurrent ch.vectorClock = true ∨
       ch.vectorClock.happenedBefore r.vectorClock = true) := by
 constructor
 · intro h
   obtain ⟨r,hr,hl⟩ : ∃ r, s.resources.find? ch.key.string = some r ∧
     ¬ r.vectorClock.get < ch.vectorClock.get := by
    simpa [Passes] using h
   refine ⟨r,hr,?_⟩
   rw [concurrent_iff,happenedBefore_iff]
   tauto
 · rintro ⟨r,hr,hc | hb⟩ h
   · exact h.not_concurrent hr hc
   · exact h.not_older hr hb

/-! The three ways of a received change. -/

lemma handleResourceChange_of_passes (h : Passes s ch) : (s.handleResourceChange co pn ch d m).1 =
   (s.observe ch.vectorClock).applyChange co pn ch := by
 unfold handleResourceChange
 dsimp only
 cases hr : (s.observe ch.vectorClock).resources.find? ch.key.string with
 | none => rfl
 | some r =>
  dsimp only
  rw [if_neg (h.not_concurrent hr),if_neg (h.not_older hr)]

lemma handleResourceChange_of_concurrent {r : TrackedResource}
  (hr : s.resources.find? ch.key.string = some r)
  (hc : r.vectorClock.concurrent ch.vectorClock = true) : (s.handleResourceChange co pn ch d m).1 =
   ((s.observe ch.vectorClock).handleConflict co ch.key r ch d m).1 := by
 have hr' : (s.observe ch.vectorClock).resources.find? ch.key.string = some r := hr
 unfold handleResourceChange
 dsimp only
 rw [hr']
 dsimp only
 rw [if_pos hc]

lemma handleResourceChange_of_older (hr : s.resources.find? ch.key.string = some r)
  (hc : ¬ r.vectorClock.concurrent ch.vectorClock = true)
  (hb : ch.vectorClock.happenedBefore r.vectorClock = true) :
  (s.handleResourceChange co pn ch d m).1 = s.observe ch.vectorClock := by
 have hr' : (s.observe ch.vectorClock).resources.find? ch.key.string = some r := hr
 unfold handleResourceChange
 dsimp only
 rw [hr']
 dsimp only
 rw [if_neg hc,if_pos hb]

lemma endpointCache_of_passes (h : Passes s ch) :
  (s.handleResourceChange co pn ch d m).1.endpointCache = s.endpointCache.receive co pn ch := by
 rw [handleResourceChange_of_passes h]
 exact endpointCache_applyChange

lemma endpointCache_of_not_passes (h : ¬ Passes s ch) :
  (s.handleResourceChange co pn ch d m).1.endpointCache = s.endpointCache := by
 obtain ⟨r,hr,hn⟩ := not_passes_iff.mp h
 by_cases hc : r.vectorClock.concurrent ch.vectorClock = true
 · rw [handleResourceChange_of_concurrent hr hc]
   exact endpointCache_handleConflict ..
 · rw [handleResourceChange_of_older hr hc (hn.resolve_left hc)]
   rfl

lemma receive_of_passes (h : Passes s ch) : (s.register ch.key.string).receive co s.config ch d m =
   (s.register ch.key.string).apply ch := by
 cases hr : (s.register ch.key.string).live with
 | none =>
  unfold Register.receive
  rw [hr]
 | some r => exact receive_of_lt co s.config d m hr (h r hr)

end

end NovaEdge.Federation
