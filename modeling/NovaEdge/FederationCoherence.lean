import NovaEdge.KeyedMapCollect
import NovaEdge.FederationEndpoints
import NovaEdge.FederationClockBound

/-! The cache of remote endpoints against the resources it is filled from, over whole runs of
received changes. Services go by their `namespace/name` key. -/
namespace NovaEdge.Federation
open Server Option KeyedMap

open RemoteEndpointCache (serviceKey)

structure ChangeReceipt where
 peerName : String
 change : ResourceChange
 (detectedAt mergedAt : Instant := 0)

def Server.receiveChange (codec : Codec) (s : Server) (x : ChangeReceipt) : Server :=
 (s.handleResourceChange codec x.peerName x.change x.detectedAt x.mergedAt).1

def TrackedResource.serviceEndpoints (codec : Codec) (r : TrackedResource) :
  Option (String × ServiceEndpoints) :=
 if r.key.kind = "ServiceEndpoints" then
  (codec.unmarshalServiceEndpoints r.data).map fun eps => (serviceKey r.key.ns r.key.name,eps)
 else none

def endpointsAt (key : String) (o : Option (String × ServiceEndpoints)) : Option ServiceEndpoints :=
 o.bind fun p => if p.1 = key then some p.2 else none

def Server.endpointSets (codec : Codec) (s : Server) (ns serviceName : String) :
  List ServiceEndpoints :=
 s.resources.values.filterMap fun r =>
  endpointsAt (serviceKey ns serviceName) (r.serviceEndpoints codec)

def Coherent (codec : Codec) (s : Server) : Prop :=
 ∀ ns serviceName, (s.endpointCache.getForService ns serviceName).Perm
  (s.endpointSets codec ns serviceName)

def Server.held (codec : Codec) (s : Server) (keyStr : String) :
  Option (String × ServiceEndpoints) :=
 (s.resources.find? keyStr).bind (TrackedResource.serviceEndpoints codec)

def Server.cachedEntry (s : Server) (cluster key : String) : Option (String × ServiceEndpoints) :=
 (s.endpointCache.cached cluster key).map fun eps => (key,eps)

def conflictWinner (codec : Codec) (config : Config) (existing : TrackedResource)
  (change : ResourceChange) (mergedAt : Instant) : Option TrackedResource :=
 match config.conflictResolutionStrategy with
 | .lastWriterWins =>
  if existing.lastModified < change.timestamp then some change.tracked else none
 | .merge => (mergeResources codec config mergedAt existing change.tracked).toOption
 | .manual | .other _ => none

/-- What was cached for the cluster is what the replaced version carried, or nothing changes. -/
def UpsertCoherent (codec : Codec) (s : Server) (peerName : String) (change : ResourceChange) :
  Prop :=
 match change.tracked.serviceEndpoints codec with
 | none => s.held codec change.key.string = none
 | some (key,eps) =>
  (key = serviceKey eps.ns eps.serviceName ∧
    s.held codec change.key.string = s.cachedEntry (eps.cacheCluster peerName) key) ∨
   (s.held codec change.key.string = some (key,eps) ∧
    s.endpointCache.cached (eps.cacheCluster peerName)
     (serviceKey eps.ns eps.serviceName) = some eps)

def DeleteCoherent (codec : Codec) (s : Server) (peerName : String) (change : ResourceChange) :
  Prop :=
 s.held codec change.key.string =
  if change.resourceType = "ServiceEndpoints" then
   s.cachedEntry peerName (serviceKey change.ns change.name)
  else none

def ConflictCoherent (codec : Codec) (s : Server) (change : ResourceChange) (mergedAt : Instant) :
  Prop :=
 ∀ r v, s.resources.find? change.key.string = some r →
  r.vectorClock.concurrent change.vectorClock = true →
  conflictWinner codec s.config r change mergedAt = some v →
   v.serviceEndpoints codec = r.serviceEndpoints codec

def KeepsCoherence (codec : Codec) (s : Server) (x : ChangeReceipt) : Prop :=
 (Passes s x.change → match x.change.changeType with
  | .created | .updated => UpsertCoherent codec s x.peerName x.change
  | .deleted => DeleteCoherent codec s x.peerName x.change
  | .unspecified | .unrecognized _ => True) ∧
 (¬ Passes s x.change → ConflictCoherent codec s x.change x.mergedAt)

/-- Two totals that grow and shrink by single elements stay equal exactly if the changes agree. -/
lemma balance_iff {β : Type*} {tot sets cac gai lost fil emp : Multiset β}
  (hse : sets+lost = tot+gai) (hc : cac+emp = tot+fil) : cac = sets ↔ gai+emp = lost+fil := by
 constructor
 · rintro rfl
   apply add_left_cancel (a := tot)
   calc tot+(gai+emp) = cac+lost+emp := by rw [hse,add_assoc]
    _ = cac+emp+lost := add_right_comm ..
    _ = tot+(lost+fil) := by rw [hc,add_assoc,add_comm fil]
 · intro h
   apply add_right_cancel (b := emp+lost)
   calc cac+(emp+lost) = tot+(lost+fil) := by
         rw [← add_assoc,hc,add_assoc,add_comm fil]
    _ = tot+gai+emp := by rw [← h,add_assoc]
    _ = sets+(emp+lost) := by rw [← hse,add_assoc,add_comm lost]

section
variable {co : Codec} {s : Server}

lemma coherent_iff : Coherent co s ↔ ∀ ns sn,
  collected (fun cm => cm.find? (serviceKey ns sn)) s.endpointCache =
   collected (fun r => endpointsAt (serviceKey ns sn) (r.serviceEndpoints co)) s.resources := by
 refine forall₂_congr fun ns sn => ?_
 exact Multiset.coe_eq_coe.symm

variable (key : String)

lemma endpointsAt_bind (o : Option TrackedResource) :
  (o.bind fun r => endpointsAt key (r.serviceEndpoints co)) =
   endpointsAt key (o.bind (TrackedResource.serviceEndpoints co)) := by
 cases o <;> rfl

lemma collected_update (c : RemoteEndpointCache) (cl : String) (eps : ServiceEndpoints)
  (key : String) : collected (fun cm => cm.find? key) (c.update cl eps)+single (c.cached cl key) =
   collected (fun cm => cm.find? key) c +
    single (if key = serviceKey eps.ns eps.serviceName then some eps
     else c.cached cl key) := by
 have hn : (((c.find? cl).getD ∅).set (serviceKey eps.ns eps.serviceName) eps).find? key =
   if key = serviceKey eps.ns eps.serviceName then some eps else c.cached cl key := by
  rw [find?_set,RemoteEndpointCache.cached]
  cases c.find? cl <;> rfl
 rw [← hn]
 exact collected_set _ c cl _

lemma collected_cache_delete (c : RemoteEndpointCache) (cl ns sn key : String) :
  collected (fun cm => cm.find? key) (RemoteEndpointCache.delete c cl ns sn) +
    single (c.cached cl key) = collected (fun cm => cm.find? key) c +
    single (if key = serviceKey ns sn then none else c.cached cl key) := by
 unfold RemoteEndpointCache.delete RemoteEndpointCache.cached
 cases hc : c.find? cl with
 | none => simp
 | some cm =>
  have hr : (cm.delete (serviceKey ns sn)).find? key =
    if key = serviceKey ns sn then none else cm.find? key :=
   find?_delete cm _ _
  simp only [bind_some]
  rw [← hr]
  have ho : (c.find? cl).bind (fun cm => cm.find? key) = cm.find? key := by rw [hc]; rfl
  rw [← ho]
  split_ifs with hm
  · have hn : (cm.delete (serviceKey ns sn)).find? key = none :=
     AList.lookup_eq_none.mpr (by simp [AList.mem_keys,AList.keys,List.keys,hm])
    rw [hn,single_none,add_zero]
    exact collected_delete _ c cl
  · exact collected_set _ c cl _

variable {pn : String} {change : ResourceChange} {d m : Instant}

lemma resources_applyChange : (s.applyChange co pn change).resources =
  match change.changeType with
  | .created | .updated => s.resources.set change.key.string change.tracked
  | .deleted => s.resources.delete change.key.string
  | .unspecified | .unrecognized _ => s.resources := by
 unfold applyChange applyUpsert applyDelete applyServiceEndpoints
 cases change.changeType with
 | created | updated =>
  split_ifs
  · cases co.unmarshalServiceEndpoints change.resourceData <;> rfl
  · rfl
 | deleted =>
  split_ifs <;> rfl
 | unspecified | unrecognized n => rfl

lemma resources_handleConflict (r : TrackedResource) :
  (s.handleConflict co change.key r change d m).1.resources =
   match conflictWinner co s.config r change m with
   | some v => s.resources.set change.key.string v
   | none => s.resources := by
 have hc : s.countConflict.config = s.config := rfl
 unfold handleConflict conflictWinner
 simp only [hc]
 cases s.config.conflictResolutionStrategy with
 | lastWriterWins =>
  by_cases ht : r.lastModified < change.timestamp
  · have ht' : r.lastModified < change.tracked.lastModified := ht
    simp only [ht,ht',if_true]
    rfl
  · have ht' : ¬ r.lastModified < change.tracked.lastModified := ht
    simp only [ht,ht',if_false]
    rfl
 | merge =>
  have hr : ({ change.tracked with key := change.key } : TrackedResource) = change.tracked := rfl
  simp only [hr]
  cases mergeResources co s.config m r change.tracked <;> rfl
 | manual | other n => rfl

@[simp] lemma endpointsAt_none : endpointsAt key none = none := rfl

@[simp] lemma endpointsAt_some (k : String) (eps : ServiceEndpoints) :
  endpointsAt key (some (k,eps)) = if k = key then some eps else none := rfl

variable {o : Option (String × ServiceEndpoints)}

lemma endpointsAt_eq_some_iff {key : String} {eps : ServiceEndpoints} :
  endpointsAt key o = some eps ↔ o = some (key,eps) := by
 cases o with
 | none => simp
 | some p =>
  obtain ⟨k,e⟩ := p
  by_cases hk : k = key <;> simp [hk]

def OfService (o : Option (String × ServiceEndpoints)) : Prop :=
 ∀ p, o = some p → ∃ ns name, p.1 = serviceKey ns name

lemma ofService_serviceEndpoints (r : TrackedResource) : OfService (r.serviceEndpoints co) := by
 intro p hp
 unfold TrackedResource.serviceEndpoints at hp
 split_ifs at hp
 obtain ⟨eps,-,rfl⟩ := map_eq_some_iff.mp hp
 exact ⟨r.key.ns,r.key.name,rfl⟩

lemma ofService_held (ks : String) : OfService (s.held co ks) := by
 intro p hp
 obtain ⟨r,-,hr⟩ := bind_eq_some_iff.mp hp
 exact ofService_serviceEndpoints r p hr

lemma ofService_cachedEntry (cl ns name : String) :
  OfService (s.cachedEntry cl (serviceKey ns name)) := by
 intro p hp
 obtain ⟨eps,-,rfl⟩ := map_eq_some_iff.mp hp
 exact ⟨ns,name,rfl⟩

lemma eq_of_endpointsAt_some {o' : Option (String × ServiceEndpoints)} (ho : OfService o)
  (h : ∀ ns name, endpointsAt (serviceKey ns name) o = endpointsAt (serviceKey ns name) o')
  {p : String × ServiceEndpoints} (hp : o = some p) : o' = some p := by
 obtain ⟨k,eps⟩ := p
 obtain ⟨ns,name,hk : k = serviceKey ns name⟩ := ho _ hp
 have ha : endpointsAt k o' = some eps := by
  rw [hk,← h ns name,← hk]
  exact endpointsAt_eq_some_iff.mpr hp
 exact endpointsAt_eq_some_iff.mp ha

lemma endpointsAt_ext {o' : Option (String × ServiceEndpoints)} (ho : OfService o)
  (ho' : OfService o') :
  (∀ ns name, endpointsAt (serviceKey ns name) o = endpointsAt (serviceKey ns name) o') ↔
   o = o' := by
 constructor
 · intro h
   cases hp : o with
   | some p => exact (eq_of_endpointsAt_some ho h hp).symm
   | none =>
    cases hp' : o' with
    | none => rfl
    | some p' =>
     have := eq_of_endpointsAt_some ho' (fun ns name => (h ns name).symm) hp'
     rw [hp] at this
     cases this
 · rintro rfl _ _
   rfl

lemma endpointsAt_cachedEntry (cl key σ : String) : endpointsAt σ (s.cachedEntry cl key) =
      if key = σ then s.endpointCache.cached cl key else none := by
 unfold cachedEntry
 cases s.endpointCache.cached cl key <;> simp

lemma collected_store (v : TrackedResource) (ks key : String) :
  collected (fun r => endpointsAt key (r.serviceEndpoints co)) (s.resources.set ks v) +
    single (endpointsAt key (s.held co ks)) =
   collected (fun r => endpointsAt key (r.serviceEndpoints co)) s.resources +
    single (endpointsAt key (v.serviceEndpoints co)) := by
 rw [held,← endpointsAt_bind]
 exact collected_set _ s.resources ks v

lemma collected_remove (ks key : String) :
  collected (fun r => endpointsAt key (r.serviceEndpoints co)) (s.resources.delete ks) +
    single (endpointsAt key (s.held co ks)) =
   collected (fun r => endpointsAt key (r.serviceEndpoints co)) s.resources := by
 rw [held,← endpointsAt_bind]
 exact collected_delete _ s.resources ks

variable {t : Server}

lemma coherent_of_same_cache (hs : Coherent co s) {ks : String} {v : TrackedResource}
  (hr : t.resources = s.resources.set ks v) (hc : t.endpointCache = s.endpointCache) :
  Coherent co t ↔ v.serviceEndpoints co = s.held co ks := by
 rw [coherent_iff] at hs ⊢
 rw [← endpointsAt_ext (ofService_serviceEndpoints v) (ofService_held ks)]
 refine forall₂_congr fun ns name => ?_
 rw [hr,hc]
 have ho := @collected_store co s v ks (serviceKey ns name)
 rw [balance_iff ho (congrArg (· + 0) (hs ns name)),add_zero,add_zero]
 exact single_inj

section
variable {key σ : String} {eps : ServiceEndpoints} {held : Option (String × ServiceEndpoints)}
 {cac : String → Option ServiceEndpoints}

/-- What is at a key before and after an update of the cache adds up, for every service. -/
def UpdateBalances (key σ : String) (eps : ServiceEndpoints)
  (held : Option (String × ServiceEndpoints)) (cac : String → Option ServiceEndpoints) : Prop :=
 ∀ ns name, single (endpointsAt (serviceKey ns name) (some (key,eps))) +
   single (cac (serviceKey ns name)) =
  single (endpointsAt (serviceKey ns name) held) +
   single (if serviceKey ns name = σ then some eps else cac (serviceKey ns name))

variable (hkey : ∃ ns name, key = serviceKey ns name)
include hkey

lemma upsert_balance_same_iff (hh : OfService held) :
  UpdateBalances key key eps held cac ↔ held = (cac key).map fun e => (key,e) := by
 have hen : OfService ((cac key).map fun e => (key,e)) := by
  intro p hp
  obtain ⟨e,-,rfl⟩ := map_eq_some_iff.mp hp
  exact hkey
 rw [← endpointsAt_ext hh hen]
 refine forall₂_congr fun ns name => ?_
 by_cases hn : serviceKey ns name = key
 · have ha : endpointsAt key ((cac key).map fun e => (key,e)) = cac key := by
    cases cac key <;> simp
   rw [hn,ha,endpointsAt_some,if_pos rfl,if_pos rfl,add_comm,add_left_inj, single_inj]
   exact eq_comm
 · have ha : endpointsAt (serviceKey ns name) ((cac key).map fun e => (key,e)) = none := by
    cases cac key <;> simp [Ne.symm hn]
   rw [ha,endpointsAt_some,if_neg (Ne.symm hn),if_neg hn,add_left_inj,single_inj]
   exact eq_comm

lemma upsert_balance_other_iff (hσ : ∃ ns name, σ = serviceKey ns name) (hne : key ≠ σ) :
  UpdateBalances key σ eps held cac ↔ held = some (key,eps) ∧ cac σ = some eps := by
 constructor
 · intro h
   have hh : held = some (key,eps) := by
    obtain ⟨ns,name,hk⟩ := hkey
    have ha := h ns name
    rw [← hk,endpointsAt_some,if_pos rfl,if_neg hne,add_left_inj,single_inj] at ha
    exact endpointsAt_eq_some_iff.mp ha.symm
   obtain ⟨ns,name,hs⟩ := hσ
   have ha := h ns name
   rw [← hs,hh,endpointsAt_some,if_neg hne,if_pos rfl,add_right_inj, single_inj] at ha
   exact ⟨hh,ha⟩
 · rintro ⟨rfl,hc⟩ ns name
   by_cases hn : serviceKey ns name = σ
   · rw [hn,if_pos rfl,hc]
   · rw [if_neg hn]

lemma upsert_balance_iff (hσ : ∃ ns name, σ = serviceKey ns name) (hh : OfService held) :
  UpdateBalances key σ eps held cac ↔ (key = σ ∧ held = (cac σ).map fun e => (σ,e)) ∨
   (held = some (key,eps) ∧ cac σ = some eps) := by
 by_cases hn : key = σ
 · subst hn
   rw [upsert_balance_same_iff hkey hh]
   constructor
   · intro h
     exact .inl ⟨rfl,h⟩
   · rintro (⟨-,h⟩ | ⟨rfl,hc⟩)
     · exact h
     · rw [hc,map_some]
 · rw [upsert_balance_other_iff hkey hσ hn]
   simp [hn]

end

lemma serviceEndpoints_tracked (ch : ResourceChange) : ch.tracked.serviceEndpoints co =
      if ch.resourceType = "ServiceEndpoints" then
       (co.unmarshalServiceEndpoints ch.resourceData).map fun eps =>
        (serviceKey ch.ns ch.name,eps)
      else none := rfl

section
variable (hs : Coherent co s)
include hs

lemma coherent_upsert_iff (hr : t.resources = s.resources.set change.key.string change.tracked)
  (hc : t.endpointCache = if change.resourceType = "ServiceEndpoints" then
      match co.unmarshalServiceEndpoints change.resourceData with
      | none => s.endpointCache
      | some eps => s.endpointCache.update (eps.cacheCluster pn) eps
      else s.endpointCache) : Coherent co t ↔ UpsertCoherent co s pn change := by
 unfold UpsertCoherent
 cases hn : change.tracked.serviceEndpoints co with
 | none =>
  have ha : t.endpointCache = s.endpointCache := by
   rw [hc]
   rw [serviceEndpoints_tracked] at hn
   split_ifs at hn ⊢
   · rw [map_eq_none_iff.mp hn]
   · rfl
  rw [coherent_of_same_cache hs hr ha,hn]
  exact eq_comm
 | some p =>
  obtain ⟨key,eps⟩ := p
  have ho : ∃ ns name, key = serviceKey ns name := ofService_serviceEndpoints change.tracked _ hn
  have hu : t.endpointCache = s.endpointCache.update (eps.cacheCluster pn) eps := by
   rw [hc]
   rw [serviceEndpoints_tracked] at hn
   split_ifs at hn ⊢
   obtain ⟨eps',hde,hp⟩ := map_eq_some_iff.mp hn
   obtain rfl : eps' = eps := (Prod.mk.inj hp).2
   rw [hde]
  rw [coherent_iff] at hs ⊢
  have ht : ∀ ns name,
    collected (fun clusterMap => clusterMap.find? (serviceKey ns name)) t.endpointCache =
     collected (fun r => endpointsAt (serviceKey ns name) (r.serviceEndpoints co))
      t.resources ↔
    single (endpointsAt (serviceKey ns name) (some (key,eps))) +
      single (s.endpointCache.cached (eps.cacheCluster pn) (serviceKey ns name)) =
     single (endpointsAt (serviceKey ns name) (s.held co change.key.string)) +
      single (if serviceKey ns name = serviceKey eps.ns eps.serviceName then some eps
       else s.endpointCache.cached (eps.cacheCluster pn) (serviceKey ns name)) := by
   intro ns name
   rw [hr,hu,← hn]
   refine balance_iff (collected_store change.tracked change.key.string (serviceKey ns name)) ?_
   rw [collected_update,hs ns name]
  refine ((forall₂_congr ht).trans (upsert_balance_iff ho ⟨_,_,rfl⟩ (ofService_held _))).trans ?_
  refine or_congr_left (and_congr_right fun hkey => ?_)
  rw [hkey]
  rfl

lemma coherent_delete_iff (hr : t.resources = s.resources.delete change.key.string)
  (hc : t.endpointCache = if change.resourceType = "ServiceEndpoints" then
      RemoteEndpointCache.delete s.endpointCache pn change.ns change.name
      else s.endpointCache) : Coherent co t ↔ DeleteCoherent co s pn change := by
 unfold DeleteCoherent
 rw [coherent_iff] at hs ⊢
 have hre : ∀ key, _ := fun key => @collected_remove co s change.key.string key
 split_ifs at hc ⊢ with hk
 · rw [← endpointsAt_ext (ofService_held _) (ofService_cachedEntry _ _ _)]
   refine forall₂_congr fun ns name => ?_
   rw [hr,hc,balance_iff ((hre _).trans (add_zero _).symm)
    ((collected_cache_delete ..).trans (congrArg (· + _) (hs ns name))),zero_add,
    endpointsAt_cachedEntry]
   by_cases hn : serviceKey ns name = serviceKey change.ns change.name
   · rw [hn,if_pos rfl,if_pos rfl,single_none,add_zero,single_inj]
     exact eq_comm
   · rw [if_neg hn,if_neg (Ne.symm hn),← single_inj,single_none]
     exact ⟨fun h => by simpa using h.symm,fun h => by rw [h,zero_add]⟩
 · have hnn : OfService none := fun _ h => by cases h
   rw [← endpointsAt_ext (ofService_held _) hnn]
   refine forall₂_congr fun ns name => ?_
   rw [hr,hc,balance_iff ((hre _).trans (add_zero _).symm)
    (congrArg (· + 0) (hs ns name)),add_zero,add_zero,endpointsAt_none,
    ← single_inj,single_none]
   exact eq_comm

lemma Coherent.of_same (hr : t.resources = s.resources)
  (hc : t.endpointCache = s.endpointCache) : Coherent co t := by
 rw [coherent_iff] at hs ⊢
 rw [hr,hc]
 exact hs

lemma coherent_of_passes_iff (h : Passes s change) :
  Coherent co (s.handleResourceChange co pn change d m).1 ↔
   match change.changeType with
   | .created | .updated => UpsertCoherent co s pn change
   | .deleted => DeleteCoherent co s pn change
   | .unspecified | .unrecognized _ => True := by
 have hr := @resources_applyChange co (s.observe change.vectorClock) pn change
 have hc := @endpointCache_of_passes co s pn change d m h
 rw [← @handleResourceChange_of_passes co s pn change d m h] at hr
 unfold RemoteEndpointCache.receive at hc
 cases ht : change.changeType with
 | created | updated =>
  rw [ht] at hr hc
  exact coherent_upsert_iff hs hr hc
 | deleted =>
  rw [ht] at hr hc
  exact coherent_delete_iff hs hr hc
 | unspecified | unrecognized n =>
  rw [ht] at hr hc
  rw [ite_self] at hc
  exact iff_of_true (hs.of_same hr hc) trivial

end

lemma conflictCoherent_iff {r : TrackedResource}
  (hr : s.resources.find? change.key.string = some r) : ConflictCoherent co s change m ↔
   (r.vectorClock.concurrent change.vectorClock = true →
    ∀ v, conflictWinner co s.config r change m = some v →
     v.serviceEndpoints co = s.held co change.key.string) := by
 have hh : s.held co change.key.string = r.serviceEndpoints co := by
  rw [held,hr]
  rfl
 rw [hh]
 constructor
 · intro hk hc v hv
   exact hk r v hr hc hv
 · intro hk r' v hr' hc hv
   obtain rfl : r = r' := mem_unique hr hr'
   exact hk hc v hv

lemma coherent_of_not_passes_iff (hs : Coherent co s) (h : ¬ Passes s change) :
  Coherent co (s.handleResourceChange co pn change d m).1 ↔ ConflictCoherent co s change m := by
 have ha := @endpointCache_of_not_passes co s pn change d m h
 obtain ⟨r,hr,hn⟩ := not_passes_iff.mp h
 rw [conflictCoherent_iff hr]
 by_cases hc : r.vectorClock.concurrent change.vectorClock = true
 · have hre := @resources_handleConflict co (s.observe change.vectorClock) change d m r
   rw [← @handleResourceChange_of_concurrent co s pn change d m r hr hc] at hre
   have ho : (s.observe change.vectorClock).config = s.config := rfl
   rw [ho] at hre
   cases hw : conflictWinner co s.config r change m with
   | none =>
    rw [hw] at hre
    exact iff_of_true (hs.of_same hre ha) fun _ _ hv => by cases hv
   | some v =>
    rw [hw] at hre
    simp [coherent_of_same_cache hs hre ha,hc]
 · rw [handleResourceChange_of_older hr hc (hn.resolve_left hc)]
   exact iff_of_true (hs.of_same rfl rfl) fun hc' => absurd hc' hc

end

theorem endpoint_cache_coherent_iff (codec : Codec) (config : Config)
  (receipts : List ChangeReceipt) :
  (∀ n, Coherent codec ((receipts.take n).foldl (receiveChange codec) (newServer config))) ↔
   Along (receiveChange codec) (KeepsCoherence codec) (newServer config)
    receipts := by
 have hn : Coherent codec (newServer config) := fun _ _ => List.Perm.nil
 have ht : ∀ (s : Server) (x : ChangeReceipt), True → Coherent codec s →
   (Coherent codec (s.receiveChange codec x) ↔ KeepsCoherence codec s x) := by
  intro s x _ hs
  unfold KeepsCoherence receiveChange
  by_cases hp : Passes s x.change
  · simp only [coherent_of_passes_iff hs hp,hp,true_implies,not_true_eq_false,false_implies,
     and_true]
  · simp only [coherent_of_not_passes_iff hs hp,hp,false_implies,not_false_eq_true,
     true_implies,true_and]
 exact forall_take_iff_along (fun _ _ _ _ => trivial) ht trivial hn receipts

def eastEndpoints : Bytes := [10,3,119,101,98,18,4,115,104,111,112,26,4,101,97,115,116]

def eastEndpointsZone : Bytes := eastEndpoints ++ [42,1,122]

def eastCodec : Codec where
 unmarshalObject _ := none
 marshalObject _ := none
 unmarshalServiceEndpoints b :=
  if b = eastEndpoints then some ⟨"web","shop","east","","",[]⟩
  else if b = eastEndpointsZone then some ⟨"web","shop","east","","z",[]⟩
  else none

/-- Endpoints for another cluster than the peer's stay, and a winner of a conflict is not cached. -/
theorem cache_misses_delete_and_conflict :
  let key : ResourceKey := ⟨"ServiceEndpoints","shop","web"⟩
  let first := sampleChange "1" (set ∅ "b" 1) .created key eastEndpoints 5 "b"
  let deleted := sampleChange "2" (set ∅ "b" 2) .deleted key [] 6 "b"
  let rival := sampleChange "3" (set ∅ "c" 1) .created key eastEndpointsZone 6 "c"
  let run := fun receipts : List ChangeReceipt => receipts.foldl (receiveChange eastCodec)
   (newServer (sampleConfig "a" .lastWriterWins))
  let afterDelete := run [⟨"b",first,0,0⟩,⟨"b",deleted,0,0⟩]
  let afterConflict := run [⟨"b",first,0,0⟩,⟨"c",rival,0,0⟩]
  (afterDelete.endpointSets eastCodec "shop" "web").length = 0 ∧
   (afterDelete.endpointCache.getForService "shop" "web").length = 1 ∧
   (afterConflict.endpointSets eastCodec "shop" "web").map (·.zone) = ["z"] ∧
   (afterConflict.endpointCache.getForService "shop" "web").map (·.zone) = [""] := by
 decide

end NovaEdge.Federation
