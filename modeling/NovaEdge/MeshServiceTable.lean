import NovaEdge.ConfigTypes

/-! The routing table of the mesh agent: cluster addresses and ports of services, each with the
ready endpoints of its service, taken in turn by the lookups. -/
namespace NovaEdge.Mesh
open List

structure ServicePort where
 name : String := ""
 (port targetPort : Int32 := 0)
 protocol : String := ""

structure InternalService where
 (name ns clusterIp : String := "")
 ports : List ServicePort := []
 endpoints : List Config.Endpoint := []
 lbPolicy : Config.LoadBalancingPolicy := .roundRobin
 meshEnabled : Bool := true
 mtlsMode : String := "permissive"

/-- The round-robin counter is unbounded here, as no list of endpoints is as long as its range. -/
structure ServiceEntry where
 ready : List Config.Endpoint
 lbPolicy : Config.LoadBalancingPolicy
 idx : ℕ := 0

abbrev ServiceTable := KeyedMap String ServiceEntry

def tableKey (ip : String) (port : ℤ) : String := ip ++ ":" ++ toString port

def InternalService.portKey (svc : InternalService) (p : ServicePort) : String :=
 tableKey svc.clusterIp p.port.toInt

def InternalService.keys (svc : InternalService) : List String := svc.ports.map svc.portKey

def InternalService.entry (svc : InternalService) : ServiceEntry where
 ready := svc.endpoints.filter (·.ready)
 lbPolicy := svc.lbPolicy

def ServiceTable.addService (t : ServiceTable) (svc : InternalService) : ServiceTable :=
 svc.keys.foldl (fun t key => t.set key svc.entry) t

/-- A new table; of services with a key in common the last one has it. -/
def ServiceTable.update (services : List InternalService) : ServiceTable :=
 services.foldl ServiceTable.addService ∅

def ServiceTable.lookup (t : ServiceTable) (ip : String) (port : ℤ) :
  Option Config.Endpoint × ServiceTable :=
 match t.find? (tableKey ip port) with
 | none => (none,t)
 | some entry =>
  if entry.ready = [] then (none,t)
  else (entry.ready[entry.idx % entry.ready.length]?,
   t.set (tableKey ip port) { entry with idx := entry.idx+1 })

def ServiceTable.afterLookups (t : ServiceTable) (lookups : List (String × ℤ)) : ServiceTable :=
 lookups.foldl (fun t q => (t.lookup q.1 q.2).2) t

def keyOwner (services : List InternalService) (key : String) : Option InternalService :=
 (services.filter fun svc => key ∈ svc.keys).getLast?

lemma find?_addService (t : ServiceTable) (svc : InternalService) (key : String) :
  (t.addService svc).find? key = if key ∈ svc.keys then some svc.entry else t.find? key := by
 unfold ServiceTable.addService
 induction svc.keys using List.reverseRecOn with
 | nil => simp
 | append_singleton keys k ih =>
  rw [foldl_append,foldl_cons,foldl_nil,KeyedMap.find?_set,ih]
  by_cases hk : key = k <;> simp [hk]

lemma find?_update (svcs : List InternalService) (key : String) :
  (ServiceTable.update svcs).find? key = (keyOwner svcs key).map InternalService.entry := by
 induction svcs using List.reverseRecOn with
 | nil => rfl
 | append_singleton svcs svc ih =>
  unfold ServiceTable.update at ih ⊢
  rw [foldl_append,foldl_cons,foldl_nil,find?_addService,ih]
  by_cases hk : key ∈ svc.keys <;> simp [keyOwner,filter_append,hk]

lemma find?_lookup (t : ServiceTable) (ip : String) (port : ℤ) (key : String) :
  ((t.lookup ip port).2.find? key).map ServiceEntry.ready =
   (t.find? key).map ServiceEntry.ready := by
 unfold ServiceTable.lookup
 split
 · rfl
 · rename_i ent hn
   split_ifs
   · rfl
   · rw [KeyedMap.find?_set]
     split_ifs with hk
     · rw [hk,hn]
       rfl
     · rfl

lemma find?_afterLookups (t : ServiceTable) (lks : List (String × ℤ)) (key : String) :
  ((t.afterLookups lks).find? key).map ServiceEntry.ready =
   (t.find? key).map ServiceEntry.ready := by
 induction lks generalizing t with
 | nil => rfl
 | cons q lks ih =>
  change ((ServiceTable.afterLookups _ lks).find? key).map _ = _
  rw [ih,find?_lookup]

lemma lookup_fst_eq_some {t : ServiceTable} {ip : String} {port : ℤ} {ep : Config.Endpoint}
  (h : (t.lookup ip port).1 = some ep) :
  ∃ ent, t.find? (tableKey ip port) = some ent ∧ ep ∈ ent.ready := by
 unfold ServiceTable.lookup at h
 split at h
 · simp at h
 · rename_i ent hn
   split_ifs at h
   · exact ⟨ent,hn,mem_of_getElem? h⟩

lemma exists_lookup_eq {t : ServiceTable} {ip : String} {port : ℤ} {ent : ServiceEntry}
  (hen : t.find? (tableKey ip port) = some ent) (hid : ent.idx = 0)
  {ep : Config.Endpoint} (hp : ep ∈ ent.ready) :
  ∃ n, (((t.afterLookups (List.replicate n (ip,port))).lookup ip port)).1 = some ep := by
 obtain ⟨i,hi,hg⟩ := mem_iff_getElem.mp hp
 have hn : ent.ready ≠ [] := ne_nil_of_mem hp
 have hc : ∀ n, (t.afterLookups (List.replicate n (ip,port))).find? (tableKey ip port) =
   some { ent with idx := n } := by
  intro n
  induction n with
  | zero =>
   have hz : ent = { ent with idx := 0 } := by rw [← hid]
   rw [← hz]
   exact hen
  | succ n ih =>
   rw [replicate_succ',ServiceTable.afterLookups,foldl_append]
   change ((ServiceTable.afterLookups t (List.replicate n (ip,port))).lookup ip port).2.find? _ = _
   simp [ServiceTable.lookup,ih,hn]
 refine ⟨i,?_⟩
 simp [ServiceTable.lookup,hc,hn,Nat.mod_eq_of_lt hi,hi,hg]

theorem lookup_update_iff (svcs : List InternalService) (ip : String) (port : ℤ)
  (ep : Config.Endpoint) :
  (∃ lks, (((ServiceTable.update svcs).afterLookups lks).lookup ip port).1 = some ep) ↔
   ∃ svc, keyOwner svcs (tableKey ip port) = some svc ∧ ep ∈ svc.endpoints ∧ ep.ready = true := by
 have hr : ∀ svc : InternalService, ep ∈ svc.entry.ready ↔ ep ∈ svc.endpoints ∧ ep.ready = true :=
  fun svc => mem_filter
 constructor
 · rintro ⟨lks,h⟩
   obtain ⟨ent,hen,hme⟩ := lookup_fst_eq_some h
   have hm := find?_afterLookups (ServiceTable.update svcs) lks (tableKey ip port)
   rw [hen,find?_update] at hm
   cases ho : keyOwner svcs (tableKey ip port) with
   | none => simp [ho] at hm
   | some svc =>
    rw [ho] at hm
    have hq : ent.ready = svc.entry.ready := Option.some.inj hm
    exact ⟨svc,rfl,(hr svc).mp (hq ▸ hme)⟩
 · rintro ⟨svc,ho,hme⟩
   have hen : (ServiceTable.update svcs).find? (tableKey ip port) = some svc.entry := by
    rw [find?_update,ho]
    rfl
   obtain ⟨n,hn⟩ := exists_lookup_eq hen rfl ((hr svc).mpr hme)
   exact ⟨_,hn⟩

end NovaEdge.Mesh
