import NovaEdge.MeshAuthorization
import NovaEdge.NameEncoding
import NovaEdge.TrackedReconcile

/-! The mesh manager's reconciliation with NovaNet: redirects of the cluster addresses of mesh
services to the transparent proxy, and socket acceleration for the pods of this node. -/
namespace NovaEdge.Mesh
open TrackedReconcile List String

structure LabelledEndpoint extends Config.Endpoint where
 labels : KeyedMap String String := ∅

structure LabelledService where
 clusterIp : String := ""
 ports : List ServicePort := []
 endpoints : List LabelledEndpoint := []
 meshEnabled : Bool := true

structure RedirectEntry where
 ip : String
 port : UInt32
 deriving DecidableEq

def redirectEntry (ip : String) (port : Int32) : RedirectEntry := ⟨ip,port.toUInt32⟩

def bracketed (host : String) : List Char :=
 if ':' ∈ host.toList then '[' :: host.toList ++ [']'] else host.toList

lemma toList_joinHostPort (ho : String) (port : ℤ) :
  (joinHostPort ho port).toList = bracketed ho ++ ':' :: (toString port).toList := by
 unfold joinHostPort bracketed
 split_ifs <;> simp

lemma bracketed_inj {ho hos' : String} (h : bracketed ho = bracketed hos') : ho = hos' := by
 unfold bracketed at h
 split_ifs at h with hc hc' hc'
 · have hh : ho.toList = hos'.toList := by simpa using h
   exact toList_inj.mp hh
 · exact absurd (h ▸ (by simp [hc])) hc'
 · exact absurd (h ▸ (by simp [hc'])) hc
 · exact toList_inj.mp h

lemma joinHostPort_inj {ho hos' : String} {port por' : ℤ}
  (h : joinHostPort ho port = joinHostPort hos' por') : ho = hos' ∧ port = por' := by
 have hc : ∀ n : ℤ, ':' ∉ (toString n).toList :=
  NameEncoding.notMem_toString_int (by decide) (by decide)
 rw [← toList_inj,toList_joinHostPort,toList_joinHostPort] at h
 obtain ⟨hh,hp⟩ := NameEncoding.append_sep_inj (hc port) (hc por') h
 exact ⟨bracketed_inj hh,NameEncoding.toString_int_injective (toList_inj.mp hp)⟩

def splitNsName (key : String) : String × String :=
 match key.toList.dropWhile (· ≠ '/') with
 | [] => (key,"")
 | _::name => (String.ofList (key.toList.takeWhile (· ≠ '/')),String.ofList name)

def podKey (pod : String × String) : String := pod.1 ++ "/" ++ pod.2

lemma toList_podKey (pod : String × String) :
  (podKey pod).toList = pod.1.toList ++ '/' :: pod.2.toList := NameEncoding.toList_join _ _

lemma splitNsName_podKey {pod : String × String} (h : '/' ∉ pod.1.toList) :
  splitNsName (podKey pod) = pod := by
 have hn : ∀ c ∈ pod.1.toList, decide (c ≠ '/') = true := fun c hc =>
  decide_eq_true fun e => h (e ▸ hc)
 unfold splitNsName
 rw [toList_podKey,dropWhile_append_of_pos hn,takeWhile_append_of_pos hn]
 simp

lemma podKey_splitNsName {key : String} (h : '/' ∈ key.toList) :
  podKey (splitNsName key) = key := by
 obtain ⟨ns,name,hk,hn⟩ := eq_append_cons_of_mem h
 have hp : key = podKey (String.ofList ns,String.ofList name) := by
  rw [← toList_inj,toList_podKey,toList_ofList,toList_ofList,hk]
 rw [hp,splitNsName_podKey (by simpa using hn)]

def redirectNaming : Naming String RedirectEntry RedirectEntry where
 target _ e := e
 entry key e := ∃ ip port, key = joinHostPort ip port.toInt ∧ e = redirectEntry ip port
 value_eq := by
  rintro _ _ _ ⟨ip,port,rfl,rfl⟩ ⟨ip',port',hkey,rfl⟩
  obtain ⟨rfl,hport⟩ := joinHostPort_inj hkey
  rw [Int32.toInt_inj.mp hport]
 key_eq := by
  rintro _ _ _ _ ⟨ip,port,rfl,rfl⟩ ⟨ip',port',rfl,rfl⟩ h
  obtain ⟨rfl,hport⟩ := RedirectEntry.mk.inj h
  have hsame : port = port' := congrArg Int32.ofUInt32 hport
  rw [hsame]

def podNaming : Naming String Unit (String × String) where
 target key _ := splitNsName key
 entry key _ := '/' ∈ key.toList
 value_eq _ _ := rfl
 key_eq := by
  intro key key' _ _ h h' htarget
  rw [← podKey_splitNsName h,htarget,podKey_splitNsName h']

/-- With what NovaNet has installed: the redirects and the accelerated pods. -/
structure NovaNetManager where
 tproxyPort : Int32
 (nodeName nodeIP : String := "")
 redirects : State String RedirectEntry RedirectEntry UInt32 := ⟨∅,∅⟩
 pods : State String Unit (String × String) Unit := ⟨∅,∅⟩

namespace NovaNetManager
variable (m : NovaNetManager)

def redirectPairs (services : List LabelledService) : List (String × RedirectEntry) :=
 (services.filter (·.meshEnabled)).flatMap fun svc => svc.ports.map fun port =>
  (joinHostPort svc.clusterIp port.port.toInt,redirectEntry svc.clusterIp port.port)

def desiredRedirects (services : List LabelledService) : KeyedMap String RedirectEntry :=
 (redirectPairs services).foldl (fun desired e => desired.set e.1 e.2) ∅

/-- The node label decides if it is there, else the address. -/
def isLocalEndpoint (ep : LabelledEndpoint) : Bool :=
 let labelNode := (ep.labels.find? "topology.kubernetes.io/node").getD ""
 if labelNode ≠ "" then m.nodeName ≠ "" && labelNode = m.nodeName
 else if m.nodeIP ≠ "" ∧ ep.address ≠ "" then ep.address = m.nodeIP
 else false

def localPod (ep : LabelledEndpoint) : Option (String × String) :=
 let ns := (ep.labels.find? "kubernetes.io/namespace").getD ""
 let name := (ep.labels.find? "kubernetes.io/name").getD ""
 if !ep.ready || !m.isLocalEndpoint ep then none
 else if ns = "" ∨ name = "" then none
 else some (ns,name)

def localPods (services : List LabelledService) : List (String × String) :=
 (services.filter (·.meshEnabled)).flatMap fun svc => svc.endpoints.filterMap m.localPod

def desiredPods (services : List LabelledService) : KeyedMap String Unit :=
 (m.localPods services).foldl (fun desired pod => desired.set (podKey pod) ()) ∅

structure MapOrders (services : List LabelledService) where
 redirectAdds : List (String × RedirectEntry)
 redirectAdds_perm : redirectAdds.Perm (desiredRedirects services).pairs
 redirectRemoves : List (String × RedirectEntry)
 redirectRemoves_perm : redirectRemoves.Perm m.redirects.tracked.pairs
 podAdds : List (String × Unit)
 podAdds_perm : podAdds.Perm (m.desiredPods services).pairs
 podRemoves : List (String × Unit)
 podRemoves_perm : podRemoves.Perm m.pods.tracked.pairs

/-- A reconciliation: the services of a snapshot and which of its calls succeed. No call is made
twice in it. -/
structure ReconcileCall where
 services : List LabelledService
 redirects : Outcomes RedirectEntry
 pods : Outcomes (String × String)

def ReconcileCall.NoFailure (call : ReconcileCall) : Prop :=
 call.redirects.AllSucceed ∧ call.pods.AllSucceed

variable {m} in
def reconcileNovaNetMeshRedirects (call : ReconcileCall) (orders : m.MapOrders call.services) :
  State String RedirectEntry RedirectEntry UInt32 :=
 m.redirects.reconcile redirectNaming.target m.tproxyPort.toUInt32 call.redirects
  (desiredRedirects call.services) orders.redirectAdds orders.redirectRemoves

variable {m} in
def reconcileNovaNetSockMap (call : ReconcileCall) (orders : m.MapOrders call.services) :
  State String Unit (String × String) Unit :=
 m.pods.reconcile podNaming.target () call.pods (m.desiredPods call.services) orders.podAdds
  orders.podRemoves

def reconcileNovaNet (call : ReconcileCall) (orders : m.MapOrders call.services) : NovaNetManager :=
 { m with
   redirects := reconcileNovaNetMeshRedirects call orders
   pods := reconcileNovaNetSockMap call orders }

end NovaNetManager

def novaNetSystem : TransitionSystem NovaNetManager NovaNetManager.ReconcileCall where
 init m := m.redirects = ⟨∅,∅⟩ ∧ m.pods = ⟨∅,∅⟩
 step m call m' := ∃ orders, m' = m.reconcileNovaNet call orders

namespace NovaNetManager

variable {services : List LabelledService} {key : String} {e : RedirectEntry}

lemma entry_of_mem_redirectPairs (h : (key,e) ∈ redirectPairs services) :
  redirectNaming.entry key e := by
 simp only [redirectPairs,mem_flatMap,mem_map,Prod.mk.injEq] at h
 obtain ⟨svc,-,port,-,hk,he⟩ := h
 exact ⟨svc.clusterIp,port.port,hk.symm,he.symm⟩

lemma find?_desiredRedirects :
  (desiredRedirects services).find? key = some e ↔ (key,e) ∈ redirectPairs services :=
 KeyedMap.find?_foldl_set_iff fun _ _ _ h h' =>
  redirectNaming.value_eq (entry_of_mem_redirectPairs h) (entry_of_mem_redirectPairs h')

lemma names_desiredRedirects (ser : List LabelledService) :
  redirectNaming.Names (desiredRedirects ser) := fun _ _ h =>
 entry_of_mem_redirectPairs (find?_desiredRedirects.mp h)

variable {m : NovaNetManager}

lemma find?_desiredPods : (m.desiredPods services).find? key = some () ↔
      ∃ pod ∈ m.localPods services, podKey pod = key := by
 have hf : m.desiredPods services = ((m.localPods services).map fun pod => (podKey pod,())).foldl
       (fun des e => des.set e.1 e.2) ∅ := by
  rw [foldl_map]
  rfl
 rw [hf,KeyedMap.find?_foldl_set_iff fun _ _ _ _ _ => rfl]
 simp

lemma names_desiredPods (m : NovaNetManager) (ser : List LabelledService) :
  podNaming.Names (m.desiredPods ser) := by
 intro key _ h
 obtain ⟨pod,-,rfl⟩ := find?_desiredPods.mp h
 change '/' ∈ (podKey pod).toList
 simp [toList_podKey]

structure InStep (m : NovaNetManager) : Prop where
 redirects : ∀ e port, m.redirects.installed.find? e = some port ↔
  port = m.tproxyPort.toUInt32 ∧ ∃ key, m.redirects.tracked.find? key = some e
 pods : ∀ pod, (m.pods.installed.find? pod).isSome ↔
  ∃ key, (m.pods.tracked.find? key).isSome ∧ splitNsName key = pod

/-- Pods are told apart by their keys if no namespace has a slash in it. -/
structure Reflects (m : NovaNetManager) (services : List LabelledService) : Prop where
 trackedRedirects : ∀ key,
  m.redirects.tracked.find? key = (desiredRedirects services).find? key
 trackedPods : ∀ key, m.pods.tracked.find? key = (m.desiredPods services).find? key
 installedRedirects : ∀ e, (m.redirects.installed.find? e).isSome ↔
  ∃ svc ∈ services, svc.meshEnabled ∧
   ∃ port ∈ svc.ports, e = redirectEntry svc.clusterIp port.port
 installedPods : (∀ pod ∈ m.localPods services, '/' ∉ pod.1.toList) →
  ∀ pod, (m.pods.installed.find? pod).isSome ↔ pod ∈ m.localPods services

structure BothSynced (m : NovaNetManager) : Prop where
 redirects : Synced redirectNaming m.tproxyPort.toUInt32 m.redirects
 pods : Synced podNaming () m.pods

lemma BothSynced.reconcileNovaNet (h : m.BothSynced) (call : ReconcileCall)
  (ords : m.MapOrders call.services) : (m.reconcileNovaNet call ords).BothSynced where
 redirects := synced_reconcile h.redirects (names_desiredRedirects _) ords.redirectAdds_perm
  ords.redirectRemoves_perm
 pods := synced_reconcile h.pods (names_desiredPods _ _) ords.podAdds_perm ords.podRemoves_perm

lemma bothSynced_of_reachable (h : novaNetSystem.Reachable m) : m.BothSynced := by
 refine h.invariant ?_ ?_
 · rintro m ⟨hr,hp⟩
   constructor
   · rw [hr]
     exact synced_empty _ _
   · rw [hp]
     exact synced_empty _ _
 · rintro m call m' hm ⟨ords,rfl⟩
   exact hm.reconcileNovaNet call ords

lemma BothSynced.inStep (h : m.BothSynced) : m.InStep where
 redirects e port := by
  rw [h.redirects.installed_iff]
  simp only [redirectNaming,exists_eq_right]
 pods pod := by
  rw [h.pods.isSome_installed_iff]
  simp [podNaming,isSome_iff_exists]

lemma mem_redirectPairs_iff : (∃ key, (key,e) ∈ redirectPairs services) ↔
      ∃ svc ∈ services, svc.meshEnabled ∧
       ∃ port ∈ svc.ports, e = redirectEntry svc.clusterIp port.port := by
 simp only [redirectPairs,mem_flatMap,mem_filter,mem_map,Prod.mk.injEq]
 constructor
 · rintro ⟨-,svc,⟨hv,hm⟩,port,hp,-,rfl⟩
   exact ⟨svc,hv,hm,port,hp,rfl⟩
 · rintro ⟨svc,hv,hm,port,hp,rfl⟩
   exact ⟨_,svc,⟨hv,hm⟩,port,hp,rfl,rfl⟩

lemma BothSynced.reflects (h : m.BothSynced) {call : ReconcileCall}
  (ords : m.MapOrders call.services) (hc : call.NoFailure) :
  (m.reconcileNovaNet call ords).Reflects call.services := by
 have hy := h.reconcileNovaNet call ords
 have hr : ∀ key, (m.reconcileNovaNet call ords).redirects.tracked.find? key =
   (desiredRedirects call.services).find? key :=
  tracked_reconcile_of_allSucceed ords.redirectAdds_perm ords.redirectRemoves_perm hc.1
 have hpd : ∀ key, (m.reconcileNovaNet call ords).pods.tracked.find? key =
   (m.desiredPods call.services).find? key :=
  tracked_reconcile_of_allSucceed ords.podAdds_perm ords.podRemoves_perm hc.2
 refine ⟨hr,hpd,fun e => ?_,fun hl pod => ?_⟩
 · rw [hy.redirects.isSome_installed_iff,← mem_redirectPairs_iff]
   simp only [hr,find?_desiredRedirects,redirectNaming,exists_eq_right]
 · rw [hy.pods.isSome_installed_iff]
   simp only [hpd,podNaming]
   constructor
   · rintro ⟨key,⟨⟩,hk,rfl⟩
     obtain ⟨pod,hp,rfl⟩ := find?_desiredPods.mp hk
     rw [splitNsName_podKey (hl pod hp)]
     exact hp
   · intro hp
     exact ⟨podKey pod,(),find?_desiredPods.mpr ⟨pod,hp,rfl⟩,splitNsName_podKey (hl pod hp)⟩

end NovaNetManager

open NovaNetManager in
theorem novanet_reconciliation_exact {m : NovaNetManager} (h : novaNetSystem.Reachable m) :
  m.InStep ∧ ∀ (call : ReconcileCall) (m' : NovaNetManager), novaNetSystem.step m call m' →
   call.NoFailure → m'.InStep ∧ m'.Reflects call.services := by
 have hy := bothSynced_of_reachable h
 refine ⟨hy.inStep,?_⟩
 rintro call m' ⟨ords,rfl⟩ hc
 exact ⟨(hy.reconcileNovaNet call ords).inStep,hy.reflects ords hc⟩

def NovaNetManager.storedOrders (m : NovaNetManager) (services : List LabelledService) :
  m.MapOrders services :=
 ⟨_,.refl _,_,.refl _,_,.refl _,_,.refl _⟩

def redirectCall (succeeds : Bool) : NovaNetManager.ReconcileCall where
 services := [{ clusterIp := "10.0.0.1", ports := [{ port := 80 }] }]
 redirects := ⟨fun _ => succeeds,fun _ => true⟩
 pods := ⟨fun _ => true,fun _ => true⟩

def afterFailedCall : NovaNetManager :=
 let m : NovaNetManager := { tproxyPort := 15001 }
 m.reconcileNovaNet (redirectCall false) (m.storedOrders _)

theorem novanet_redirect_retried :
  afterFailedCall.redirects.installed.find? ⟨"10.0.0.1",80⟩ = none ∧ afterFailedCall.InStep ∧
   (afterFailedCall.reconcileNovaNet (redirectCall true)
    (afterFailedCall.storedOrders _)).Reflects (redirectCall true).services := by
 have hr : novaNetSystem.Reachable afterFailedCall :=
  .next (.start ⟨rfl,rfl⟩) ⟨NovaNetManager.storedOrders _ _,rfl⟩
 obtain ⟨hn,hne⟩ := novanet_reconciliation_exact hr
 have hc : (redirectCall true).NoFailure := ⟨fun _ => ⟨rfl,rfl⟩,fun _ => ⟨rfl,rfl⟩⟩
 exact ⟨by decide +kernel,hn,(hne _ _ ⟨afterFailedCall.storedOrders _,rfl⟩ hc).2⟩

end NovaEdge.Mesh
