import Mathlib.Data.String.Basic
import NovaEdge.MeshServiceTable
import NovaEdge.SortOrder

/-! The controller's mesh services, from the Services and EndpointSlices of the cluster, and the
ports of the endpoints that the agent's table then returns for them. -/
namespace NovaEdge.Mesh
open List

inductive IntOrString
 | int (value : Int32)
 | str (text : String)

structure K8sServicePort where
 name : String := ""
 port : Int32
 targetPort : IntOrString
 protocol : String := "TCP"

structure K8sService where
 (name ns : String)
 annotations : KeyedMap String String := ∅
 clusterIP : String
 ports : List K8sServicePort

structure EndpointPort where
 name : Option String := none
 port : Option Int32 := none

/-- An endpoint of a slice. From `zone` on, only labels are made of the fields. -/
structure SliceEndpoint where
 addresses : List String
 ready : Option Bool := none
 zone : Option String := none
 hintZones : List String := []
 (nodeName targetName : Option String := none)

structure EndpointSlice where
 (ns serviceName : String)
 ports : List EndpointPort := []
 endpoints : List SliceEndpoint := []

/-- The objects of a cluster, in the order in which they are listed. A service has its name alone
in its namespace. -/
structure MeshObjects where
 services : List K8sService
 endpointSlices : List EndpointSlice
 services_nodup : (services.map fun s => (s.ns,s.name)).Nodup

def MeshObjects.getEndpointSlices (objs : MeshObjects) (ns name : String) : List EndpointSlice :=
 objs.endpointSlices.filter fun es =>
  es.serviceName ≠ "" && es.ns ++ "/" ++ es.serviceName == ns ++ "/" ++ name

def K8sService.inMesh (svc : K8sService) : Bool :=
 svc.annotations.find? "novaedge.io/mesh" = some "enabled" &&
  svc.clusterIP ≠ "" && svc.clusterIP ≠ "None"

def SliceEndpoint.isReady (ep : SliceEndpoint) : Bool := ep.ready.getD true

def resolveInternalServiceEndpoints (objs : MeshObjects) (svc : K8sService) :
  List Config.Endpoint :=
 (objs.getEndpointSlices svc.ns svc.name).flatMap fun es => es.endpoints.flatMap fun ep =>
   (es.ports.filterMap EndpointPort.port).flatMap fun port =>
    ep.addresses.map fun addr => { address := addr, port := port, ready := ep.isReady }

section
variable (atoi : String → Option Int32)

/-- A text that is not a number counts as 0. -/
def IntOrString.intValue : IntOrString → Int32
 | .int value => value
 | .str text => (atoi text).getD 0

def internalService (objs : MeshObjects) (svc : K8sService) : InternalService where
 name := svc.name
 ns := svc.ns
 clusterIp := svc.clusterIP
 ports := svc.ports.map fun sp => ⟨sp.name,sp.port,sp.targetPort.intValue atoi,sp.protocol⟩
 endpoints := resolveInternalServiceEndpoints objs svc
 mtlsMode := (svc.annotations.find? "novaedge.io/mesh-mtls").getD "permissive"

def ServiceLE (a b : InternalService) : Prop := a.ns < b.ns ∨ a.ns = b.ns ∧ a.name ≤ b.name

instance : DecidableRel ServiceLE := fun _ _ => inferInstanceAs (Decidable (_ ∨ _))

def buildInternalServices (objs : MeshObjects) : List InternalService :=
 ((objs.services.filter K8sService.inMesh).map (internalService atoi objs)).insertionSort ServiceLE

def meshTable (objs : MeshObjects) : ServiceTable :=
 ServiceTable.update (buildInternalServices atoi objs)

def Corresponds (objs : MeshObjects) (svc : K8sService) (p : K8sServicePort) (addr : String)
  (port : Int32) : Prop :=
 ∃ es ∈ objs.getEndpointSlices svc.ns svc.name, (∃ ep ∈ es.endpoints, addr ∈ ep.addresses) ∧
  ∃ q ∈ es.ports, q.port = some port ∧
   (q.name.getD "" = p.name ∨ p.targetPort.intValue atoi = port)

def RespectsPorts (objs : MeshObjects) : Prop :=
 ∀ svc ∈ objs.services, svc.inMesh = true → ∀ p ∈ svc.ports, ∀ lookups ep,
  (((meshTable atoi objs).afterLookups lookups).lookup svc.clusterIP p.port.toInt).1 = some ep →
  Corresponds atoi objs svc p ep.address ep.port

end

def K8sService.HasKey (svc : K8sService) (key : String) : Prop :=
 ∃ p ∈ svc.ports, tableKey svc.clusterIP p.port.toInt = key

def OwnsKey (objs : MeshObjects) (svc : K8sService) (key : String) : Prop :=
 svc ∈ objs.services ∧ svc.inMesh = true ∧ svc.HasKey key ∧
  ∀ other ∈ objs.services, other.inMesh = true → other.HasKey key →
   other.ns < svc.ns ∨ other.ns = svc.ns ∧ other.name ≤ svc.name

def PortsInterchangeable (atoi : String → Option Int32) (objs : MeshObjects) : Prop :=
 ∀ svc ∈ objs.services, svc.inMesh = true → ∀ p ∈ svc.ports,
  ∀ owner, OwnsKey objs owner (tableKey svc.clusterIP p.port.toInt) →
  ∀ es ∈ objs.getEndpointSlices owner.ns owner.name, ∀ ep ∈ es.endpoints, ep.isReady = true →
  ∀ addr ∈ ep.addresses, ∀ q ∈ es.ports, ∀ port, q.port = some port →
   Corresponds atoi objs svc p addr port

instance : Std.Total ServiceLE where
 total a b := by
  rcases lt_trichotomy a.ns b.ns with h | h | h
  · exact .inl (.inl h)
  · rcases le_total a.name b.name with hn | hn
    · exact .inl (.inr ⟨h,hn⟩)
    · exact .inr (.inr ⟨h.symm,hn⟩)
  · exact .inr (.inl h)

instance : IsTrans InternalService ServiceLE where
 trans a b c := by
  rintro (hab | ⟨hab,hnab⟩) (hbc | ⟨hbc,hnbc⟩)
  · exact .inl (hab.trans hbc)
  · exact .inl (hbc ▸ hab)
  · exact .inl (hab ▸ hbc)
  · exact .inr ⟨hab.trans hbc,hnab.trans hnbc⟩

lemma ServiceLE.antisymm {a b : InternalService} (ha : ServiceLE a b) (hb : ServiceLE b a) :
  a.ns = b.ns ∧ a.name = b.name := by
 rcases ha with ha | ⟨hn,hna⟩
 · rcases hb with hb | ⟨hn,-⟩
   · exact absurd (ha.trans hb) (lt_irrefl _)
   · exact absurd hn ha.ne'
 · rcases hb with hb | ⟨-,hn'⟩
   · exact absurd hn hb.ne'
   · exact ⟨hn,le_antisymm hna hn'⟩

section
variable {atoi : String → Option Int32} {objs : MeshObjects}

lemma mem_buildInternalServices {i : InternalService} : i ∈ buildInternalServices atoi objs ↔
      ∃ svc ∈ objs.services, svc.inMesh = true ∧ internalService atoi objs svc = i := by
 simp [buildInternalServices,and_assoc]

lemma mem_keys_internalService {svc : K8sService} {key : String} :
  key ∈ (internalService atoi objs svc).keys ↔ svc.HasKey key := by
 simp [InternalService.keys,InternalService.portKey,internalService,K8sService.HasKey]

lemma mem_resolveInternalServiceEndpoints {svc : K8sService} {ep : Config.Endpoint} :
  ep ∈ resolveInternalServiceEndpoints objs svc ↔
   ∃ es ∈ objs.getEndpointSlices svc.ns svc.name, ∃ e ∈ es.endpoints, ∃ q ∈ es.ports,
    ∃ port, q.port = some port ∧ ∃ addr ∈ e.addresses,
     ({ address := addr, port := port, ready := e.isReady } : Config.Endpoint) = ep := by
 simp only [resolveInternalServiceEndpoints,mem_flatMap,mem_filterMap,mem_map]
 constructor
 · rintro ⟨es,hes,e,he,port,⟨q,hq,hp⟩,addr,ha,heq⟩
   exact ⟨es,hes,e,he,q,hq,port,hp,addr,ha,heq⟩
 · rintro ⟨es,hes,e,he,q,hq,port,hp,addr,ha,heq⟩
   exact ⟨es,hes,e,he,port,⟨q,hq,hp⟩,addr,ha,heq⟩

lemma MeshObjects.service_ext {a b : K8sService} (ha : a ∈ objs.services) (hb : b ∈ objs.services)
  (hn : a.ns = b.ns) (hna : a.name = b.name) : a = b :=
 inj_on_of_nodup_map objs.services_nodup ha hb (by rw [hn,hna])

lemma OwnsKey.unique {a b : K8sService} {key : String} (ha : OwnsKey objs a key)
  (hb : OwnsKey objs b key) : a = b := by
 obtain ⟨hma,hn,hk,hx⟩ := ha
 obtain ⟨hmb,hib,hkb,hm⟩ := hb
 have hab : ServiceLE { ns := a.ns, name := a.name } { ns := b.ns, name := b.name } :=
  hm a hma hn hk
 have hba : ServiceLE { ns := b.ns, name := b.name } { ns := a.ns, name := a.name } :=
  hx b hmb hib hkb
 obtain ⟨hns,hna⟩ := hab.antisymm hba
 exact objs.service_ext hma hmb hns hna

lemma keyOwner_buildInternalServices_iff {i : InternalService} {key : String} :
  keyOwner (buildInternalServices atoi objs) key = some i ↔
   ∃ svc, OwnsKey objs svc key ∧ internalService atoi objs svc = i := by
 have hn : ∀ {j}, keyOwner (buildInternalServices atoi objs) key = some j →
   ∃ svc, OwnsKey objs svc key ∧ internalService atoi objs svc = j := by
  intro j hj
  obtain ⟨hm,hk⟩ := mem_filter.mp (mem_of_getLast? hj)
  obtain ⟨svc,hv,hin,rfl⟩ := mem_buildInternalServices.mp hm
  have hso : (buildInternalServices atoi objs).Pairwise ServiceLE := pairwise_insertionSort _ _
  refine ⟨svc,⟨hv,hin,mem_keys_internalService.mp (of_decide_eq_true hk),?_⟩,rfl⟩
  intro oth ht hn' hk'
  have hb : internalService atoi objs oth ∈ buildInternalServices atoi objs :=
   mem_buildInternalServices.mpr ⟨oth,ht,hn',rfl⟩
  rcases SortOrder.rel_of_getLast?_filter hso hj hb
    (decide_eq_true (mem_keys_internalService.mpr hk')) with hq | hl
  · have hns : oth.ns = svc.ns := congrArg InternalService.ns hq
    have ha : oth.name = svc.name := congrArg InternalService.name hq
    exact .inr ⟨hns,ha.le⟩
  · exact hl
 constructor
 · exact hn
 · rintro ⟨svc,ho,rfl⟩
   have hm : internalService atoi objs svc ∈ (buildInternalServices atoi objs).filter
     fun svc => key ∈ svc.keys :=
    mem_filter.mpr ⟨mem_buildInternalServices.mpr ⟨svc,ho.1,ho.2.1,rfl⟩,
     decide_eq_true (mem_keys_internalService.mpr ho.2.2.1)⟩
   obtain ⟨j,hj⟩ : ∃ j, keyOwner (buildInternalServices atoi objs) key = some j :=
    ⟨_,getLast?_eq_some_getLast (ne_nil_of_mem hm)⟩
   obtain ⟨svc',ho',rfl⟩ := hn hj
   rw [hj,ho.unique ho']

end

theorem mesh_ports_respected_iff (atoi : String → Option Int32) (objs : MeshObjects) :
  RespectsPorts atoi objs ↔ PortsInterchangeable atoi objs := by
 constructor
 · intro h svc hv hn p hp own hw es hes e he hr addr ha q hq port hpo
   have hep : ({ address := addr, port := port, ready := e.isReady } : Config.Endpoint) ∈
     (internalService atoi objs own).endpoints :=
    mem_resolveInternalServiceEndpoints.mpr ⟨es,hes,e,he,q,hq,port,hpo,addr,ha,rfl⟩
   obtain ⟨lks,hl⟩ := (lookup_update_iff _ svc.clusterIP p.port.toInt _).mpr
    ⟨_,keyOwner_buildInternalServices_iff.mpr ⟨own,hw,rfl⟩,hep,hr⟩
   exact h svc hv hn p hp lks _ hl
 · intro h svc hv hn p hp lks ep hl
   obtain ⟨i,ho,hep,hr⟩ := (lookup_update_iff _ svc.clusterIP p.port.toInt ep).mp ⟨lks,hl⟩
   obtain ⟨own,hw,rfl⟩ := keyOwner_buildInternalServices_iff.mp ho
   obtain ⟨es,hes,e,he,q,hq,port,hpo,addr,ha,rfl⟩ := mem_resolveInternalServiceEndpoints.mp hep
   exact h svc hv hn p hp own hw es hes e he hr addr ha q hq port hpo

def twoPortService : MeshObjects where
 services := [{ name := "web", ns := "shop", clusterIP := "10.96.0.10"
                annotations := (∅ : KeyedMap String String).set "novaedge.io/mesh" "enabled"
                ports := [{ name := "http", port := 80, targetPort := .int 8080 },
                 { name := "admin", port := 9000, targetPort := .int 9001 }] }]
 endpointSlices := [{ ns := "shop", serviceName := "web"
                      ports := [⟨some "http",some 8080⟩,⟨some "admin",some 9001⟩]
                      endpoints := [{ addresses := ["10.0.0.5"] }] }]
 services_nodup := by decide

/-- The second lookup of the web port returns the pod's admin port. -/
theorem web_port_leads_to_admin_port :
  let table := (meshTable (fun _ => none) twoPortService).afterLookups [("10.96.0.10",80)]
  (table.lookup "10.96.0.10" 80).1 = some { address := "10.0.0.5", port := 9001, ready := true } ∧
   ∀ svc ∈ twoPortService.services, ∀ p ∈ svc.ports, p.port = 80 →
    ¬ Corresponds (fun _ => none) twoPortService svc p "10.0.0.5" 9001 := by
 refine ⟨rfl,?_⟩
 simp [twoPortService,Corresponds,MeshObjects.getEndpointSlices,IntOrString.intValue]

end NovaEdge.Mesh
