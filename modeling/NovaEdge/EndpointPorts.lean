import NovaEdge.SnapshotOrder

/-! The port of an endpoint slice that a service reference stands for: the documented priority, and
what the builder's single pass over the ports makes of it. -/
namespace NovaEdge.Snapshot
open V1alpha1 Mesh List

section
variable (name : String) (number servicePort : Int32)

def singlePort : List EndpointPort → Int32
 | [p] => p.port.getD 0
 | _ => 0

def named (p : EndpointPort) : Bool := name ≠ "" ∧ p.name = some name ∧ p.port.isSome

/-- By the name, else the numeric target port, else the service port or the single port. -/
def documentedPort (ports : List EndpointPort) : Int32 :=
 match ports.find? (named name) with
 | some p => p.port.getD 0
 | none =>
  if 0 < number ∧ some number ∈ ports.map (·.port) then number
  else if some servicePort ∈ ports.map (·.port) then servicePort
  else singlePort ports

/-- No other port with the target port's number stands before the named one; and if neither the
name nor the number is there, the service port is only there as the single port. -/
def PriorityKept (ports : List EndpointPort) : Prop :=
 match ports.find? (named name) with
 | some p => 0 < number →
   some number ∈ (ports.takeWhile (!named name ·)).map (·.port) → p.port = some number
 | none => (0 < number → some number ∉ ports.map (·.port)) → (name = "" → number ≠ 0) →
   some servicePort ∈ ports.map (·.port) → servicePort = 0 ∨ ports.length = 1

/-- What one port contributes to the pass of `matchEndpointSlicePort`. -/
def matchedPort (p : EndpointPort) : Option Int32 :=
 p.port.bind fun port =>
  if name ≠ "" ∧ p.name = some name ∨ 0 < number ∧ port = number ∨
   name = "" ∧ number = 0 ∧ port = servicePort then some port
  else none

variable {name number servicePort} {por : List EndpointPort}

lemma matchedPort_eq_none {q : EndpointPort} (hq : named name q = false)
  (hm : ¬ (0 < number ∧ q.port = some number))
  (hs : ¬ (name = "" ∧ number = 0 ∧ q.port = some servicePort)) :
  matchedPort name number servicePort q = none := by
 rw [named,decide_eq_false_iff_not] at hq
 cases hv : q.port with
 | none => rw [matchedPort,hv,Option.bind_none]
 | some v =>
  simp only [hv,Option.some.injEq,Option.isSome_some,and_true] at hq hm hs
  rw [matchedPort,hv,Option.bind_some,if_neg (by tauto)]

lemma findSome?_of_named {p : EndpointPort} (h : por.find? (named name) = some p) :
  por.findSome? (matchedPort name number servicePort) =
   if 0 < number ∧ some number ∈ (por.takeWhile (!named name ·)).map (·.port) then some number
   else p.port := by
 have hp := find?_some h
 rw [named,decide_eq_true_eq] at hp
 induction por with
 | nil => cases h
 | cons q por ih =>
  rw [find?_cons] at h
  cases hq : named name q with
  | true =>
   rw [hq] at h
   cases h
   obtain ⟨v,hv⟩ := isSome_iff_exists.mp hp.2.2
   simp [matchedPort,hq,hv,hp.1,hp.2.1]
  | false =>
   rw [hq] at h
   by_cases hm : 0 < number ∧ q.port = some number
   · simp [matchedPort,hq,hm]
   · rw [findSome?_cons,matchedPort_eq_none hq hm fun hs => hp.1 hs.1,ih h]
     refine if_congr (and_congr_right fun hn => ?_) rfl rfl
     have hne : some number ≠ q.port := fun he => hm ⟨hn,he.symm⟩
     simp [hq,hne]

lemma findSome?_of_unnamed (h : por.find? (named name) = none) :
  por.findSome? (matchedPort name number servicePort) =
   if 0 < number ∧ some number ∈ por.map (·.port) then some number
   else if name = "" ∧ number = 0 ∧ some servicePort ∈ por.map (·.port) then some servicePort
   else none := by
 induction por with
 | nil => simp
 | cons q por ih =>
  rw [find?_eq_none,forall_mem_cons,← find?_eq_none] at h
  by_cases hm : 0 < number ∧ q.port = some number
  · simp [matchedPort,hm]
  · by_cases hs : name = "" ∧ number = 0 ∧ q.port = some servicePort
    · simp [matchedPort,hs]
    · rw [findSome?_cons,matchedPort_eq_none (Bool.not_eq_true _ ▸ h.1) hm hs,ih h.2,map_cons]
      have hn : 0 < number → some number ≠ q.port := fun hp he => hm ⟨hp,he.symm⟩
      have hv : name = "" → number = 0 → some servicePort ≠ q.port :=
       fun hp hz he => hs ⟨hp,hz,he.symm⟩
      grind

lemma matchEndpointSlicePort_eq : matchEndpointSlicePort por name number servicePort =
  (por.findSome? (matchedPort name number servicePort)).getD (singlePort por) := by
 unfold matchEndpointSlicePort
 cases h : por.findSome? (matchedPort name number servicePort) with
 | none | some port =>
  erw [h]
  rfl

lemma singlePort_of_mem (h : some servicePort ∈ por.map (·.port)) :
  singlePort por = if por.length = 1 then servicePort else 0 := by
 match por with
 | [] => cases h
 | [p] => simp [singlePort,← mem_singleton.mp h]
 | _::_::_ => simp [singlePort]

/-- The pass keeps the priority exactly on these lists of ports. -/
lemma matchEndpointSlicePort_eq_iff : matchEndpointSlicePort por name number servicePort =
      documentedPort name number servicePort por ↔ PriorityKept name number servicePort por := by
 rw [matchEndpointSlicePort_eq,documentedPort,PriorityKept]
 cases hf : por.find? (named name) with
 | some p =>
  have hp := find?_some hf
  rw [named,decide_eq_true_eq] at hp
  obtain ⟨v,hv⟩ := isSome_iff_exists.mp hp.2.2
  rw [findSome?_of_named hf]
  dsimp only
  by_cases hm : 0 < number ∧
    some number ∈ (por.takeWhile (!named name ·)).map (·.port)
  · simp [hm,hv,eq_comm]
  · rw [if_neg hm]
    simpa [hv] using fun hn x hx hx' => absurd ⟨hn,mem_map.mpr ⟨x,hx,hx'⟩⟩ hm
 | none =>
  rw [findSome?_of_unnamed hf]
  dsimp only
  by_cases hm : 0 < number ∧ some number ∈ por.map (·.port)
  · rw [if_pos hm,if_pos hm]
    exact iff_of_true rfl fun h => absurd hm.2 (h hm.1)
  · rw [if_neg hm,if_neg hm]
    by_cases hs : some servicePort ∈ por.map (·.port)
    · rw [if_pos hs,singlePort_of_mem hs]
      by_cases hu : name = "" ∧ number = 0
      · simp [hs,hu]
      · grind
    · rw [if_neg hs,if_neg fun h => hs h.2.2]
      exact iff_of_true rfl fun _ _ h => absurd h hs

end

section
variable (lib : BuilderLibrary) (objs : ClusterObjects)

/-- Every address of the slice with the port, if there is one. -/
def addressed (es : EndpointSlice) (port : Int32) : List (String × Int32) :=
 if port = 0 then [] else es.endpoints.flatMap fun ep => ep.addresses.map fun addr => (addr,port)

/-- What is resolved is made of the slices, each with its documented port. -/
def ResolvesAsDocumented (ref : ServiceReference) (defaultNs : String) : Prop :=
 let ns := getNamespace ref.ns defaultNs
 ∀ svc, objs.getService ns ref.name = some svc →
  let target := targetPortOf lib svc ref.port
  let part := sliceEndpoints objs target ref.port
  resolveServiceEndpoints lib objs ref defaultNs =
    some ((objs.getEndpointSlices ns ref.name).flatMap part) ∧
   ∀ es ∈ objs.getEndpointSlices ns ref.name, (part es).map (fun ep => (ep.address,ep.port)) =
    addressed es (documentedPort target.1 target.2 ref.port es.ports)

lemma sliceEndpoints_map (tg : String × Int32) (sp : Int32) (es : EndpointSlice) :
  (sliceEndpoints objs tg sp es).map (fun ep => (ep.address,ep.port)) =
   addressed es (matchEndpointSlicePort es.ports tg.1 tg.2 sp) := by
 rw [sliceEndpoints,addressed]
 split_ifs
 · rfl
 · simp [map_flatMap,Function.comp_def]

lemma mem_addressed {es : EndpointSlice} {port : Int32} {e : String × Int32} :
  e ∈ addressed es port ↔ port ≠ 0 ∧ (∃ ep ∈ es.endpoints, e.1 ∈ ep.addresses) ∧ e.2 = port := by
 rw [addressed]
 split_ifs with h
 · simp [h]
 · obtain ⟨addr,v⟩ := e
   simp only [mem_flatMap,mem_map,Prod.mk.injEq]
   grind

lemma addressed_eq_iff {es : EndpointSlice} {p q : Int32} : addressed es p = addressed es q ↔
  ((∃ ep ∈ es.endpoints, ep.addresses ≠ []) → p = q) := by
 constructor
 · rintro h ⟨ep,hep,hne⟩
   obtain ⟨addr,ha⟩ := exists_mem_of_ne_nil _ hne
   by_cases hp : p = 0
   · by_cases hq : q = 0
     · rw [hp,hq]
     · have hm : (addr,q) ∈ addressed es q := mem_addressed.mpr ⟨hq,⟨ep,hep,ha⟩,rfl⟩
       exact (mem_addressed.mp (h ▸ hm)).2.2.symm
   · have hm : (addr,p) ∈ addressed es p := mem_addressed.mpr ⟨hp,⟨ep,hep,ha⟩,rfl⟩
     exact (mem_addressed.mp (h ▸ hm)).2.2
 · intro h
   by_cases he : ∃ ep ∈ es.endpoints, ep.addresses ≠ []
   · rw [h he]
   · have hnil (r : Int32) : addressed es r = [] := eq_nil_iff_forall_not_mem.mpr fun e hm => by
      obtain ⟨ep,hep,ha⟩ := (mem_addressed.mp hm).2.1
      exact he ⟨ep,hep,ne_nil_of_mem ha⟩
     rw [hnil,hnil]

/-- Endpoints get the documented port exactly if no slice with an address has an earlier port of
the target's number before the named one, or the service port among others. -/
theorem ports_as_documented_iff (ref : ServiceReference) (dn : String) :
  ResolvesAsDocumented lib objs ref dn ↔
   ∀ svc, objs.getService (getNamespace ref.ns dn) ref.name = some svc →
    ∀ es ∈ objs.getEndpointSlices (getNamespace ref.ns dn) ref.name,
     (∃ ep ∈ es.endpoints, ep.addresses ≠ []) →
      PriorityKept (targetPortOf lib svc ref.port).1 (targetPortOf lib svc ref.port).2
       ref.port es.ports := by
 refine forall₂_congr fun svc hs => ?_
 rw [resolveServiceEndpoints,hs,Option.map_some,and_iff_right rfl]
 refine forall₂_congr fun es _ => ?_
 rw [sliceEndpoints_map,addressed_eq_iff,matchEndpointSlicePort_eq_iff]

def metricsFirst : ClusterObjects :=
 { ofRoutes [] nodup_nil with
   services := [{ name := "api", ns := "shop", clusterIP := "10.0.0.1"
                  ports := [{ name := "http", port := 80, targetPort := .int 8080 }] }]
   endpointSlices := [{ ns := "shop", serviceName := "api"
                        ports := [⟨some "metrics",some 8080⟩,⟨some "http",some 9090⟩]
                        endpoints := [{ addresses := ["10.1.0.1"] }] }]
   services_nodup := nodup_singleton _
   service_keys_nodup := nodup_singleton _ }

/-- The slice names the port, and an earlier port of the target's number is taken. -/
theorem metrics_port_taken :
  ¬ ResolvesAsDocumented bareLibrary metricsFirst { name := "api", port := 80 } "shop" ∧
   (resolveServiceEndpoints bareLibrary metricsFirst { name := "api", port := 80 } "shop").map
    (·.map fun ep => (ep.address,ep.port)) = some [("10.1.0.1",8080)] := by
 refine ⟨fun h => ?_,by decide⟩
 have hp := (h _ rfl).2 _ mem_cons_self
 revert hp
 decide

end

end NovaEdge.Snapshot
