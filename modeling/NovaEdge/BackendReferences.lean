import NovaEdge.NameEncoding
import NovaEdge.RouteReconciler

/-! The backends to which the translated rules of HTTP and gRPC routes refer, and those that the
reconciliation of the route writes. -/
namespace NovaEdge.GatewayApi
open NameEncoding KeyedMap List V1alpha1

lemma portText_eq (port : PortNumber) : portText port = toString port.1.toInt.toNat := by
 have hp : 0 ≤ port.1.toInt := by
  have h1 : (1 : Int32).toInt ≤ port.1.toInt := Int32.le_iff_toInt_le.mp port.2.1
  have ho : (1 : Int32).toInt = 1 := by decide
  omega
 have hc : port.1.toInt = ((port.1.toInt.toNat : ℕ) : ℤ) := (Int.toNat_of_nonneg hp).symm
 rw [portText,hc]
 rfl

lemma dash_notMem_portText (port : PortNumber) : '-' ∉ (portText port).toList := by
 rw [portText_eq]
 exact notMem_toString (by decide) _

lemma portText_injective : Function.Injective portText := by
 intro p q h
 rw [portText_eq,portText_eq] at h
 have hn := toString_nat_injective h
 have hp : (1 : Int32).toInt ≤ p.1.toInt := Int32.le_iff_toInt_le.mp p.2.1
 have hq : (1 : Int32).toInt ≤ q.1.toInt := Int32.le_iff_toInt_le.mp q.2.1
 have ho : (1 : Int32).toInt = 1 := by decide
 exact Subtype.ext (Int32.toInt_inj.mp (by omega))

lemma toList_generateProxyBackendName (svc ns : String) (port : PortNumber) :
  (generateProxyBackendName svc ns port).toList =
   (ns.toList ++ '-' :: svc.toList) ++ '-' :: (portText port).toList := by
 simp [generateProxyBackendName]

lemma generateProxyBackendName_inj {svc ser' ns : String} {port por' : PortNumber}
  (h : generateProxyBackendName svc ns port = generateProxyBackendName ser' ns por') :
  svc = ser' ∧ port = por' := by
 rw [← String.toList_inj,toList_generateProxyBackendName,toList_generateProxyBackendName] at h
 obtain ⟨hl,hp⟩ := append_sep_inj (dash_notMem_portText port) (dash_notMem_portText por') h
 have hse : svc.toList = ser'.toList := by simpa using hl
 exact ⟨String.toList_inj.mp hse,portText_injective (String.toList_inj.mp hp)⟩

lemma generateProxyBackendName_ne (svc ns : String) (port : PortNumber) :
  generateProxyBackendName svc ns port ≠ svc := by
 intro h
 have hl := congrArg (·.toList.length) h
 simp only [toList_generateProxyBackendName,length_append,length_cons] at hl
 omega

variable {e : String × BackendRef}

section
variable {api : ApiServer} {m : ObjectMeta} {kind : String}

def entryKey (m : ObjectMeta) (e : String × BackendRef) : ObjectKey := (e.2.namespaceIn m.ns,e.1)

lemma exists_find?_upsertBackend (sto : KeyedMap ObjectKey (Written ProxyBackend))
  (key : ObjectKey) (new : Written ProxyBackend) :
  ∃ w, (upsertBackend sto key new).find? key = some w ∧ w.spec = new.spec := by
 unfold upsertBackend
 cases sto.find? key with
 | none | some old => exact ⟨_,find?_set_self _ _ _,rfl⟩

lemma find?_upsertBackend_ne (sto : KeyedMap ObjectKey (Written ProxyBackend))
  {key key' : ObjectKey} (new : Written ProxyBackend) (h : key' ≠ key) :
  (upsertBackend sto key new).find? key' = sto.find? key' :=
 find?_set_ne _ _ h

variable {bs : KeyedMap ObjectKey (Written V1alpha1.ProxyBackend)}

lemma writeBackends_cons {rest : List (String × BackendRef)}
  (h : (writeBackends api m kind (e::rest) bs).error = none) :
  ∃ run, run = writeBackends api m kind rest
    (upsertBackend bs (entryKey m e) (proxyBackendOf m kind e.1 e.2)) ∧ run.error = none ∧
   writeBackends api m kind (e::rest) bs = { run with written := entryKey m e::run.written } := by
 obtain ⟨name,b⟩ := e
 cases hse : api.service (b.namespaceIn m.ns,b.name) with
 | notFound | failed text => simp [writeBackends,hse] at h
 | found found =>
  cases hw : api.backendError (b.namespaceIn m.ns,name) with
  | some text => simp [writeBackends,hse,hw] at h
  | none =>
   have hr : writeBackends api m kind ((name,b)::rest) bs =
     { writeBackends api m kind rest (upsertBackend bs (entryKey m (name,b))
        (proxyBackendOf m kind name b)) with
       written := entryKey m (name,b)::(writeBackends api m kind rest
        (upsertBackend bs (entryKey m (name,b))
         (proxyBackendOf m kind name b))).written } := by
    rw [writeBackends]
    simp only [hse,hw]
    rfl
   rw [hr] at h
   exact ⟨_,rfl,h,hr⟩

variable {ord : List (String × BackendRef)}

section
variable (h : (writeBackends api m kind ord bs).error = none)
include h

lemma find?_writeBackends_of_notMem {key : ObjectKey} (hk : key.2 ∉ ord.map Prod.fst) :
  (writeBackends api m kind ord bs).backends.find? key = bs.find? key := by
 induction ord generalizing bs with
 | nil => rfl
 | cons e rest ih =>
  obtain ⟨run,rfl,her,hr⟩ := writeBackends_cons h
  rw [map_cons,mem_cons,not_or] at hk
  have hn : key ≠ entryKey m e := fun hq => hk.1 (congrArg Prod.snd hq)
  rw [hr,ih her hk.2,find?_upsertBackend_ne _ _ hn]

lemma written_writeBackends : (writeBackends api m kind ord bs).written = ord.map (entryKey m) := by
 induction ord generalizing bs with
 | nil => rfl
 | cons e rest ih =>
  obtain ⟨run,rfl,her,hr⟩ := writeBackends_cons h
  rw [hr,map_cons]
  exact congrArg (entryKey m e::·) (ih her)

/-- A written backend stays as it was written, since names are not repeated. -/
lemma exists_find?_writeBackends (hn : (ord.map Prod.fst).Nodup) (he : e ∈ ord) :
  ∃ w, (writeBackends api m kind ord bs).backends.find? (entryKey m e) = some w ∧
   w.spec = (proxyBackendOf m kind e.1 e.2).spec := by
 induction ord generalizing bs with
 | nil => simp at he
 | cons first rest ih =>
  obtain ⟨run,rfl,her,hr⟩ := writeBackends_cons h
  obtain ⟨hf,hrs⟩ := nodup_cons.mp hn
  rw [hr]
  rcases mem_cons.mp he with rfl | he
  · rw [find?_writeBackends_of_notMem her hf]
    exact exists_find?_upsertBackend _ _ _
  · exact ih her hrs he

end

variable (ns : String)

lemma find?_foldl_serviceBackends (refs : List BackendRef) (acc : KeyedMap String BackendRef)
  (name : String) :
  (refs.foldl (fun acc b => if b.isService then acc.set (b.proxyBackendName ns) b else acc)
   acc).find? name =
   ((refs.filter fun b => b.isService && b.proxyBackendName ns = name).getLast?).or
    (acc.find? name) := by
 induction refs using List.reverseRecOn with
 | nil => rfl
 | append_singleton refs b ih =>
  rw [foldl_append,foldl_cons,foldl_nil,filter_append]
  by_cases hse : b.isService = true
  · rw [if_pos hse]
    by_cases hn : b.proxyBackendName ns = name
    · subst hn
      simp [hse]
    · rw [find?_set_ne _ _ (Ne.symm hn),ih]
      simp [hn]
  · rw [if_neg hse,ih]
    simp [hse]

lemma find?_serviceBackends (refs : List BackendRef) (name : String) :
  (serviceBackends ns refs).find? name =
   (refs.filter fun b => b.isService && b.proxyBackendName ns = name).getLast? := by
 rw [serviceBackends,find?_foldl_serviceBackends]
 simp

lemma of_find?_serviceBackends {ns : String} {refs : List BackendRef} {name : String}
  {b : BackendRef} (h : (serviceBackends ns refs).find? name = some b) :
  b ∈ refs ∧ b.isService = true ∧ b.proxyBackendName ns = name := by
 rw [find?_serviceBackends] at h
 have hm := mem_of_getLast? h
 simpa using hm

lemma exists_find?_serviceBackends {refs : List BackendRef} {b : BackendRef} (hb : b ∈ refs)
  (hse : b.isService = true) :
  ∃ b', (serviceBackends ns refs).find? (b.proxyBackendName ns) = some b' := by
 rw [find?_serviceBackends,← isSome_iff_exists,getLast?_isSome]
 refine ne_nil_of_mem (a := b) ?_
 simp [hb,hse]

end

inductive BackedRoute
 | http (route : HTTPRoute)
 | grpc (route : GRPCRoute)

open BackedRoute
namespace BackedRoute

def toObjectMeta : BackedRoute → ObjectMeta
 | http route => route.toObjectMeta
 | grpc route => route.toObjectMeta

def kind : BackedRoute → String
 | http _ => "HTTPRoute"
 | grpc _ => "GRPCRoute"

def proxyKey : BackedRoute → ObjectKey
 | http route => route.key
 | grpc route => (route.ns,route.proxyName)

def ruleRefs : BackedRoute → List (List BackendRef)
 | http route => route.rules.map fun rule => rule.backendRefs.map HTTPBackendRef.toBackendRef
 | grpc route => route.rules.map GRPCRouteRule.backendRefs

def serviceRefs : BackedRoute → List BackendRef
 | http route => route.serviceRefs
 | grpc route => route.serviceRefs

def translate : BackedRoute → Translated (Written V1alpha1.ProxyRoute)
 | http route => translateHTTPRouteToProxyRoute route
 | grpc route => translateGRPCRouteToProxyRoute route

def refOf (route : BackedRoute) : BackendRef → V1alpha1.BackendRef :=
 match route with
 | http route => translateBackendRef route.ns
 | grpc route => translateGRPCBackendRef route.ns

def reconcile (api : ApiServer) (order : List (String × BackendRef)) (prior : List ParentStatus)
  (store : ClusterStore) : BackedRoute → Reconciled
 | http route => reconcileHTTPRoute api order route store
 | grpc route => reconcileGRPCRoute api order prior route store

def sourceRef (route : BackedRoute) (i j : ℕ) : Option BackendRef :=
 (route.ruleRefs[i]?).bind fun refs => refs[j]?

end BackedRoute

def writtenRef (w : Written V1alpha1.ProxyRoute) (i j : ℕ) : Option V1alpha1.BackendRef :=
 (w.spec.rules[i]?).bind fun rule => rule.backendRefs[j]?

def ResolvesTo (run : Reconciled) (routeNs : String) (b : BackendRef) (t : V1alpha1.BackendRef) :
  Prop :=
 ∃ ns backend sref, t.ns = some ns ∧ (ns,t.name) ∈ run.writtenBackends ∧
  run.store.proxyBackends.find? (ns,t.name) = some backend ∧
  backend.spec.serviceRef = some sref ∧ sref.ns.getD backend.spec.ns = b.namespaceIn routeNs ∧
  sref.name = b.name ∧ sref.port = b.portNumber.1

structure RefsResolve (route : BackedRoute) (run : Reconciled) : Prop where
 resolves : ∀ i j b, route.sourceRef i j = some b → b.isService = true →
  ∃ w t, run.store.proxyRoutes.find? route.proxyKey = some w ∧ writtenRef w i j = some t ∧
   ResolvesTo run route.toObjectMeta.ns b t
 apart : ∀ i j b i' j' b' w t t', route.sourceRef i j = some b → route.sourceRef i' j' = some b' →
  b.isService = true → b'.isService = true →
  run.store.proxyRoutes.find? route.proxyKey = some w →
  writtenRef w i j = some t → writtenRef w i' j' = some t' →
  (b.namespaceIn route.toObjectMeta.ns,b.name,b.portNumber) ≠
   (b'.namespaceIn route.toObjectMeta.ns,b'.name,b'.portNumber) →
  (t.ns,t.name) ≠ (t'.ns,t'.name)

/-- HTTP rules keep the service's name, which no backend has; gRPC names must not span namespaces.
-/
def RefsApart : BackedRoute → Prop
 | .http route => ∀ b ∈ route.serviceRefs, b.isService = false
 | .grpc route => ∀ b ∈ route.serviceRefs, ∀ b' ∈ route.serviceRefs, b.isService = true →
   b'.isService = true → b.proxyBackendName route.ns = b'.proxyBackendName route.ns →
    b.namespaceIn route.ns = b'.namespaceIn route.ns

section
variable {api : ApiServer} {ord : List (String × BackendRef)} {pri : List ParentStatus}
 {st : ClusterStore} {rt : BackedRoute}

lemma flatten_ruleRefs : rt.ruleRefs.flatten = rt.serviceRefs := by
 cases rt with
 | http rt => simp [ruleRefs,serviceRefs,HTTPRoute.serviceRefs,
   flatMap_def]
 | grpc rt => simp [ruleRefs,serviceRefs,GRPCRoute.serviceRefs,
   flatMap_def]

variable {b : BackendRef}

lemma mem_serviceRefs_of_sourceRef {i j : ℕ} (h : rt.sourceRef i j = some b) :
  b ∈ rt.serviceRefs := by
 obtain ⟨refs,hr,hb⟩ := bind_eq_some_iff.mp h
 rw [← flatten_ruleRefs,mem_flatten]
 exact ⟨refs,mem_of_getElem? hr,mem_of_getElem? hb⟩

lemma exists_sourceRef (h : b ∈ rt.serviceRefs) : ∃ i j, rt.sourceRef i j = some b := by
 rw [← flatten_ruleRefs,mem_flatten] at h
 obtain ⟨refs,hr,hb⟩ := h
 obtain ⟨i,hi⟩ := mem_iff_getElem?.mp hr
 obtain ⟨j,hj⟩ := mem_iff_getElem?.mp hb
 exact ⟨i,j,by rw [sourceRef,hi,Option.bind_some,hj]⟩

lemma backendRefs_translate {w : Written V1alpha1.ProxyRoute} (h : rt.translate = .ok w) :
  w.spec.rules.map V1alpha1.HTTPRouteRule.backendRefs =
   rt.ruleRefs.map fun refs => refs.map rt.refOf := by
 cases rt with
 | http rt =>
  obtain ⟨rls,hr,rfl⟩ := exists_rules_of_translateHTTPRoute h
  have hm := hr.imp fun a b ha => backendRefs_translateHTTPRouteRule ha
  simp only [ruleRefs,map_map]
  rw [← forall₂_eq_eq_eq,forall₂_map_left_iff,forall₂_map_right_iff]
  refine hm.flip.imp ?_
  intro b a ha
  simp [ha,refOf,Function.comp_def]
 | grpc rt =>
  obtain ⟨rls,hr,rfl⟩ := exists_rules_of_translateGRPCRoute h
  have hm := hr.imp fun a b ha => backendRefs_translateGRPCRouteRule ha
  simp only [ruleRefs,map_map]
  rw [← forall₂_eq_eq_eq,forall₂_map_left_iff,forall₂_map_right_iff]
  exact hm.flip.imp fun b a ha => ha

lemma writtenRef_eq {w w' : Written V1alpha1.ProxyRoute} (h : rt.translate = .ok w)
  (hp : w'.spec = w.spec) (i j : ℕ) : writtenRef w' i j = (rt.sourceRef i j).map rt.refOf := by
 have hr : (w.spec.rules[i]?).map V1alpha1.HTTPRouteRule.backendRefs =
   (rt.ruleRefs[i]?).map fun refs => refs.map rt.refOf := by
  rw [← getElem?_map,backendRefs_translate h,getElem?_map]
 rw [writtenRef,sourceRef,hp]
 cases hl : w.spec.rules[i]? with
 | none =>
  rw [hl] at hr
  cases ho : rt.ruleRefs[i]? with
  | none => rfl
  | some refs => simp [ho] at hr
 | some rule =>
  rw [hl] at hr
  cases ho : rt.ruleRefs[i]? with
  | none => simp [ho] at hr
  | some refs =>
   have hq : rule.backendRefs = refs.map rt.refOf := by simpa [ho] using hr
   simp [hq]

lemma completes_of_reportsResolved (h : (rt.reconcile api ord pri st).ReportsResolved) :
  ∃ w, rt.translate = .ok w ∧ (rt.reconcile api ord pri st).Completes st rt.proxyKey w
    (writeBackends api rt.toObjectMeta rt.kind ord st.proxyBackends) := by
 cases rt with
 | http rt =>
  rcases reconcileHTTPRoute_cases rt with ht | hc
  · exact absurd h ht.unresolved
  · exact hc
 | grpc rt =>
  rcases reconcileGRPCRoute_cases pri rt with ht | hc
  · exact absurd h ht.unresolved
  · exact hc

lemma exists_find?_upsertRoute (rts : KeyedMap ObjectKey (Written ProxyRoute))
  (key : ObjectKey) (new : Written ProxyRoute) :
  ∃ w, (upsertRoute rts key new).find? key = some w ∧ w.spec = new.spec := by
 unfold upsertRoute
 cases rts.find? key with
 | none | some old => exact ⟨_,find?_set_self _ _ _,rfl⟩

section
variable (h : (rt.reconcile api ord pri st).ReportsResolved)
include h

lemma exists_stored :
  ∃ w, (rt.reconcile api ord pri st).store.proxyRoutes.find? rt.proxyKey = some w ∧
   ∀ i j, writtenRef w i j = (rt.sourceRef i j).map rt.refOf := by
 obtain ⟨w,hw,hr⟩ := completes_of_reportsResolved h
 obtain ⟨w',hf,hp⟩ := exists_find?_upsertRoute st.proxyRoutes rt.proxyKey w
 rw [hr.proxyRoutes]
 exact ⟨w',hf,writtenRef_eq hw hp⟩

lemma resolvesTo_iff (hor : ord.Perm (serviceBackends rt.toObjectMeta.ns rt.serviceRefs).pairs)
  {t : V1alpha1.BackendRef} : ResolvesTo (rt.reconcile api ord pri st) rt.toObjectMeta.ns b t ↔
   ∃ e ∈ ord, t.ns = some (e.2.namespaceIn rt.toObjectMeta.ns) ∧ t.name = e.1 ∧
    e.2.namespaceIn rt.toObjectMeta.ns = b.namespaceIn rt.toObjectMeta.ns ∧
    e.2.name = b.name ∧ e.2.portNumber = b.portNumber := by
 obtain ⟨w,-,hr⟩ := completes_of_reportsResolved h
 have her := hr.resolved h
 have hnd : (ord.map Prod.fst).Nodup := (hor.map Prod.fst).nodup_iff.mpr (pairs_keys_nodup _)
 rw [ResolvesTo,hr.writtenBackends,hr.proxyBackends,written_writeBackends her]
 constructor
 · rintro ⟨ns,be,sref,hn,hw,hf,hsr,hse⟩
   obtain ⟨e,he,hk⟩ := mem_map.mp hw
   obtain ⟨hes,hen⟩ := Prod.mk.inj hk
   obtain ⟨w',hf',hp⟩ := exists_find?_writeBackends her hnd he
   rw [hk] at hf'
   obtain rfl := mem_unique hf hf'
   rw [hp] at hsr hse
   cases hsr
   obtain ⟨hss,hsn,ho⟩ := hse
   exact ⟨e,he,hn.trans (congrArg some hes.symm),hen.symm,hss,hsn,Subtype.ext ho⟩
 · rintro ⟨e,he,hn,ha,hes,hsn,ho⟩
   obtain ⟨w',hf,hp⟩ := exists_find?_writeBackends her hnd he
   have hk : entryKey rt.toObjectMeta e =
     (e.2.namespaceIn rt.toObjectMeta.ns,t.name) := by rw [entryKey,ha]
   rw [hk] at hf
   refine ⟨_,w',{ name := e.2.name, port := e.2.portNumber.1 },hn,?_,hf,?_,?_,hsn,
    congrArg Subtype.val ho⟩
   · exact mem_map.mpr ⟨e,he,hk⟩
   · rw [hp]
     rfl
   · rw [hp]
     exact hes

end

section
variable (hor : ord.Perm (serviceBackends rt.toObjectMeta.ns rt.serviceRefs).pairs)
include hor

lemma of_mem_order (he : e ∈ ord) : e.2 ∈ rt.serviceRefs ∧ e.2.isService = true ∧
      e.2.proxyBackendName rt.toObjectMeta.ns = e.1 :=
 of_find?_serviceBackends (mem_pairs_iff.mp (hor.mem_iff.mp he))

lemma exists_mem_order (hb : b ∈ rt.serviceRefs) (hse : b.isService = true) :
  ∃ e ∈ ord, e.1 = b.proxyBackendName rt.toObjectMeta.ns := by
 obtain ⟨b',hf⟩ := exists_find?_serviceBackends rt.toObjectMeta.ns hb hse
 exact ⟨_,hor.mem_iff.mpr (mem_pairs_iff.mpr hf),rfl⟩

end

def RefsOf (route : BackedRoute) (run : Reconciled) : Prop :=
 ∀ b ∈ route.serviceRefs, b.isService = true →
  ResolvesTo run route.toObjectMeta.ns b (route.refOf b)

section
variable (hrp : (rt.reconcile api ord pri st).ReportsResolved)
include hrp

lemma refsOf_of_refsResolve (h : RefsResolve rt (rt.reconcile api ord pri st)) :
  RefsOf rt (rt.reconcile api ord pri st) := by
 obtain ⟨sto,hst,hre⟩ := exists_stored hrp
 intro b hb hse
 obtain ⟨i,j,ho⟩ := exists_sourceRef hb
 obtain ⟨w,t,hw,ht,hr⟩ := h.resolves i j b ho hse
 obtain rfl := mem_unique hst hw
 rw [hre,ho] at ht
 cases ht
 exact hr

variable (hor : ord.Perm (serviceBackends rt.toObjectMeta.ns rt.serviceRefs).pairs)
include hor

lemma refsApart_of_refsOf (h : RefsOf rt (rt.reconcile api ord pri st)) : RefsApart rt := by
 cases rt with
 | http rt =>
  intro b hb
  by_contra hse
  have hr := h b hb (by simpa using hse)
  obtain ⟨e,he,-,hn,-,hsn,-⟩ := (resolvesTo_iff hrp hor).mp hr
  have hg : e.2.proxyBackendName rt.ns = e.2.name :=
   (of_mem_order hor he).2.2.trans (hn.symm.trans hsn.symm)
  exact generateProxyBackendName_ne _ _ _ hg
 | grpc rt =>
  intro b hb b' hb' hse hs' ha
  obtain ⟨e,he,-,hn,hns,-,-⟩ := (resolvesTo_iff hrp hor).mp (h b hb hse)
  obtain ⟨e',he',-,ha',hn',-,-⟩ := (resolvesTo_iff hrp hor).mp (h b' hb' hs')
  -- There is one entry for the common name.
  have hf := mem_pairs_iff.mp (hor.mem_iff.mp he)
  have hf' := mem_pairs_iff.mp (hor.mem_iff.mp he')
  have hk : e.1 = e'.1 := hn.symm.trans (ha.trans ha')
  rw [hk,hf'] at hf
  have ho : e'.2 = e.2 := Option.some.inj hf
  rw [ho] at hn'
  exact hns.symm.trans hn'

lemma refsOf_of_refsApart (h : RefsApart rt) : RefsOf rt (rt.reconcile api ord pri st) := by
 intro b hb hse
 cases rt with
 | http rt => exact absurd hse (by simp [h b hb])
 | grpc rt =>
  obtain ⟨e,he,hk⟩ := exists_mem_order hor hb hse
  obtain ⟨hm,hs',hna⟩ := of_mem_order hor he
  have ha : e.2.proxyBackendName rt.ns = b.proxyBackendName rt.ns := hna.trans hk
  have hn : e.2.namespaceIn rt.ns = b.namespaceIn rt.ns := h e.2 hm b hb hs' hse ha
  have hg := ha
  rw [BackendRef.proxyBackendName,BackendRef.proxyBackendName,hn] at hg
  obtain ⟨hsn,ho⟩ := generateProxyBackendName_inj hg
  exact (resolvesTo_iff hrp hor).mpr ⟨e,he,congrArg some hn.symm,hk.symm,hn,hsn,ho⟩

end

lemma refOf_ne (h : RefsApart rt) {b' : BackendRef} (hb : b ∈ rt.serviceRefs)
  (hse : b.isService = true) (hn : (b.namespaceIn rt.toObjectMeta.ns,b.name,b.portNumber) ≠
   (b'.namespaceIn rt.toObjectMeta.ns,b'.name,b'.portNumber)) :
  ((rt.refOf b).ns,(rt.refOf b).name) ≠ ((rt.refOf b').ns,(rt.refOf b').name) := by
 intro hq
 cases rt with
 | http rt => exact absurd hse (by simp [h b hb])
 | grpc rt =>
  obtain ⟨hns,hg⟩ := Prod.mk.inj hq
  have hn' : b.namespaceIn rt.ns = b'.namespaceIn rt.ns := Option.some.inj hns
  change b.proxyBackendName rt.ns = b'.proxyBackendName rt.ns at hg
  rw [BackendRef.proxyBackendName,BackendRef.proxyBackendName,hn'] at hg
  obtain ⟨ha,hp⟩ := generateProxyBackendName_inj hg
  exact hn (by rw [ha,hp]; exact Prod.ext hn' rfl)

lemma refsResolve_of_refsApart (hre : (rt.reconcile api ord pri st).ReportsResolved)
  (hor : ord.Perm (serviceBackends rt.toObjectMeta.ns rt.serviceRefs).pairs)
  (h : RefsApart rt) : RefsResolve rt (rt.reconcile api ord pri st) := by
 obtain ⟨sto,hst,hr⟩ := exists_stored hre
 constructor
 · intro i j b ho hse
   refine ⟨sto,rt.refOf b,hst,by rw [hr,ho]; rfl,?_⟩
   exact refsOf_of_refsApart hre hor h b (mem_serviceRefs_of_sourceRef ho) hse
 · intro i j b i' j' b' w t t' ho hs' hse _ hw ht ht' hn
   obtain rfl := mem_unique hst hw
   rw [hr,ho] at ht
   rw [hr,hs'] at ht'
   cases ht
   cases ht'
   exact refOf_ne h (mem_serviceRefs_of_sourceRef ho) hse hn

end

theorem refs_resolve_iff {api : ApiServer} {order : List (String × BackendRef)}
  {prior : List ParentStatus} {store : ClusterStore} {route : BackedRoute}
  (horder : order.Perm (serviceBackends route.toObjectMeta.ns route.serviceRefs).pairs)
  (hreports : (route.reconcile api order prior store).ReportsResolved) :
  RefsResolve route (route.reconcile api order prior store) ↔ RefsApart route :=
 ⟨fun h => refsApart_of_refsOf hreports horder (refsOf_of_refsResolve hreports h),
  refsResolve_of_refsApart hreports horder⟩

def edgeApi : ApiServer where
 gateway key := if key = ("shop","edge") then
   .found { name := "edge", ns := "shop", gatewayClassName := novaEdgeGatewayClassName }
  else .notFound
 service _ := .found ()

def webRoute : HTTPRoute where
 name := "web"
 ns := "shop"
 parentRefs := [{ name := "edge" }]
 rules := [{ backendRefs := [{ name := "api" }] }]

def chatRoute : GRPCRoute where
 name := "chat"
 ns := "shop"
 parentRefs := [{ name := "edge" }]
 rules := [{ backendRefs := [{ name := "c", ns := some "a" },{ name := "c", ns := some "b" }] }]

def BackedRoute.tableOrder (route : BackedRoute) : List (String × BackendRef) :=
 (serviceBackends route.toObjectMeta.ns route.serviceRefs).pairs

theorem chatRoute_refs_resolve : RefsResolve (.grpc chatRoute) (reconcile edgeApi
      (tableOrder (.grpc chatRoute)) [] {} (.grpc chatRoute)) := by
 refine (refs_resolve_iff (List.Perm.refl _) ?_).mpr ?_
 · exact ⟨_,.tail _ (.head _),rfl,rfl⟩
 · unfold RefsApart
   decide

theorem webRoute_refs_do_not_resolve :
  (reconcile edgeApi (tableOrder (.http webRoute)) [] {}
    (.http webRoute)).ReportsResolved ∧
   ¬ RefsResolve (.http webRoute) (reconcile edgeApi
    (tableOrder (.http webRoute)) [] {} (.http webRoute)) := by
 have hreports : (reconcile edgeApi (tableOrder (.http webRoute)) [] {}
   (.http webRoute)).ReportsResolved := ⟨_,.tail _ (.head _),rfl,rfl⟩
 refine ⟨hreports,fun h => ?_⟩
 have ha := refsApart_of_refsOf hreports (List.Perm.refl _) (refsOf_of_refsResolve hreports h)
 exact absurd (ha { name := "api" } (.head _)) (by decide)

end NovaEdge.GatewayApi
