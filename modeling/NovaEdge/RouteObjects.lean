import NovaEdge.BackendReferences
import NovaEdge.RouteOutcomes

/-! The routes of the Gateway API next to each other: what their reconciliations and deletions do
to the written routes of the others, and to the matching of HTTP requests. -/
namespace NovaEdge.GatewayApi
open KeyedMap List
open V1alpha1 (ProxyRoute)
open Dataplane (Outcome Route RouteRequest TextLibrary HostAdmitted matchHost compileHost
 outcome_filter_iff)
open Snapshot (GoLibrary buildRoute)

inductive RouteObject
 | backed (route : BackedRoute)
 | tcp (route : TCPRoute)
 | tls (route : TLSRoute)

abbrev RouteId := String × ObjectKey

namespace RouteObject

def toObjectMeta : RouteObject → ObjectMeta
 | backed route => route.toObjectMeta
 | tcp route => route.toObjectMeta
 | tls route => route.toObjectMeta

def kind : RouteObject → String
 | backed route => route.kind
 | tcp _ => "TCPRoute"
 | tls _ => "TLSRoute"

def id (o : RouteObject) : RouteId := (o.kind,o.toObjectMeta.key)

def ownerRef (o : RouteObject) : OwnerReference := o.toObjectMeta.ownerRef o.kind

def isL4 : RouteObject → Bool
 | backed _ => false
 | tcp _ | tls _ => true

def proxyKey : RouteObject → ObjectKey
 | backed route => route.proxyKey
 | tcp route => route.key
 | tls route => route.key

def hostnames : RouteObject → List String
 | backed (.http route) => route.hostnames
 | backed (.grpc route) => route.hostnames
 | tcp _ => []
 | tls route => route.hostnames

def ruleCount : RouteObject → ℕ
 | backed (.http route) => route.rules.length
 | backed (.grpc route) => route.rules.length
 | tcp route => route.rules.length
 | tls route => route.rules.length

def translate : RouteObject → Translated (Written ProxyRoute)
 | backed route => route.translate
 | tcp route => translateTCPRouteToProxyRoute route
 | tls route => translateTLSRouteToProxyRoute route

def reconcile (api : ApiServer) (order : List (String × BackendRef)) (prior : List ParentStatus)
  (store : ClusterStore) : RouteObject → Reconciled
 | backed route => route.reconcile api order prior store
 | tcp route => reconcileTCPRoute api route prior store
 | tls route => reconcileTLSRoute api route prior store

end RouteObject

def Written.isL4 (w : Written ProxyRoute) : Bool :=
 (w.annotations.find? l4ProtocolAnnotation).isSome

lemma exists_rules_of_translateL4 {err : ℕ → TranslateError} {ns : String}
  {rls : List L4RouteRule} {fin : List V1alpha1.HTTPRouteRule → Written ProxyRoute}
  {w : Written ProxyRoute}
  (h : (do let rls ← translateL4Rules err ns rls; return fin rls) = Except.ok w) :
  ∃ translated, translated.length = rls.length ∧ w = fin translated := by
 cases hr : translateL4Rules err ns rls with
 | error e => simp [hr,bind,Except.bind] at h
 | ok translated =>
  simp only [hr,bind,Except.bind] at h
  have hl := (forall₂_of_mapM hr).length_eq
  rw [length_zipIdx] at hl
  exact ⟨translated,hl.symm,(Except.ok.inj h).symm⟩

lemma isL4_proxyRouteOf (m : ObjectMeta) (kind name : String) (hos : List String)
  (rls : List V1alpha1.HTTPRouteRule) (mar : KeyedMap String String) :
  (proxyRouteOf m kind name hos rls mar).isL4 = (mar.find? l4ProtocolAnnotation).isSome := by
 have hn : l4ProtocolAnnotation ≠ ownerAnnotation := by decide
 rw [Written.isL4,proxyRouteOf,find?_set_ne _ _ hn]

structure DerivedFrom (o : RouteObject) (w : Written ProxyRoute) : Prop where
 key : (w.spec.ns,w.spec.name) = o.proxyKey
 owners : w.owners = [o.ownerRef]
 hostnames : w.spec.hostnames = o.hostnames
 ruleCount : w.spec.rules.length = o.ruleCount
 isL4 : w.isL4 = o.isL4

lemma derivedFrom_of_translate {o : RouteObject} {w : Written ProxyRoute}
  (h : o.translate = .ok w) : DerivedFrom o w := by
 cases o with
 | backed rt =>
  cases rt with
  | http rt =>
   obtain ⟨rls,hr,rfl⟩ := exists_rules_of_translateHTTPRoute h
   exact ⟨rfl,rfl,rfl,hr.length_eq.symm,isL4_proxyRouteOf ..⟩
  | grpc rt =>
   obtain ⟨rls,hr,rfl⟩ := exists_rules_of_translateGRPCRoute h
   exact ⟨rfl,rfl,rfl,hr.length_eq.symm,isL4_proxyRouteOf ..⟩
 | tcp rt | tls rt =>
  obtain ⟨rls,hl,rfl⟩ := exists_rules_of_translateL4 h
  exact ⟨rfl,rfl,rfl,hl,isL4_proxyRouteOf ..⟩

lemma reconcile_writes (o : RouteObject) {api : ApiServer} {ord : List (String × BackendRef)}
  {pri : List ParentStatus} {sto : ClusterStore} :
  (o.reconcile api ord pri sto).Writes sto o.proxyKey o.translate := by
 cases o with
 | backed rt =>
  cases rt with
  | http rt => exact reconcileHTTPRoute_writes rt
  | grpc rt => exact reconcileGRPCRoute_writes pri rt
 | tcp rt | tls rt => exact reconcileL4Route_writes ..

lemma proxyKey_fst (o : RouteObject) : o.proxyKey.1 = o.toObjectMeta.ns := by
 cases o with
 | backed rt => cases rt <;> rfl
 | tcp rt | tls rt => rfl

lemma id_eq_of_ownerRef {o o' : RouteObject} (ho : o.ownerRef = o'.ownerRef)
  (hk : o.proxyKey = o'.proxyKey) : o.id = o'.id := by
 have hki : o.kind = o'.kind := congrArg OwnerReference.kind ho
 have hn : o.toObjectMeta.name = o'.toObjectMeta.name := congrArg OwnerReference.name ho
 have hns : o.toObjectMeta.ns = o'.toObjectMeta.ns := by rw [← proxyKey_fst,← proxyKey_fst,hk]
 rw [RouteObject.id,RouteObject.id,ObjectMeta.key,ObjectMeta.key,hki,hn,hns]

structure LiveRoute where
 object : RouteObject
 derived : Bool := false

structure RouteCluster where
 objects : KeyedMap RouteId LiveRoute := ∅
 store : ClusterStore := {}

open RouteCluster
inductive RouteEvent
 | edit (o : RouteObject)
 | reconcile (id : RouteId) (api : ApiServer) (order : List (String × BackendRef))
   (prior : List ParentStatus)
 | delete (id : RouteId)
 /-- The object is gone before its reconciler sees the deletion. -/
 | vanish (id : RouteId)
 /-- The cluster removes a written route whose owners are all gone. -/
 | collect (key : ObjectKey)

namespace RouteCluster

def ownerGone (s : RouteCluster) (ns : String) (owner : OwnerReference) : Bool :=
 s.objects.values.all fun l => l.object.toObjectMeta.ns ≠ ns || l.object.ownerRef ≠ owner

def isGarbage (s : RouteCluster) (key : ObjectKey) (w : Written ProxyRoute) : Bool :=
 !w.owners.isEmpty && w.owners.all (s.ownerGone key.1)

def deleteRoute (store : ClusterStore) (key : ObjectKey) : ClusterStore :=
 { store with proxyRoutes := store.proxyRoutes.delete key }

def step (s : RouteCluster) : RouteEvent → RouteCluster
 | .edit o => { s with objects := s.objects.set o.id { object := o } }
 | .reconcile id api order prior =>
  match s.objects.find? id with
  | none => s
  | some l =>
   let run := l.object.reconcile api order prior s.store
   { objects := s.objects.set id { l with derived := run.routeWritten }
     store := run.store }
 | .delete id =>
  match s.objects.find? id with
  | none => s
  | some l => { objects := s.objects.delete id, store := deleteRoute s.store l.object.proxyKey }
 | .vanish id => { s with objects := s.objects.delete id }
 | .collect key =>
  match s.store.proxyRoutes.find? key with
  | none => s
  | some w => if s.isGarbage key w then { s with store := deleteRoute s.store key } else s

end RouteCluster

def routeSystem : TransitionSystem RouteCluster RouteEvent :=
 .ofFun (fun s => s = {}) RouteCluster.step

def routesOf (store : ClusterStore) : List ProxyRoute :=
 store.proxyRoutes.values.map Written.spec

def httpRoutesOf (store : ClusterStore) : List ProxyRoute :=
 (store.proxyRoutes.values.filter fun w => !w.isL4).map Written.spec

/-- Objects have their routes, and those for TCP and TLS do not change what HTTP requests get. -/
structure Undisturbed (s : RouteCluster) (r : RouteRequest) : Prop where
 derived : ∀ id l, s.objects.find? id = some l → l.derived = true →
  ∃ w, l.object.translate = .ok w ∧ s.store.proxyRoutes.find? l.object.proxyKey = some w
 matched : ∀ (go : GoLibrary) (lib : TextLibrary) (render : JsonValue → String)
  (found : Option Route),
  Outcome go lib render (httpRoutesOf s.store) r found ↔
   Outcome go lib render (routesOf s.store) r found

def OwnsKey (s : RouteCluster) (o : RouteObject) : Prop :=
 ∀ w, s.store.proxyRoutes.find? o.proxyKey = some w → w.owners = [o.ownerRef]

def KeepsOut (hostnames : List String) (r : RouteRequest) : Prop :=
 hostnames ≠ [] ∧ ∀ h ∈ hostnames, matchHost (compileHost h) r.host = false

/-- For TCP and TLS, host names are all there is to match. -/
structure KeepsApart (s : RouteCluster) (r : RouteRequest) (o : RouteObject) : Prop where
 hosts : o.isL4 = true → o.ruleCount ≠ 0 → KeepsOut o.hostnames r
 names : ∀ w ∈ s.store.proxyRoutes.values, w.isL4 ≠ o.isL4 → w.spec.name ≠ o.proxyKey.2

def InOrder (r : RouteRequest) (s : RouteCluster) : RouteEvent → Prop
 | .reconcile id _ _ _ => ∀ l, s.objects.find? id = some l →
   OwnsKey s l.object ∧ KeepsApart s r l.object
 | .delete id => ∀ l, s.objects.find? id = some l → OwnsKey s l.object
 | _ => True

structure Stored (r : RouteRequest) (key : ObjectKey) (w : Written ProxyRoute) : Prop where
 source : ∃ o : RouteObject, o.proxyKey = key ∧ o.translate = .ok w
 hosts : w.isL4 = true → w.spec.rules ≠ [] → KeepsOut w.spec.hostnames r

structure Settled (r : RouteRequest) (s : RouteCluster) : Prop where
 ids : ∀ id l, s.objects.find? id = some l → l.object.id = id
 derived : ∀ id l, s.objects.find? id = some l → l.derived = true →
  ∃ w, l.object.translate = .ok w ∧ s.store.proxyRoutes.find? l.object.proxyKey = some w
 stored : ∀ key w, s.store.proxyRoutes.find? key = some w → Stored r key w
 names : ∀ key w key' w', s.store.proxyRoutes.find? key = some w →
  s.store.proxyRoutes.find? key' = some w' → w.isL4 ≠ w'.isL4 → w.spec.name ≠ w'.spec.name

section
variable {r : RouteRequest} {s : RouteCluster}

variable {o : RouteObject} {w : Written ProxyRoute}

lemma id_eq_of_ownsKey {o' : RouteObject} (ho : OwnsKey s o) (hk : o'.proxyKey = o.proxyKey)
  (hw : o'.translate = .ok w) (hf : s.store.proxyRoutes.find? o'.proxyKey = some w) :
  o'.id = o.id := by
 have hn : [o'.ownerRef] = [o.ownerRef] := by
  rw [← (derivedFrom_of_translate hw).owners]
  exact ho w (hk ▸ hf)
 exact id_eq_of_ownerRef (singleton_inj.mp hn) hk

lemma upsertRoute_eq_set (how : OwnsKey s o) (hw : o.translate = .ok w) :
  upsertRoute s.store.proxyRoutes o.proxyKey w = s.store.proxyRoutes.set o.proxyKey w := by
 unfold upsertRoute
 cases ho : s.store.proxyRoutes.find? o.proxyKey with
 | none => rfl
 | some old =>
  have hn : old.owners = w.owners := (how old ho).trans (derivedFrom_of_translate hw).owners.symm
  simp only [hn]

lemma Settled.deleteRoute (h : Settled r s) {key : ObjectKey} {obs : KeyedMap RouteId LiveRoute}
  (hk : ∀ id l, obs.find? id = some l →
   s.objects.find? id = some l ∧ (l.derived = true → l.object.proxyKey ≠ key)) :
  Settled r { objects := obs, store := deleteRoute s.store key } := by
 have hf : ∀ key' w, (s.store.proxyRoutes.delete key).find? key' = some w →
   s.store.proxyRoutes.find? key' = some w :=
  fun _ _ hw => (find?_delete_eq_some_iff.mp hw).2
 constructor
 · intro id l hl
   exact h.ids id l (hk id l hl).1
 · intro id l hl hde
   obtain ⟨ho,hn⟩ := hk id l hl
   obtain ⟨w,hw,ht⟩ := h.derived id l ho hde
   refine ⟨w,hw,?_⟩
   change (s.store.proxyRoutes.delete key).find? l.object.proxyKey = some w
   rw [find?_delete_ne _ (hn hde)]
   exact ht
 · intro key' w hw
   exact h.stored key' w (hf key' w hw)
 · intro key₁ w₁ key₂ w₂ hw₁ hw₂
   exact h.names key₁ w₁ key₂ w₂ (hf key₁ w₁ hw₁) (hf key₂ w₂ hw₂)

variable {st : ClusterStore}

lemma Settled.withObjects (h : Settled r s) {obs : KeyedMap RouteId LiveRoute}
  (hid : ∀ id l, obs.find? id = some l → l.object.id = id)
  (hde : ∀ id l, obs.find? id = some l → l.derived = true →
   s.objects.find? id = some l) (ht : st.proxyRoutes = s.store.proxyRoutes) :
  Settled r { objects := obs, store := st } where
 ids := hid
 derived id l hl hd := by
  rw [ht]
  exact h.derived id l (hde id l hl hd) hd
 stored key w hw := h.stored key w (ht ▸ hw)
 names key w key' w' hw hw' := h.names key w key' w' (ht ▸ hw) (ht ▸ hw')

variable {id : RouteId}

lemma Settled.setObject (h : Settled r s) (hid : o.id = id)
  (ht : st.proxyRoutes = s.store.proxyRoutes) :
  Settled r { objects := s.objects.set id { object := o }, store := st } := by
 refine h.withObjects ?_ ?_ ht
 · intro id' l hl
   rcases find?_set_eq_some_iff.mp hl with ⟨rfl,rfl⟩ | ⟨-,ho⟩
   · exact hid
   · exact h.ids id' l ho
 · intro id' l hl hde
   rcases find?_set_eq_some_iff.mp hl with ⟨-,rfl⟩ | ⟨-,ho⟩
   · cases hde
   · exact ho

variable {l : LiveRoute}

/-- Another object with its route under the key would be the owner of what is there. -/
lemma Settled.proxyKey_ne (h : Settled r s) {id' : RouteId} {l' : LiveRoute}
  (hl : s.objects.find? id = some l) (ho : OwnsKey s l.object)
  (hl' : s.objects.find? id' = some l') (hde : l'.derived = true) (hn : id' ≠ id) :
  l'.object.proxyKey ≠ l.object.proxyKey := by
 intro hk
 obtain ⟨w,hw,ht⟩ := h.derived id' l' hl' hde
 have ha := id_eq_of_ownsKey ho hk hw ht
 rw [h.ids id' l' hl',h.ids id l hl] at ha
 exact hn ha

lemma stored_of_translate (ha : KeepsApart s r o) (hw : o.translate = .ok w) :
  Stored r o.proxyKey w := by
 have hf := derivedFrom_of_translate hw
 refine ⟨⟨o,rfl,hw⟩,fun hl hr => ?_⟩
 rw [hf.hostnames]
 refine ha.hosts (hf.isL4 ▸ hl) ?_
 rw [← hf.ruleCount]
 exact fun hz => hr (length_eq_zero_iff.mp hz)

lemma Settled.writeRoute (h : Settled r s) (hl : s.objects.find? id = some l)
  (how : OwnsKey s l.object) (ha : KeepsApart s r l.object) (hw : l.object.translate = .ok w)
  (ht : st.proxyRoutes = s.store.proxyRoutes.set l.object.proxyKey w) :
  Settled r { objects := s.objects.set id { l with derived := true }, store := st } := by
 have hna : w.spec.name = l.object.proxyKey.2 :=
  congrArg Prod.snd (derivedFrom_of_translate hw).key
 have his := (derivedFrom_of_translate hw).isL4
 constructor
 · intro id' l' hl'
   rcases find?_set_eq_some_iff.mp hl' with ⟨rfl,rfl⟩ | ⟨-,ho⟩
   · exact h.ids id' l hl
   · exact h.ids id' l' ho
 · intro id' l' hl' hde
   rw [ht]
   rcases find?_set_eq_some_iff.mp hl' with ⟨-,rfl⟩ | ⟨hid,ho⟩
   · exact ⟨w,hw,find?_set_self _ _ _⟩
   · obtain ⟨w',hw',hso⟩ := h.derived id' l' ho hde
     have hk := h.proxyKey_ne hl how ho hde hid
     exact ⟨w',hw',(find?_set_ne _ _ hk).trans hso⟩
 · intro key w' hw'
   rcases find?_set_eq_some_iff.mp (ht ▸ hw') with ⟨rfl,rfl⟩ | ⟨-,ho⟩
   · exact stored_of_translate ha hw
   · exact h.stored key w' ho
 · have hn : ∀ key w', s.store.proxyRoutes.find? key = some w' → w'.isL4 ≠ w.isL4 →
     w'.spec.name ≠ w.spec.name := by
    intro key w' hw' hne
    rw [hna]
    exact ha.names w' (mem_values_iff.mpr ⟨key,hw'⟩) (his ▸ hne)
   intro key₁ w₁ key₂ w₂ hw₁ hw₂ hne
   rcases find?_set_eq_some_iff.mp (ht ▸ hw₁) with ⟨-,rfl⟩ | ⟨-,hold₁⟩ <;>
    rcases find?_set_eq_some_iff.mp (ht ▸ hw₂) with ⟨-,rfl⟩ | ⟨-,hold₂⟩
   · exact absurd rfl hne
   · exact (hn key₂ w₂ hold₂ hne.symm).symm
   · exact hn key₁ w₁ hold₁ hne
   · exact h.names key₁ w₁ key₂ w₂ hold₁ hold₂ hne

lemma Settled.not_isGarbage (h : Settled r s) (hl : s.objects.find? id = some l)
  (hde : l.derived = true) (hw : s.store.proxyRoutes.find? l.object.proxyKey = some w) :
  s.isGarbage l.object.proxyKey w = false := by
 obtain ⟨w',ht,hst⟩ := h.derived id l hl hde
 obtain rfl := mem_unique hw hst
 have hg : s.ownerGone l.object.proxyKey.1 l.object.ownerRef = false := by
  rw [ownerGone,all_eq_false]
  refine ⟨l,mem_values_iff.mpr ⟨id,hl⟩,?_⟩
  simp [proxyKey_fst]
 simp [isGarbage,(derivedFrom_of_translate ht).owners,hg]

lemma settled_step (h : Settled r s) {e : RouteEvent} (hok : InOrder r s e) :
  Settled r (s.step e) := by
 cases e with
 | edit o => exact h.setObject rfl rfl
 | reconcile id api order prior =>
  cases hl : s.objects.find? id with
  | none => simpa only [step,hl] using h
  | some l =>
   obtain ⟨how,ha⟩ := hok l hl
   simp only [step,hl]
   rcases reconcile_writes l.object with ⟨hwr,hr⟩ | ⟨w,hw,hwr,hr⟩
   · rw [hwr]
     exact h.setObject (h.ids id l hl) hr
   · rw [hwr]
     refine h.writeRoute hl how ha hw ?_
     rw [hr,upsertRoute_eq_set how hw]
 | delete id =>
  cases hl : s.objects.find? id with
  | none => simpa only [step,hl] using h
  | some l =>
   simp only [step,hl]
   refine h.deleteRoute ?_
   intro id' l' hl'
   obtain ⟨hid,ho⟩ := find?_delete_eq_some_iff.mp hl'
   exact ⟨ho,fun hde => h.proxyKey_ne hl (hok l hl) ho hde hid⟩
 | vanish id =>
  refine h.withObjects ?_ ?_ rfl
  · intro id' l hl
    exact h.ids id' l (find?_delete_eq_some_iff.mp hl).2
  · intro id' l hl _
    exact (find?_delete_eq_some_iff.mp hl).2
 | collect key =>
  cases hw : s.store.proxyRoutes.find? key with
  | none => simpa only [step,hw] using h
  | some w =>
   simp only [step,hw]
   split_ifs with hg
   · refine h.deleteRoute fun id l hl => ⟨hl,fun hde hk => ?_⟩
     subst hk
     simp [h.not_isGarbage hl hde hw] at hg
   · exact h

lemma settled_init (r : RouteRequest) : Settled r {} where
 ids id l hl := absurd hl (by simp)
 derived id l hl := absurd hl (by simp)
 stored key w hw := absurd hw (by simp)
 names key w key' w' hw := absurd hw (by simp)

lemma Settled.httpRoutesOf_eq (h : Settled r s) : httpRoutesOf s.store =
  (routesOf s.store).filter fun p =>
   !s.store.proxyRoutes.values.any fun w => w.isL4 && w.spec.name = p.name := by
 rw [httpRoutesOf,routesOf,filter_map]
 congr 1
 refine filter_congr fun w hw => ?_
 obtain ⟨key,hk⟩ := mem_values_iff.mp hw
 cases hl : w.isL4 with
 | true =>
  have ha : (s.store.proxyRoutes.values.any fun w' =>
    w'.isL4 && w'.spec.name = w.spec.name) = true := by
   rw [any_eq_true]
   exact ⟨w,hw,by simp [hl]⟩
  simp [ha]
 | false =>
  have hn : (s.store.proxyRoutes.values.any fun w' =>
    w'.isL4 && w'.spec.name = w.spec.name) = false := by
   rw [any_eq_false]
   intro w' hw' hsa
   obtain ⟨key',hk'⟩ := mem_values_iff.mp hw'
   simp only [Bool.and_eq_true,decide_eq_true_eq] at hsa
   exact h.names key' w' key w hk' hk (by simp [hl,hsa.1]) hsa.2
  simp [hn]

lemma Settled.undisturbed (h : Settled r s) : Undisturbed s r where
 derived := h.derived
 matched go lib render found := by
  rw [h.httpRoutesOf_eq]
  refine outcome_filter_iff (fun name => !s.store.proxyRoutes.values.any fun w =>
   w.isL4 && w.spec.name = name) ?_ found
  intro p hp hr hu ha
  obtain ⟨w,hw,rfl⟩ := mem_map.mp hp
  obtain ⟨key,hk⟩ := mem_values_iff.mp hw
  -- Another route of the name is for TCP or TLS, and hence so is this one.
  have hl : w.isL4 = true := by
   simp only [Bool.not_eq_false',any_eq_true,Bool.and_eq_true,decide_eq_true_eq] at hr
   obtain ⟨w',hw',hl',hna⟩ := hr
   obtain ⟨key',hk'⟩ := mem_values_iff.mp hw'
   by_contra hne
   exact h.names key' w' key w hk' hk (by simp [hl',hne]) hna
  obtain ⟨hh,ho⟩ := (h.stored key w hk).hosts hl hu
  rcases ha with hn | ⟨host,hm,hma⟩
  · exact hh hn
  · simp [ho host hm] at hma

end

/-- In every run whose steps are in order for a request, routes do not interfere. -/
theorem routes_undisturbed {r : RouteRequest} {s : RouteCluster}
  (h : (routeSystem.restrict (InOrder r)).Reachable s) : Undisturbed s r := by
 have hn : ∀ s, (routeSystem.restrict (InOrder r)).init s → Settled r s := by
  intro s hs
  rw [show s = {} from hs]
  exact settled_init r
 have hse : ∀ s e t, Settled r s → (routeSystem.restrict (InOrder r)).step s e t →
   Settled r t := by
  intro s e t hs ⟨ht,ho⟩
  rw [show t = s.step e from ht]
  exact settled_step hs ho
 exact (h.invariant hn hse).undisturbed

def settle (o : RouteObject) (order : List (String × BackendRef)) : List RouteEvent :=
 [.edit o,.reconcile o.id edgeApi order []]

def webObject : RouteObject := .backed (.http webRoute)

def vaultRoute : TLSRoute where
 name := "vault"
 ns := "shop"
 hostnames := ["vault.example"]
 rules := [{ backendRefs := [{ name := "vault" }] }]

def webTCPRoute : TCPRoute where
 name := "web"
 ns := "shop"
 rules := [{ backendRefs := [{ name := "db" }] }]

def runOf (events : List RouteEvent) : RouteCluster := events.foldl RouteCluster.step {}

lemma reachable_runOf (evs : List RouteEvent) : routeSystem.Reachable (runOf evs) := by
 have hr : routeSystem.Reachable {} := .start rfl
 exact hr.foldl (along_true _ _ evs) fun _ _ _ => rfl

def vaultRun : List RouteEvent :=
 settle webObject (BackedRoute.tableOrder (.http webRoute)) ++ settle (.tls vaultRoute) []

theorem vault_undisturbed : Undisturbed (runOf vaultRun) { host := "shop.example" } := by
 have ho : Along step (InOrder { host := "shop.example" }) {}
   vaultRun := by
  refine ⟨trivial,?_,trivial,?_,trivial⟩
  · intro l hl
    obtain rfl := Option.some.inj (show some { object := webObject } = some l from hl)
    refine ⟨fun w hw => ?_,fun h4 => absurd h4 (by decide),fun w hw => ?_⟩
    · exact absurd (show none = some w from hw) (by simp)
    · exact absurd (show w ∈ [] from hw) (by simp)
  · intro l hl
    obtain rfl := Option.some.inj (show some { object := .tls vaultRoute } = some l from hl)
    refine ⟨fun w hw => ?_,fun _ _ => ⟨by decide,by decide⟩,fun w hw _ hn => ?_⟩
    · exact absurd (show none = some w from hw) (by simp)
    · have hm := mem_map_of_mem (f := fun w => w.spec.name) hw
      have hwe : w.spec.name = "web" := mem_singleton.mp hm
      exact absurd (hwe.symm.trans hn) (by decide)
 have hr : (routeSystem.restrict (InOrder { host := "shop.example" })).Reachable
   (runOf vaultRun) := .foldl (.start rfl) ho fun _ _ hk => ⟨rfl,hk⟩
 exact routes_undisturbed hr

/-- It replaces the HTTP route of its name, and by itself takes a request for HTTP. -/
theorem tcp_route_disturbs :
  (∃ s l, routeSystem.Reachable s ∧ s.objects.find? webObject.id = some l ∧ l.derived = true ∧
   ∀ w, l.object.translate = .ok w → s.store.proxyRoutes.find? l.object.proxyKey ≠ some w) ∧
  ∃ s m, routeSystem.Reachable s ∧
   Outcome ⟨fun _ => none,fun _ => ""⟩ Dataplane.noRegex (fun _ => "") (routesOf s.store) {}
    (some m) ∧
   ¬ Outcome ⟨fun _ => none,fun _ => ""⟩ Dataplane.noRegex (fun _ => "")
    (httpRoutesOf s.store) {} (some m) := by
 refine ⟨⟨runOf (settle webObject (BackedRoute.tableOrder (.http webRoute)) ++
  settle (.tcp webTCPRoute) []),{ object := webObject, derived := true },
  reachable_runOf _,rfl,rfl,?_⟩,runOf (settle (.tcp webTCPRoute) []),_,
  reachable_runOf _,Dataplane.outcome_some_iff.mpr ⟨_,⟨List.Perm.refl _,pairwise_singleton _ _⟩,_,
    Dataplane.effectiveIn_singleton (.head _),rfl,by decide⟩,?_⟩
 · intro w hw ht
   have hl : some true = some w.isL4 := congrArg (Option.map Written.isL4) ht
   rw [(derivedFrom_of_translate hw).isL4] at hl
   cases hl
 · intro h
   obtain ⟨lst,⟨hp,-⟩,rs,hr,-⟩ := Dataplane.outcome_some_iff.mp h
   obtain ⟨rt,hrt,-⟩ := hr.exists_mem
   exact absurd (show rt ∈ [] from hp.mem_iff.mp hrt) (by simp)

end NovaEdge.GatewayApi
