import NovaEdge.GatewayApiTranslator

/-! The reconcilers of the Gateway API's routes. They read gateways and services, write routes and
backends of the controller, and report conditions for the parents of the route. -/
namespace NovaEdge.GatewayApi
open List V1alpha1

inductive Got (α : Type)
 | found (a : α)
 | notFound
 | failed (text : String)

/-- A write succeeds if there is no error text; a backend is read before it is written. -/
structure ApiServer where
 gateway : ObjectKey → Got Gateway
 service : ObjectKey → Got Unit
 backendError : ObjectKey → Option String := fun _ => none
 readsRoute : ObjectKey → Bool := fun _ => true
 routeError : ObjectKey → Option String := fun _ => none
 writesStatus : Bool := true
 /-- The text of an error. That of an unknown type of match shows a pointer. -/
 errorText : TranslateError → String := fun _ => ""

structure ClusterStore where
 proxyRoutes : KeyedMap ObjectKey (Written ProxyRoute) := ∅
 proxyBackends : KeyedMap ObjectKey (Written ProxyBackend) := ∅

def upsertRoute (store : KeyedMap ObjectKey (Written ProxyRoute)) (key : ObjectKey)
  (new : Written ProxyRoute) : KeyedMap ObjectKey (Written ProxyRoute) :=
 store.set key (match store.find? key with
  | some old => { new with owners := old.owners }
  | none => new)

def upsertBackend (store : KeyedMap ObjectKey (Written ProxyBackend)) (key : ObjectKey)
  (new : Written ProxyBackend) : KeyedMap ObjectKey (Written ProxyBackend) :=
 store.set key (match store.find? key with
  | some old => { new with owners := old.owners, labels := old.labels }
  | none => new)

structure Condition where
 type : String
 status : Bool
 (reason message : String)

structure ParentStatus where
 parentRef : ParentReference
 conditions : List Condition := []

def setStatusCondition (conditions : List Condition) (c : Condition) : List Condition :=
 if conditions.any fun d => d.type = c.type then
  conditions.map fun d => if d.type = c.type then c else d
 else conditions ++ [c]

def ParentStatus.set (c : Condition) (s : ParentStatus) : ParentStatus :=
 { s with conditions := setStatusCondition s.conditions c }

def newAcceptedCondition (status : Bool) (reason message : String) : Condition :=
 ⟨"Accepted",status,reason,message⟩

def resolvedRefsCondition (status : Bool) (reason message : String) : Condition :=
 ⟨"ResolvedRefs",status,reason,message⟩

def shownConditions (statuses : List ParentStatus) : List (ParentReference × Condition) :=
 statuses.flatMap fun s => s.conditions.map (s.parentRef,·)

section
variable (api : ApiServer)

def ApiServer.report (conditions : List (ParentReference × Condition)) :
  List (ParentReference × Condition) :=
 if api.writesStatus then conditions else []

def ApiServer.writesRoute (key : ObjectKey) : Bool := api.readsRoute key && api.routeError key = none

def ParentReference.kindText (ref : ParentReference) : String := ref.kind.getD "Gateway"

def ParentReference.gatewayKey (ref : ParentReference) (routeNs : String) : ObjectKey :=
 (ref.ns.getD routeNs,ref.name)

/-- There is no status for gateways of other classes. -/
def parentStatus (routeNs : String) (ref : ParentReference) : Option ParentStatus × Bool :=
 let status (accepted : Bool) (reason message : String) : Option ParentStatus :=
  some ⟨ref,[newAcceptedCondition accepted reason message]⟩
 let key := ref.gatewayKey routeNs
 if ref.kindText ≠ "Gateway" then
  (status false "NotAllowedByListeners" ("Unsupported parent kind: " ++ ref.kindText),false)
 else match api.gateway key with
  | .failed text => (status false "GatewayError" ("Failed to get Gateway: " ++ text),false)
  | .notFound =>
   (status false "GatewayNotFound" ("Gateway " ++ key.1 ++ "/" ++ key.2 ++ " not found"),false)
  | .found gw =>
   if gw.gatewayClassName ≠ novaEdgeGatewayClassName then (none,false)
   else match ref.sectionName.filter fun s => gw.listeners.all fun lis => lis.name ≠ s with
    | some s => (status false "NoMatchingParent" ("No listener matches SectionName " ++ s),true)
    | none => (status true "Accepted" "HTTPRoute has been accepted",true)

def buildParentStatuses (route : HTTPRoute) : List ParentStatus × Bool :=
 (route.parentRefs.filterMap fun ref => (parentStatus api route.ns ref).1,
  route.parentRefs.any fun ref => (parentStatus api route.ns ref).2)

def GRPCRoute.hasNovaEdgeGateway (route : GRPCRoute) : Bool :=
 route.parentRefs.any fun ref => ref.kindText = "Gateway" &&
  match api.gateway (ref.gatewayKey route.ns) with
  | .found gw => gw.gatewayClassName = novaEdgeGatewayClassName
  | _ => false

def BackendRef.isService (b : BackendRef) : Bool :=
 match b.kind with
 | none => true
 | some kind => kind = "Service"

/-- Of references that give one name, the last one counts. -/
def serviceBackends (routeNs : String) (refs : List BackendRef) : KeyedMap String BackendRef :=
 refs.foldl (fun acc b => if b.isService then acc.set (b.proxyBackendName routeNs) b else acc) ∅

def proxyBackendOf (m : ObjectMeta) (kind name : String) (b : BackendRef) :
  Written ProxyBackend where
 spec := { name := name, ns := b.namespaceIn m.ns
           serviceRef := some { name := b.name, port := b.portNumber.1 }
           lbPolicy := .roundRobin }
 annotations := (∅ : KeyedMap String String).set ownerAnnotation (m.ownerText kind)
 owners := [m.ownerRef kind]

structure BackendRun where
 backends : KeyedMap ObjectKey (Written ProxyBackend)
 written : List ObjectKey := []
 error : Option String := none

def BackendRun.resolvedRefs (run : BackendRun) : Condition :=
 match run.error with
 | none => resolvedRefsCondition true "ResolvedRefs" "All backend references have been resolved"
 | some text => resolvedRefsCondition false "BackendNotFound"
  ("Backend reconciliation failed: " ++ text)

def writeBackends (m : ObjectMeta) (kind : String) : List (String × BackendRef) →
  KeyedMap ObjectKey (Written ProxyBackend) → BackendRun
 | [], backends => { backends := backends }
 | (name,b)::rest, backends =>
  let ns := b.namespaceIn m.ns
  match api.service (ns,b.name) with
  | .notFound =>
   { backends := backends, error := some ("service: " ++ ns ++ "/" ++ b.name ++ " not found") }
  | .failed text => { backends := backends, error := some text }
  | .found _ => match api.backendError (ns,name) with
   | some text => { backends := backends, error := some text }
   | none =>
    let run := writeBackends m kind rest
     (upsertBackend backends (ns,name) (proxyBackendOf m kind name b))
    { run with written := (ns,name)::run.written }

structure Reconciled where
 store : ClusterStore
 writtenBackends : List ObjectKey := []
 routeWritten : Bool := false
 conditions : List (ParentReference × Condition) := []

def HTTPRoute.serviceRefs (route : HTTPRoute) : List BackendRef :=
 route.rules.flatMap fun rule => rule.backendRefs.map HTTPBackendRef.toBackendRef

def GRPCRoute.serviceRefs (route : GRPCRoute) : List BackendRef :=
 route.rules.flatMap GRPCRouteRule.backendRefs

/-- Backends that fail are reported, and the route is written all the same. -/
def reconcileHTTPRoute (order : List (String × BackendRef)) (route : HTTPRoute)
  (store : ClusterStore) : Reconciled :=
 let statuses := (buildParentStatuses api route).1
 if (buildParentStatuses api route).2 = false then { store := store }
 else match translateHTTPRouteToProxyRoute route with
  | .error e =>
   { store := store
     conditions := api.report (shownConditions (statuses.map (ParentStatus.set
      (newAcceptedCondition false "TranslationFailed"
       ("Translation failed: " ++ api.errorText e))))) }
  | .ok proxyRoute =>
   let run := writeBackends api route.toObjectMeta "HTTPRoute" order store.proxyBackends
   let store := { store with proxyBackends := run.backends }
   if api.writesRoute route.key = false then
    { store := store, writtenBackends := run.written }
   else
    { store :=
       { store with
         proxyRoutes := upsertRoute store.proxyRoutes route.key proxyRoute }
      writtenBackends := run.written
      routeWritten := true
      conditions := api.report (shownConditions
       (statuses.map (ParentStatus.set run.resolvedRefs))) }

/-- Errors are set on the parents of the status so far, `prior`. -/
def reconcileGRPCRoute (order : List (String × BackendRef)) (prior : List ParentStatus)
  (route : GRPCRoute) (store : ClusterStore) : Reconciled :=
 let failure (reason message : String) : List (ParentReference × Condition) :=
  api.report (prior.map fun s => (s.parentRef,newAcceptedCondition false reason message))
 let key : ObjectKey := (route.ns,route.proxyName)
 if route.hasNovaEdgeGateway api = false then { store := store }
 else match translateGRPCRouteToProxyRoute route with
  | .error e =>
   { store := store
     conditions := failure "Invalid" ("Translation failed: " ++ api.errorText e) }
  | .ok proxyRoute =>
   let run := writeBackends api route.toObjectMeta "GRPCRoute" order store.proxyBackends
   let store := { store with proxyBackends := run.backends }
   match run.error with
   | some text =>
    { store := store, writtenBackends := run.written
      conditions := failure "BackendNotFound" ("Backend reconciliation failed: " ++ text) }
   | none =>
    if api.writesRoute key = false then
     { store := store, writtenBackends := run.written
       conditions := match api.readsRoute key, api.routeError key,
         store.proxyRoutes.find? key with
        | true, some text, none =>
         failure "CreationFailed" ("Failed to create ProxyRoute: " ++ text)
        | true, some text, some _ =>
         failure "UpdateFailed" ("Failed to update ProxyRoute: " ++ text)
        | _, _, _ => [] }
    else
     { store :=
        { store with
          proxyRoutes := upsertRoute store.proxyRoutes key proxyRoute }
       writtenBackends := run.written
       routeWritten := true
       conditions := api.report (shownConditions (route.parentRefs.map fun ref =>
        ⟨ref,[newAcceptedCondition true "Accepted"
          "GRPCRoute has been accepted and translated to ProxyRoute",
         resolvedRefsCondition true "ResolvedRefs"
          "All gRPC backend references have been resolved"]⟩)) }

/-- Translated whatever the parents are; the condition is set on the first of the status. -/
def reconcileL4Route (m : ObjectMeta) (kind : String)
  (translated : Translated (Written ProxyRoute)) (prior : List ParentStatus)
  (store : ClusterStore) : Reconciled :=
 let report (c : Condition) : List (ParentReference × Condition) :=
  api.report [((prior.head?.map ParentStatus.parentRef).getD { name := "" },c)]
 match translated with
 | .error e =>
  { store := store
    conditions := report (newAcceptedCondition false "Invalid"
     ("Translation failed: " ++ api.errorText e)) }
 | .ok proxyRoute =>
  if api.writesRoute m.key = false then { store := store }
  else
   { store := { store with proxyRoutes := upsertRoute store.proxyRoutes m.key proxyRoute }
     routeWritten := true
     conditions := report (newAcceptedCondition true "Accepted"
      (kind ++ " accepted and translated to ProxyRoute")) }

def reconcileTCPRoute (route : TCPRoute) : List ParentStatus → ClusterStore → Reconciled :=
 reconcileL4Route api route.toObjectMeta "TCPRoute" (translateTCPRouteToProxyRoute route)

def reconcileTLSRoute (route : TLSRoute) : List ParentStatus → ClusterStore → Reconciled :=
 reconcileL4Route api route.toObjectMeta "TLSRoute" (translateTLSRouteToProxyRoute route)

end

def Reconciled.ReportsResolved (run : Reconciled) : Prop :=
 ∃ p ∈ run.conditions, p.2.type = "ResolvedRefs" ∧ p.2.status = true

structure Reconciled.Stops (run : Reconciled) (store : ClusterStore) : Prop where
 routeWritten : run.routeWritten = false
 proxyRoutes : run.store.proxyRoutes = store.proxyRoutes
 unresolved : ¬ run.ReportsResolved

structure Reconciled.Completes (run : Reconciled) (store : ClusterStore) (key : ObjectKey)
  (w : Written ProxyRoute) (backends : BackendRun) : Prop where
 routeWritten : run.routeWritten = true
 proxyRoutes : run.store.proxyRoutes = upsertRoute store.proxyRoutes key w
 proxyBackends : run.store.proxyBackends = backends.backends
 writtenBackends : run.writtenBackends = backends.written
 resolved : run.ReportsResolved → backends.error = none

attribute [local simp] Reconciled.ReportsResolved

section
variable {api : ApiServer}

variable {p : ParentReference × Condition}

lemma mem_of_mem_report {con : List (ParentReference × Condition)}
  (h : p ∈ api.report con) : p ∈ con := by
 unfold ApiServer.report at h
 split_ifs at h
 · exact h
 · simp at h

lemma of_mem_shownConditions_set {sta : List ParentStatus} {c : Condition}
  (h : p ∈ shownConditions (sta.map (ParentStatus.set c))) : p.2 = c ∨ p ∈ shownConditions sta := by
 obtain ⟨s',hs',hp⟩ := mem_flatMap.mp h
 obtain ⟨s,hs,rfl⟩ := mem_map.mp hs'
 obtain ⟨d,hd,rfl⟩ := mem_map.mp hp
 have hse : d = c ∨ d ∈ s.conditions := by
  simp only [ParentStatus.set,setStatusCondition] at hd
  split_ifs at hd
  · obtain ⟨d',hd',rfl⟩ := mem_map.mp hd
    split_ifs
    · exact .inl rfl
    · exact .inr hd'
  · rcases mem_append.mp hd with hd | hd
    · exact .inr hd
    · exact .inl (mem_singleton.mp hd)
 rcases hse with rfl | hd
 · exact .inl rfl
 · exact .inr (mem_flatMap.mpr ⟨s,hs,mem_map_of_mem hd⟩)

lemma type_of_parentStatus {ns : String} {ref : ParentReference} {s : ParentStatus}
  (h : (parentStatus api ns ref).1 = some s) {c : Condition} (hc : c ∈ s.conditions) :
  c.type = "Accepted" := by
 have ho : ∀ {accepted : Bool} {reason msg : String},
   some (ParentStatus.mk ref [newAcceptedCondition accepted reason msg]) = some s →
    c.type = "Accepted" := by
  intro accepted reason msg hs
  cases hs
  rw [mem_singleton.mp hc]
  rfl
 unfold parentStatus at h
 dsimp only at h
 split_ifs at h
 · exact ho h
 · split at h
   · exact ho h
   · exact ho h
   · split_ifs at h
     split at h <;> exact ho h

lemma type_of_buildParentStatuses {rt : HTTPRoute}
  (h : p ∈ shownConditions (buildParentStatuses api rt).1) : p.2.type = "Accepted" := by
 obtain ⟨s,hs,hp⟩ := mem_flatMap.mp h
 obtain ⟨c,hc,rfl⟩ := mem_map.mp hp
 obtain ⟨ref,-,ht⟩ := mem_filterMap.mp hs
 exact type_of_parentStatus ht hc

variable {ord : List (String × BackendRef)} {sto : ClusterStore}

lemma reconcileHTTPRoute_cases (rt : HTTPRoute) : (reconcileHTTPRoute api ord rt sto).Stops sto ∨
   ∃ w, translateHTTPRouteToProxyRoute rt = .ok w ∧
    (reconcileHTTPRoute api ord rt sto).Completes sto rt.key w
     (writeBackends api rt.toObjectMeta "HTTPRoute" ord sto.proxyBackends) := by
 unfold reconcileHTTPRoute
 by_cases ha : (buildParentStatuses api rt).2 = false
 · rw [if_pos ha]
   exact .inl ⟨rfl,rfl,by simp⟩
 · rw [if_neg ha]
   cases hw : translateHTTPRouteToProxyRoute rt with
   | error e =>
    refine .inl ⟨rfl,rfl,?_⟩
    rintro ⟨p,hp,ht,-⟩
    rcases of_mem_shownConditions_set (mem_of_mem_report hp) with hse | hb
    · simp [hse,newAcceptedCondition] at ht
    · rw [type_of_buildParentStatuses hb] at ht
      exact absurd ht (by decide)
   | ok w =>
    dsimp only
    by_cases hr : api.writesRoute rt.key = false
    · rw [if_pos hr]
      exact .inl ⟨rfl,rfl,by simp⟩
    · rw [if_neg hr]
      refine .inr ⟨w,rfl,rfl,rfl,rfl,rfl,?_⟩
      rintro ⟨p,hp,ht,hst⟩
      rcases of_mem_shownConditions_set (mem_of_mem_report hp) with hse | hb
      · rw [hse,BackendRun.resolvedRefs] at hst
        split at hst
        · assumption
        · simp [resolvedRefsCondition] at hst
      · rw [type_of_buildParentStatuses hb] at ht
        exact absurd ht (by decide)

lemma not_reportsResolved_of_prior {run : Reconciled} {pri : List ParentStatus}
  {rea msg : String} (h : run.conditions = api.report
   (pri.map fun s => (s.parentRef,newAcceptedCondition false rea msg))) :
  ¬ run.ReportsResolved := by
 rintro ⟨p,hp,ht,-⟩
 rw [h] at hp
 obtain ⟨s,-,rfl⟩ := mem_map.mp (mem_of_mem_report hp)
 simp [newAcceptedCondition] at ht

lemma reconcileGRPCRoute_cases (pri : List ParentStatus) (rt : GRPCRoute) :
  (reconcileGRPCRoute api ord pri rt sto).Stops sto ∨
   ∃ w, translateGRPCRouteToProxyRoute rt = .ok w ∧
    (reconcileGRPCRoute api ord pri rt sto).Completes sto (rt.ns,rt.proxyName) w
     (writeBackends api rt.toObjectMeta "GRPCRoute" ord sto.proxyBackends) := by
 unfold reconcileGRPCRoute
 by_cases hp : rt.hasNovaEdgeGateway api = false
 · rw [if_pos hp]
   exact .inl ⟨rfl,rfl,by simp⟩
 · rw [if_neg hp]
   cases hw : translateGRPCRouteToProxyRoute rt with
   | error e => exact .inl ⟨rfl,rfl,not_reportsResolved_of_prior rfl⟩
   | ok w =>
    dsimp only
    cases her : (writeBackends api rt.toObjectMeta "GRPCRoute" ord
      sto.proxyBackends).error with
    | some text => exact .inl ⟨rfl,rfl,not_reportsResolved_of_prior rfl⟩
    | none =>
     dsimp only
     by_cases hr : api.writesRoute (rt.ns,rt.proxyName) = false
     · rw [if_pos hr]
       refine .inl ⟨rfl,rfl,?_⟩
       split
       · exact not_reportsResolved_of_prior rfl
       · exact not_reportsResolved_of_prior rfl
       · simp
     · rw [if_neg hr]
       exact .inr ⟨w,rfl,rfl,rfl,rfl,rfl,fun _ => her⟩

def Reconciled.Writes (run : Reconciled) (store : ClusterStore) (key : ObjectKey)
  (translated : Translated (Written ProxyRoute)) : Prop :=
 run.routeWritten = false ∧ run.store.proxyRoutes = store.proxyRoutes ∨
  ∃ w, translated = .ok w ∧ run.routeWritten = true ∧
   run.store.proxyRoutes = upsertRoute store.proxyRoutes key w

lemma reconcileHTTPRoute_writes (rt : HTTPRoute) :
  (reconcileHTTPRoute api ord rt sto).Writes sto rt.key (translateHTTPRouteToProxyRoute rt) := by
 rcases reconcileHTTPRoute_cases rt with h | ⟨w,hw,h⟩
 · exact .inl ⟨h.routeWritten,h.proxyRoutes⟩
 · exact .inr ⟨w,hw,h.routeWritten,h.proxyRoutes⟩

lemma reconcileGRPCRoute_writes (pri : List ParentStatus) (rt : GRPCRoute) :
  (reconcileGRPCRoute api ord pri rt sto).Writes sto (rt.ns,rt.proxyName)
   (translateGRPCRouteToProxyRoute rt) := by
 rcases reconcileGRPCRoute_cases pri rt with h | ⟨w,hw,h⟩
 · exact .inl ⟨h.routeWritten,h.proxyRoutes⟩
 · exact .inr ⟨w,hw,h.routeWritten,h.proxyRoutes⟩

lemma reconcileL4Route_writes (m : ObjectMeta) (kind : String)
  (tra : Translated (Written ProxyRoute)) (pri : List ParentStatus) :
  (reconcileL4Route api m kind tra pri sto).Writes sto m.key tra := by
 unfold reconcileL4Route
 cases tra with
 | error e => exact .inl ⟨rfl,rfl⟩
 | ok w =>
  split_ifs
  · exact .inl ⟨rfl,rfl⟩
  · exact .inr ⟨w,rfl,rfl,rfl⟩

end

end NovaEdge.GatewayApi
