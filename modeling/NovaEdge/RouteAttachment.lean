import NovaEdge.ListenerRestrictions
import NovaEdge.RouteObjects

/-! The parents of HTTP routes: which requests the routes of a gateway's listener get, from the
reconciliation of gateways and routes to the router of the dataplane. -/
namespace NovaEdge.GatewayApi
open Dataplane Snapshot KeyedMap List

structure RouteRun where
 route : HTTPRoute
 api : ApiServer
 order : List (String × BackendRef) := []

namespace RouteRun

def result (run : RouteRun) (store : ClusterStore) : Reconciled :=
 reconcileHTTPRoute run.api run.order run.route store

def written (run : RouteRun) : Option (Written V1alpha1.ProxyRoute) :=
 if (buildParentStatuses run.api run.route).2 = true ∧ run.api.writesRoute run.route.key = true then
  (translateHTTPRouteToProxyRoute run.route).toOption
 else none

end RouteRun

def settledStore (runs : List RouteRun) : ClusterStore :=
 runs.foldl (fun store run => (run.result store).store) {}

variable {w : Written V1alpha1.ProxyRoute}

attribute [local simp] Except.toOption

section
variable {run : RouteRun} (st : ClusterStore)

lemma result_of_written (h : run.written = some w) :
  (run.result st).store.proxyRoutes = upsertRoute st.proxyRoutes run.route.key w ∧
   ∃ c : Condition, c.type = "ResolvedRefs" ∧ (run.result st).conditions =
    run.api.report (shownConditions
     ((buildParentStatuses run.api run.route).1.map (ParentStatus.set c))) := by
 unfold RouteRun.written at h
 split_ifs at h with hn
 obtain ⟨hp,hr⟩ := hn
 cases hw : translateHTTPRouteToProxyRoute run.route with
 | error e => simp [hw] at h
 | ok w' =>
  obtain rfl : w' = w := by simpa [hw] using h
  unfold RouteRun.result reconcileHTTPRoute
  rw [if_neg (by simp [hp]),hw]
  dsimp only
  rw [if_neg (by simp [hr])]
  refine ⟨rfl,_,?_,rfl⟩
  unfold BackendRun.resolvedRefs
  split <;> rfl

lemma proxyRoutes_of_not_written (h : run.written = none) :
  (run.result st).store.proxyRoutes = st.proxyRoutes := by
 unfold RouteRun.result reconcileHTTPRoute
 by_cases hp : (buildParentStatuses run.api run.route).2 = false
 · rw [if_pos hp]
 · rw [if_neg hp]
   cases hw : translateHTTPRouteToProxyRoute run.route with
   | error e => rfl
   | ok w =>
    dsimp only
    by_cases hr : run.api.writesRoute run.route.key = false
    · rw [if_pos hr]
    · simp [RouteRun.written,hp,hr,hw] at h

lemma find?_settledStore {runs : List RouteRun}
  (hn : (runs.map (·.route.key)).Nodup) {key : ObjectKey} :
  (settledStore runs).proxyRoutes.find? key = some w ↔
   ∃ run ∈ runs, run.route.key = key ∧ run.written = some w := by
 induction runs using List.reverseRecOn generalizing key w with
 | nil => simp [settledStore]
 | append_singleton runs run ih =>
  rw [map_append,nodup_append] at hn
  obtain ⟨hb,-,hdi⟩ := hn
  have hf : ∀ w, (settledStore runs).proxyRoutes.find? run.route.key ≠ some w := by
   intro w hw
   obtain ⟨run',hr',hk,-⟩ := (ih hb).mp hw
   exact hdi _ (mem_map_of_mem hr') _ (by simp) hk
  have ht : settledStore (runs ++ [run]) = (run.result (settledStore runs)).store := by
   simp [settledStore]
  simp only [ht,mem_append,mem_singleton,or_and_right,exists_or,exists_eq_left]
  cases hr : run.written with
  | none =>
   rw [proxyRoutes_of_not_written _ hr,ih hb]
   simp
  | some w' =>
   have hse : (run.result (settledStore runs)).store.proxyRoutes =
     (settledStore runs).proxyRoutes.set run.route.key w' := by
    rw [(result_of_written _ hr).1,upsertRoute]
    cases ho : (settledStore runs).proxyRoutes.find? run.route.key with
    | none => rfl
    | some old => exact absurd ho (hf old)
   rw [hse,find?_set]
   split_ifs with hk
   · subst hk
     constructor
     · intro h
       exact .inr ⟨rfl,h⟩
     · rintro (ho | ⟨-,h⟩)
       · exact absurd ((ih hb).mpr ho) (hf w)
       · exact h
   · rw [ih hb]
     constructor
     · exact .inl
     · rintro (ho | ⟨hk',-⟩)
       · exact ho
       · exact absurd hk'.symm hk

end

/-- Gateways and HTTP routes, each of which is reconciled while these gateways are there. -/
structure GatewayCluster where
 gateways : KeyedMap ObjectKey Gateway
 runs : List RouteRun
 keyed : ∀ key gw, gateways.find? key = some gw → gw.key = key
 distinct : (runs.map (·.route.key)).Nodup
 reads : ∀ run ∈ runs, ∀ key, run.api.gateway key =
  match gateways.find? key with
  | some gw => .found gw
  | none => .notFound

structure ParentReference.Names (ref : ParentReference) (routeNs : String) (gw : Gateway)
  (lis : GatewayListener) : Prop where
 kind : ref.kindText = "Gateway"
 gateway : ref.gatewayKey routeNs = gw.key
 listener : ∀ s, ref.sectionName = some s → s = lis.name

def RouteRun.Accepted (run : RouteRun) (store : ClusterStore) (gw : Gateway)
  (lis : GatewayListener) : Prop :=
 ∃ p ∈ (run.result store).conditions, p.2.type = "Accepted" ∧ p.2.status = true ∧
  p.1 ∈ run.route.parentRefs ∧ p.1.Names run.route.ns gw lis

def RouteRun.AttachedTo (run : RouteRun) (gw : Gateway) (lis : GatewayListener) : Prop :=
 run.api.writesStatus = true ∧ ∃ ref ∈ run.route.parentRefs, ref.Names run.route.ns gw lis

namespace GatewayCluster
variable (c : GatewayCluster)

def Offers (gw : Gateway) (lis : GatewayListener) : Prop :=
 c.gateways.find? gw.key = some gw ∧ lis ∈ gw.listeners ∧
  ∃ w, translateGatewayToProxyGateway gw = .ok w

def proxyGateways : List V1alpha1.ProxyGateway := c.gateways.values.filterMap fun gw =>
  (translateGatewayToProxyGateway gw).toOption.map Written.spec

structure IsContext (bc : GatewayContext) : Prop where
 routes : bc.routes.Perm (routesOf (settledStore c.runs))
 gateways : bc.gateways.Perm c.proxyGateways

def Reported (run : RouteRun) (gw : Gateway) (lis : GatewayListener) : Prop :=
 ∃ before after, c.runs = before ++ run::after ∧ run.Accepted (settledStore before) gw lis

end GatewayCluster

def dataplaneName (gw : Gateway) (lis : GatewayListener) : String := gw.name ++ "/" ++ lis.name

section
variable (go : GoLibrary) (lib : ListenerLibrary) (text : TextLibrary)
 (render : JsonValue → String) (s : EdgeState) (c : GatewayCluster)

def AttachmentRespected : Prop :=
 ∀ bc snap t, c.IsContext bc → IsSnapshotOf go bc.toBuildContext snap →
 IsGatewaysOf bc snap.gateways → HasReconciled lib text render s snap t →
 ∀ gw lis, c.Offers gw lis → ∀ port service,
  t.listeners.find? (dataplaneName gw lis) = some ⟨port,some service⟩ → service.isHttp = true →
 ∀ r m, t.routing.router.matchRequestWithQuery text r = some m →
  ∃ rt run, ownerOf snap.routes m.name = some rt ∧ run ∈ c.runs ∧
   run.route.key = (rt.ns,rt.name) ∧ c.Reported run gw lis

def EveryRouteAttached : Prop := ∀ bc gateways, c.IsContext bc → IsGatewaysOf bc gateways →
 ∀ gw lis, c.Offers gw lis → ∀ port service,
  MayRun lib s gateways (dataplaneName gw lis) port service → service.isHttp = true →
 ∀ run ∈ c.runs, ∀ w, run.written = some w → (∃ r, ∃ rs ∈ routeEntries (buildRoute go w.spec),
   matchesRoute text (compileRoute text rs) r = true) → run.AttachedTo gw lis

end

section
variable {c : GatewayCluster} {run : RouteRun} {gw : Gateway} {lis : GatewayListener}

lemma gatewayClassName_of_translate {w : Written V1alpha1.ProxyGateway}
  (h : translateGatewayToProxyGateway gw = .ok w) :
  gw.gatewayClassName = novaEdgeGatewayClassName := by
 by_contra hc
 simp [translateGatewayToProxyGateway,hc,bind,Except.bind,throw,throwThe, MonadExceptOf.throw] at h

lemma parentStatus_of_names (hr : run ∈ c.runs) (ho : c.Offers gw lis)
  {ref : ParentReference} (hn : ref.Names run.route.ns gw lis) :
  ∃ msg, (parentStatus run.api run.route.ns ref).1 =
   some ⟨ref,[newAcceptedCondition true "Accepted" msg]⟩ := by
 obtain ⟨hg,hl,w,hw⟩ := ho
 have hre : run.api.gateway (ref.gatewayKey run.route.ns) = .found gw := by
  rw [c.reads run hr,hn.gateway,hg]
 have hse : (ref.sectionName.filter fun s => gw.listeners.all fun lis => lis.name ≠ s) =
   none := by
  rw [Option.filter_eq_none_iff]
  intro s hs ha
  have hne := all_eq_true.mp ha lis hl
  simp [hn.listener s hs] at hne
 refine ⟨"HTTPRoute has been accepted",?_⟩
 unfold parentStatus
 rw [if_neg (by simp [hn.kind]),hre]
 dsimp only
 rw [if_neg (by simp [gatewayClassName_of_translate hw]),hse]

lemma mem_set_of_ne {sta : ParentStatus} {d e : Condition} (hd : d ∈ sta.conditions)
  (hn : d.type ≠ e.type) : d ∈ (sta.set e).conditions := by
 unfold ParentStatus.set setStatusCondition
 split_ifs
 · exact mem_map.mpr ⟨d,hd,if_neg hn⟩
 · exact mem_append_left _ hd

lemma accepted_of_attachedTo (hu : run ∈ c.runs) (ho : c.Offers gw lis) (hw : run.written = some w)
  (h : run.AttachedTo gw lis)
  (sto : ClusterStore) : run.Accepted sto gw lis := by
 obtain ⟨ht,ref,hr,hn⟩ := h
 obtain ⟨msg,hp⟩ := parentStatus_of_names hu ho hn
 obtain ⟨-,e,hy,hc⟩ := result_of_written sto hw
 refine ⟨(ref,newAcceptedCondition true "Accepted" msg),?_,rfl,rfl,hr,hn⟩
 rw [hc,ApiServer.report,if_pos ht]
 have hm : (⟨ref,[newAcceptedCondition true "Accepted" msg]⟩ : ParentStatus) ∈
   (buildParentStatuses run.api run.route).1 := mem_filterMap.mpr ⟨ref,hr,hp⟩
 refine mem_flatMap.mpr ⟨_,mem_map_of_mem hm,mem_map_of_mem ?_⟩
 refine mem_set_of_ne (mem_singleton_self _) ?_
 simp [hy,newAcceptedCondition]

lemma attachedTo_of_accepted {sto : ClusterStore}
  (hw : run.written = some w) (h : run.Accepted sto gw lis) : run.AttachedTo gw lis := by
 obtain ⟨p,hp,-,-,hr,hn⟩ := h
 refine ⟨?_,p.1,hr,hn⟩
 obtain ⟨-,e,-,hc⟩ := result_of_written sto hw
 rw [hc,ApiServer.report] at hp
 by_contra ht
 rw [if_neg ht] at hp
 simp at hp

end

section
variable {go : GoLibrary} {lib : ListenerLibrary} {text : TextLibrary}
 {rd : JsonValue → String} {s : EdgeState} {c : GatewayCluster}

lemma key_of_written {run : RouteRun}
  (h : run.written = some w) : (w.spec.ns,w.spec.name) = run.route.key := by
 unfold RouteRun.written at h
 split_ifs at h
 cases hw : translateHTTPRouteToProxyRoute run.route with
 | error e => simp [hw] at h
 | ok w' =>
  obtain rfl : w' = w := by simpa [hw] using h
  obtain ⟨rls,-,rfl⟩ := exists_rules_of_translateHTTPRoute hw
  rfl

lemma mem_routesOf_settledStore {p : V1alpha1.ProxyRoute} : p ∈ routesOf (settledStore c.runs) ↔
      ∃ run ∈ c.runs, ∃ w, run.written = some w ∧ w.spec = p := by
 rw [routesOf,mem_map]
 constructor
 · rintro ⟨w,hw,hp⟩
   obtain ⟨key,hk⟩ := mem_values_iff.mp hw
   obtain ⟨run,hr,-,hwr⟩ := (find?_settledStore c.distinct).mp hk
   exact ⟨run,hr,w,hwr,hp⟩
 · rintro ⟨run,hr,w,hwr,hp⟩
   have hf := (find?_settledStore c.distinct).mpr ⟨run,hr,rfl,hwr⟩
   exact ⟨w,mem_values_iff.mpr ⟨_,hf⟩,hp⟩

lemma attachmentRespected_of_attached (hs : (edgeSystem lib text rd).Reachable s)
  (h : EveryRouteAttached go lib text s c) : AttachmentRespected go lib text rd s c := by
 intro bc snap t hb hn hga ht gw lis ho port svc hu hh r m hm
 obtain ⟨rs,hf,rfl,hma⟩ := exists_match_iff.mp ⟨_,ht.hasApplied hs,hm⟩
 obtain ⟨rt,how,hen⟩ := hf.exists_owner
 -- The owner is built from what some run has written.
 have hl : rt ∈ snap.routes := mem_of_mem_filter (mem_of_getLast? how)
 obtain ⟨p,hp,rfl⟩ := mem_map.mp (hn.routes.1.mem_iff.mp hl)
 obtain ⟨run,hr,w,hw,rfl⟩ := mem_routesOf_settledStore.mp (hb.routes.mem_iff.mp hp)
 have hpo : ∀ name g, configured snap.gateways name = some g → g.port ≠ 0 :=
  fun name g hg => (bind_of_isGatewaysOf hga name g hg).2.1
 have ha := h bc snap.gateways hb hga gw lis ho port svc
  (ht.mayRun hpo hu) hh run hr w hw ⟨r,rs,hen,hma⟩
 obtain ⟨pre,post,hsl⟩ := append_of_mem hr
 exact ⟨_,run,how,hr,(key_of_written hw).symm,pre,post,hsl, accepted_of_attachedTo hr ho hw ha _⟩

lemma attached_of_attachmentRespected (h : AttachmentRespected go lib text rd s c) :
  EveryRouteAttached go lib text s c := by
 intro bc gws hb hg gw lis ho port svc hm hh run hr w hw ⟨r,rs,hrs,hma⟩
 -- A snapshot in which the route comes last of its name, and a table in which it comes first.
 have hme : buildRoute go w.spec ∈ buildRoutes go bc.toBuildContext :=
  mem_map_of_mem (hb.routes.mem_iff.mpr (mem_routesOf_settledStore.mpr ⟨run,hr,w,hw,rfl⟩))
 obtain ⟨pre,post,hro,hl⟩ := SortOrder.exists_sortedBy_last Config.Route.name hme
 obtain ⟨pols,hp⟩ := SortOrder.exists_sortedBy Config.Policy.name
  (buildPolicies go bc.toBuildContext)
 let snap : Config.ConfigSnapshot :=
  { routes := pre ++ buildRoute go w.spec::post, policies := pols
    gateways := gws }
 have hf : EffectiveIn snap.routes rs := effectiveIn_of_last hrs hl
 obtain ⟨routing,hse,hfo⟩ := exists_step_match s.routing 0
  (effective_translateSnapshot_iff.mpr hf) hma
  fun rs' hr' _ => hf.priority_le (effective_translateSnapshot_iff.mp hr')
 have hap : (edgeSystem lib text rd).step s (.apply snap 0) ⟨routing,s.listeners⟩ := ⟨hse,rfl⟩
 obtain ⟨t,ht,hu,hru⟩ := exists_hasReconciled hap (bind_of_isGatewaysOf hg) hm
 rw [← show t.routing = routing from hu] at hfo
 obtain ⟨rt,run',how,hu',hk,split⟩ := h bc snap t hb ⟨hro,hp⟩ hg
  ht gw lis ho port svc hru hh r _ hfo
 obtain ⟨pre',post',-,ha⟩ := split
 obtain rfl := mem_unique (ownerOf_of_last hrs hl) how
 have hsa : run' = run := inj_on_of_nodup_map c.distinct hu' hr (hk.trans (key_of_written hw))
 subst hsa
 exact attachedTo_of_accepted hw ha

end

/-- The dataplane has one router for all listeners. -/
theorem attachment_respected_iff (go : GoLibrary) (lib : ListenerLibrary) (text : TextLibrary)
  (render : JsonValue → String) {s : EdgeState} (hs : (edgeSystem lib text render).Reachable s)
  (c : GatewayCluster) :
  AttachmentRespected go lib text render s c ↔ EveryRouteAttached go lib text s c :=
 ⟨attached_of_attachmentRespected,attachmentRespected_of_attached hs⟩

def plainGateway (name : String) (port : PortNumber) : Gateway where
 name := name
 ns := "shop"
 gatewayClassName := novaEdgeGatewayClassName
 listeners := [{ name := "web", port := port, protocol := .http }]

def gatewaysNamed (gateways : List Gateway) : KeyedMap ObjectKey Gateway :=
 gateways.foldl (fun acc gw => acc.set gw.key gw) ∅

def apiOf (gateways : KeyedMap ObjectKey Gateway) : ApiServer where
 gateway key := match gateways.find? key with
  | some gw => .found gw
  | none => .notFound
 service _ := .found ()

lemma keyed_gatewaysNamed (gws : List Gateway) (key : ObjectKey) (gw : Gateway)
  (h : (gatewaysNamed gws).find? key = some gw) : gw.key = key := by
 unfold gatewaysNamed at h
 induction gws using List.reverseRecOn with
 | nil => simp at h
 | append_singleton gws gw' ih =>
  rw [foldl_append,foldl_cons,foldl_nil] at h
  rcases find?_set_eq_some_iff.mp h with ⟨hk,rfl⟩ | ⟨-,h⟩
  · exact hk.symm
  · exact ih h

def clusterOf (gateways : List Gateway) (route : HTTPRoute) : GatewayCluster where
 gateways := gatewaysNamed gateways
 runs := [{ route := route, api := apiOf (gatewaysNamed gateways) }]
 keyed := keyed_gatewaysNamed gateways
 distinct := nodup_singleton _
 reads run hrun key := by
  rw [mem_singleton.mp hrun]
  rfl

theorem single_gateway_respected :
  AttachmentRespected ⟨fun _ => none,fun _ => ""⟩ anyLibrary noRegex (fun _ => "") {}
   (clusterOf [plainGateway "edge" ⟨80,by decide⟩] webRoute) := by
 refine (attachment_respected_iff _ _ _ _ (.start rfl) _).mpr ?_
 intro bc gws _ _ gw lis ⟨hg,hl,_⟩ port svc _ _ run hr w _ _
 have hm : gw ∈ (gatewaysNamed [plainGateway "edge" ⟨80,by decide⟩]).values :=
  mem_values_iff.mpr ⟨_,hg⟩
 obtain rfl := mem_singleton.mp hm
 obtain rfl := mem_singleton.mp hl
 obtain rfl := mem_singleton.mp hr
 exact ⟨rfl,{ name := "edge" },.head _,rfl,rfl,by simp⟩

def twoGateways : GatewayCluster :=
 clusterOf [plainGateway "outer" ⟨80,V1alpha1.httpPort_valid⟩,plainGateway "inner" ⟨8080,by decide⟩]
  { webRoute with parentRefs := [{ name := "inner" }] }

/-- A route that is attached to the inner gateway gets the requests on the outer one. -/
theorem outer_gateway_not_respected :
  ¬ AttachmentRespected ⟨fun _ => none,fun _ => ""⟩ anyLibrary noRegex (fun _ => "") {}
   twoGateways := by
 intro h
 have ha := attached_of_attachmentRespected h
  { routes := routesOf (settledStore twoGateways.runs), gateways := twoGateways.proxyGateways }
  _ ⟨List.Perm.refl _,List.Perm.refl _⟩
  ⟨_,rfl,List.Perm.refl _,pairwise_pair.mpr (by decide)⟩
  (plainGateway "outer" ⟨80,by decide⟩) _ ⟨rfl,.head _,_,rfl⟩ 80 (.http none)
  (.started rfl ⟨rfl,fun name h hh => absurd hh (by simp)⟩ rfl rfl) rfl _ (.head _) _ rfl
  ⟨{},_,.head _,by decide⟩
 obtain ⟨-,ref,hr,hn⟩ := ha
 obtain rfl := mem_singleton.mp hr
 exact absurd hn.gateway (by decide)

end NovaEdge.GatewayApi
