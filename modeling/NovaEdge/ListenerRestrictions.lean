import NovaEdge.ListenerManager
import NovaEdge.UpstreamTls

/-! The restrictions that a listener of a gateway puts on its connections, and what the dataplane
forwards for a connection that they rule out. -/
namespace NovaEdge.Dataplane
open List Snapshot Translator

open Config (Bytes)

inductive Layer4
 | tcp
 | udp

def layer4 : V1alpha1.ProtocolType → Layer4
 | .http3 | .udp => .udp
 | .http | .https | .tcp | .tls | .other _ => .tcp

def isPlaintext : V1alpha1.ProtocolType → Bool
 | .https | .tls | .http3 => false
 | .http | .tcp | .udp | .other _ => true

def Service.layer4 : Service → Layer4
 | .http _ | .l4 _ => .tcp
 | .http3 _ => .udp

def Service.isHttp : Service → Bool
 | .http _ | .http3 _ => true
 | .l4 _ => false

def Service.clientCa : Service → Option Bytes
 | .http acceptor => acceptor.bind TlsState.clientCaPem
 | .http3 tls => tls.clientCaPem
 | .l4 _ => none

structure Client where
 peer : SocketAddr
 certifiedBy : Bytes → Bool

def Service.accept (service : Service) (client : Client) : Option Bool :=
 match service.clientCa with
 | none => some false
 | some ca => if client.certifiedBy ca then some true else none

/-- The first route of the gateway decides, in the order of the route table's iteration. -/
def resolveL4Backend (lib : ListenerLibrary) (routes : List RouteState)
  (clusters : KeyedMap String ClusterState) (gatewayName : String) : Option SocketAddr := do
 let route ← routes.find? fun r => r.gatewayRef = gatewayName
 let backendRef ← route.backendRefs.head?
 let cluster ← clusters.find? backendRef.1
 let ep ← cluster.endpoints.head?
 lib.parseAddr (ep.address ++ ":" ++ toString ep.port)

def Service.Forwards (lib : ListenerLibrary) (text : TextLibrary) (eng : PolicyEngines)
  (h : ProxyHandler) (w : World) (r : HttpRequest) : Service → Prop
 | .http _ => ∃ route kind target, Event.forward route kind target ∈ (serve text eng .http1 h w r).1
 | .http3 _ => ∃ route kind target,
   Event.forward route kind target ∈ (serve text eng .http3 h w r).1
 | .l4 gateway => ∃ routes, routes.Perm h.config.routes.values ∧
   (resolveL4Backend lib routes h.config.clusters gateway).isSome

def EdgeState.ServedBy (t : EdgeState) (h : ProxyHandler) : Prop :=
 ∃ counter, h.config = t.routing.config ∧ h.router = t.routing.router.withCounters counter

section
variable (inRange : String → String → Bool)

def OutOfRange (lis : V1alpha1.Listener) (address : String) : Prop :=
 lis.allowedSourceRanges ≠ [] ∧ ∀ range ∈ lis.allowedSourceRanges, inRange range address = false

def requiresCertificate (lis : V1alpha1.Listener) : Bool :=
 lis.clientAuth.any fun auth => auth.mode = .require

def Restricts (lis : V1alpha1.Listener) (address : String) (verified : Bool) : Prop :=
 OutOfRange inRange lis address ∨ (lis.sslRedirect = true ∧ isPlaintext lis.protocol = true) ∨
  (requiresCertificate lis = true ∧ verified = false)

def Restrictable (lis : V1alpha1.Listener) (service : Service) : Prop :=
 (∃ address, OutOfRange inRange lis address) ∨
  (lis.sslRedirect = true ∧ isPlaintext lis.protocol = true) ∨
  (requiresCertificate lis = true ∧ service.clientCa = none)

variable (lib : ListenerLibrary) (text : TextLibrary) (eng : PolicyEngines)
 (render : JsonValue → String) (s : EdgeState) (bc : GatewayContext)
 (gateways : List Config.Gateway)

def EnforcesRestrictions : Prop :=
 ∀ snapshot : Config.ConfigSnapshot, snapshot.gateways = gateways →
 ∀ t, HasReconciled lib text render s snapshot t →
 ∀ name port service, t.listeners.find? name = some ⟨port,some service⟩ →
 ∀ gw ∈ bc.gateways, ∀ lis ∈ gw.listeners, lis.port.toUInt32 = port →
  layer4 lis.protocol = service.layer4 →
 ∀ client verified, service.accept client = some verified →
  Restricts inRange lis client.peer.1 verified →
 ∀ h, t.ServedBy h → ∀ w r, r.clientAddr = client.peer → ¬ service.Forwards lib text eng h w r

def NothingToRestrict : Prop := ∀ gw ∈ bc.gateways, ∀ lis ∈ gw.listeners, ∀ name service,
  MayRun lib s gateways name lis.port.toUInt32 service → service.isHttp = true →
  layer4 lis.protocol = service.layer4 → ¬ Restrictable inRange lis service

end

lemma restrictable_iff {ir : String → String → Bool} {lis : V1alpha1.Listener}
  {svc : Service} : Restrictable ir lis svc ↔ ∃ client verified, svc.accept client = some verified ∧
    Restricts ir lis client.peer.1 verified := by
 constructor
 · have ha : ∀ adr, ∃ verified, svc.accept ⟨(adr,0),fun _ => true⟩ = some verified := by
    intro adr
    unfold Service.accept
    split
    · exact ⟨_,rfl⟩
    · exact ⟨_,if_pos rfl⟩
   rintro (⟨adr,hra⟩ | hr | ⟨hu,hc⟩)
   · obtain ⟨verified,hv⟩ := ha adr
     exact ⟨_,verified,hv,.inl hra⟩
   · obtain ⟨verified,hv⟩ := ha ""
     exact ⟨_,verified,hv,.inr (.inl hr)⟩
   · exact ⟨⟨("",0),fun _ => true⟩,false,by simp [Service.accept,hc],.inr (.inr ⟨hu,rfl⟩)⟩
 · rintro ⟨client,verified,ha,hra | hr | ⟨hu,rfl⟩⟩
   · exact .inl ⟨_,hra⟩
   · exact .inr (.inl hr)
   · refine .inr (.inr ⟨hu,?_⟩)
     cases hc : svc.clientCa with
     | none => rfl
     | some ca => simp [Service.accept,hc] at ha

section
variable {lib : ListenerLibrary} {text : TextLibrary} {rd : JsonValue → String}
 {s t : EdgeState} {snap : Config.ConfigSnapshot}

/-- The routes of a snapshot name no gateway, so no gateway has a backend to copy bytes to. -/
lemma not_forwards_l4 (hs : (edgeSystem lib text rd).Reachable s)
  (h : HasReconciled lib text rd s snap t) {name gw : String} {port : UInt32}
  (hr : t.listeners.find? name = some ⟨port,some (.l4 gw)⟩) {han : ProxyHandler}
  (hse : t.ServedBy han) (eng : PolicyEngines) (w : World) (r : HttpRequest) :
  ¬ (Service.l4 gw).Forwards lib text eng han w r := by
 have ha := h.hasApplied hs
 have ht : (edgeSystem lib text rd).Reachable t := by
  obtain ⟨now,u,host,order,hp,hre⟩ := h
  exact .next (.next hs hp) hre
 obtain ⟨counter,hc,-⟩ := hse
 obtain ⟨cfg,now,hcf⟩ := ha.exists_config
 rintro ⟨routes,hpe,ho⟩
 obtain ⟨addr,had⟩ := isSome_iff_exists.mp ho
 obtain ⟨rs,hf,-⟩ := bind_eq_some_iff.mp had
 have hm : rs ∈ t.routing.config.routes.values := by
  rw [← hc]
  exact hpe.mem_iff.mp (mem_of_find?_eq_some hf)
 rw [hcf,mem_values_applyConfig] at hm
 have hg : rs.gatewayRef = gw := by simpa using find?_some hf
 exact (reachable_named ht).l4 name _ gw hr rfl (hg ▸ (unset_of_translated hm).2)

end

def openRule : Config.RouteRule where
 backendRefs := [{ name := "open", ns := "edge", weight := 1 }]

def openRoute : Config.Route where
 name := "open"
 ns := "edge"
 rules := [openRule]

def openSnapshot (gateways : List Config.Gateway) : Config.ConfigSnapshot where
 gateways := gateways
 routes := [openRoute]
 clusters := [{ name := "open", ns := "edge" }]
 endpoints := (∅ : KeyedMap String (List Config.Endpoint)).set "edge/open"
  [{ address := "10.0.0.7", port := 80, ready := true }]

def openRouteState : RouteState :=
 routeFromProto (translateRouteMatch openRoute (ruleName "open" 0) openRule
  [] none)

section
variable {gws : List Config.Gateway} {text : TextLibrary} {rd : JsonValue → String}

lemma effective_openSnapshot (rs : RouteState) :
  Effective (translateSnapshot (openSnapshot gws)) rs ↔ rs = openRouteState := by
 have hr : (translateSnapshot (openSnapshot gws)).routes.map routeFromProto =
   [openRouteState] := rfl
 rw [Effective,hr]
 constructor
 · intro h
   simpa using mem_of_mem_filter (mem_of_getLast? h)
 · rintro rfl
   simp

lemma matchRequest_openSnapshot {t : RoutingState}
  (ht : HasApplied text rd (translateSnapshot (openSnapshot gws)) t) (r : RouteRequest) :
  t.router.matchRequestWithQuery text r = some (compileRoute text openRouteState) := by
 refine SortOrder.find?_of_unique ?_ ?_ ?_
 · exact (ht.mem_routes _).mpr ⟨_,(effective_openSnapshot _).mpr rfl,rfl⟩
 · rfl
 · intro rt hr _
   obtain ⟨rs,hrs,rfl⟩ := (ht.mem_routes _).mp hr
   rw [(effective_openSnapshot rs).mp hrs]

lemma exists_forward_openSnapshot {t : EdgeState} (eng : PolicyEngines)
  (ht : HasApplied text rd (translateSnapshot (openSnapshot gws)) t.routing)
  (ent : Entry) (peer : SocketAddr) :
  ∃ h, t.ServedBy h ∧ ∃ r : HttpRequest, r.clientAddr = peer ∧ ∃ rt kind tgt,
   Event.forward rt kind tgt ∈ (serve text eng ent h openWorld r).1 := by
 obtain ⟨cfg,now,hc⟩ := ht.exists_config
 have hen : EffectiveCluster (translateSnapshot (openSnapshot gws))
   (clusterFromProto (translateCluster (openSnapshot gws).endpoints
    { name := "open", ns := "edge" })) := rfl
 obtain ⟨cs,hcs,hl⟩ := exists_find?_clusters_applyConfig hen rd cfg now
 rw [← hc] at hcs
 have hne : liveEndpoints cs ≠ [] := by
  rw [hl]
  exact cons_ne_nil _ _
 let h : ProxyHandler := ⟨t.routing.router.withCounters fun _ => 0,t.routing.config,0,[]⟩
 let r : HttpRequest := { clientAddr := peer }
 have ho : h.router.matchRequestWithQuery text (routeRequest r) =
   some ((compileRoute text openRouteState).withCounter 0) := by
  rw [matchRequest_withCounters,matchRequest_openSnapshot ht]
  rfl
 obtain ⟨tgt,hf⟩ := @exists_attempt_forward h r
  ((compileRoute text openRouteState).withCounter 0) _ cs hcs hne
 refine ⟨h,⟨_,rfl,rfl⟩,r,rfl,(compileRoute text openRouteState).withCounter 0,.attempt 0, tgt,?_⟩
 have hn := @mem_handleRequestInner text eng h r _ _ _ _ rfl ho rfl rfl hf
 cases ent with
 | http1 | http3 => exact hn

end

/-- The restrictions of a set of gateways are enforced exactly if there is nothing to restrict. -/
theorem restrictions_enforced_iff (inRange : String → String → Bool) (lib : ListenerLibrary)
  (text : TextLibrary) (eng : PolicyEngines) (render : JsonValue → String) {s : EdgeState}
  (hs : (edgeSystem lib text render).Reachable s) {bc : GatewayContext}
  {gateways : List Config.Gateway} (hgateways : IsGatewaysOf bc gateways) :
  EnforcesRestrictions inRange lib text eng render s bc gateways ↔
   NothingToRestrict inRange lib s bc gateways := by
 have hb := bind_of_isGatewaysOf hgateways
 constructor
 · intro hen gw hw lis hl name svc hm hh hla hre
   obtain ⟨client,verified,ha,hrt⟩ := restrictable_iff.mp hre
   obtain ⟨u,hap⟩ := exists_apply lib text render s (openSnapshot gateways) 0
   obtain ⟨t,ht,-,hu⟩ := exists_hasReconciled hap hb hm
   have hp := ht.hasApplied hs
   have hn := hen _ rfl t ht name _ svc hu gw hw lis hl rfl hla client verified ha hrt
   cases svc with
   | http acceptor =>
    obtain ⟨h,hse,r,hr,hf⟩ := exists_forward_openSnapshot eng hp .http1 client.peer
    exact hn h hse openWorld r hr hf
   | http3 tls =>
    obtain ⟨h,hse,r,hr,hf⟩ := exists_forward_openSnapshot eng hp .http3 client.peer
    exact hn h hse openWorld r hr hf
   | l4 gateway => simp [Service.isHttp] at hh
 · rintro ho snapshot rfl t ht name port svc hu gw hw lis hl rfl hla client
    verified ha hrt h hse w r -
   have hm := ht.mayRun (fun name g hg => (hb name g hg).2.1) hu
   have hre := restrictable_iff.mpr ⟨client,verified,ha,hrt⟩
   cases svc with
   | http acceptor | http3 tls => exact absurd hre (ho gw hw lis hl name _ hm rfl hla)
   | l4 gateway => exact not_forwards_l4 hs ht hu hse eng w r

def inTen (range address : String) : Bool := range = "10.0.0.0/8" && startsWith address "10."

def plainGateways : GatewayContext where
 gateways := [{ name := "edge", ns := "shop"
                listeners := [{ name := "web", port := 80, protocol := .http
                                port_valid := V1alpha1.httpPort_valid }] }]

theorem plain_gateways_enforced :
  IsGatewaysOf plainGateways ((buildGateways plainGateways).getD []) ∧
   EnforcesRestrictions inTen anyLibrary noRegex noEngines (fun _ => "") {} plainGateways
    ((buildGateways plainGateways).getD []) := by
 have hb : IsGatewaysOf plainGateways ((buildGateways plainGateways).getD []) :=
  ⟨_,rfl,List.Perm.refl _,pairwise_singleton _ _⟩
 refine ⟨hb,(restrictions_enforced_iff _ _ _ _ _ (.start rfl) hb).mpr ?_⟩
 intro gw hg lis hl name svc _ _ _ hr
 obtain rfl := mem_singleton.mp hg
 obtain rfl := mem_singleton.mp hl
 rcases hr with ⟨adr,ha,-⟩ | ⟨hre,-⟩ | ⟨hu,-⟩
 · exact ha rfl
 · cases hre
 · cases hu

def webListener : V1alpha1.Listener where
 name := "web"
 port := 80
 port_valid := V1alpha1.httpPort_valid
 protocol := .http
 sslRedirect := true
 allowedSourceRanges := ["10.0.0.0/8"]

def apiListener : V1alpha1.Listener where
 name := "api"
 port := 443
 port_valid := V1alpha1.httpsPort_valid
 protocol := .https
 tls := some { secretRef := some { name := "api-cert" } }
 clientAuth := some { mode := .require }

def shopGateways : GatewayContext where
 gateways := [{ name := "edge", ns := "shop", listeners := [webListener,apiListener] }]
 secrets := (∅ : KeyedMap String (KeyedMap String Bytes)).set "shop/api-cert"
  (((∅ : KeyedMap String Bytes).set "tls.crt" [1]).set "tls.key" [2])

def shopEdge : EdgeState :=
 let config := ({} : RuntimeConfig).applyConfig (fun _ => "") 0 (translateSnapshot
  (openSnapshot ((buildGateways shopGateways).getD [])))
 { routing := ⟨config,({} : Router).setRoutes (config.routes.values.map (compileRoute noRegex))⟩
   listeners := reconcileListeners anyLibrary openHost config.gateways.pairs ∅ }

/-- Its address is in no range and it has no certificate, but both connections are served. -/
theorem restricted_client_served :
  IsGatewaysOf shopGateways ((buildGateways shopGateways).getD []) ∧
   HasReconciled anyLibrary noRegex (fun _ => "") {}
    (openSnapshot ((buildGateways shopGateways).getD [])) shopEdge ∧
   shopEdge.listeners.find? "edge/web" = some ⟨80,some (.http none)⟩ ∧
   shopEdge.listeners.find? "edge/api" = some ⟨443,some (.http (some ⟨[1],[2],none⟩))⟩ ∧
   OutOfRange inTen webListener "203.0.113.9" ∧
   (webListener.sslRedirect = true ∧ isPlaintext webListener.protocol = true) ∧
   (requiresCertificate apiListener = true ∧
    (Service.http (some ⟨[1],[2],none⟩)).accept ⟨("203.0.113.9",4000),fun _ => false⟩ =
     some false) ∧
   ∃ h, shopEdge.ServedBy h ∧ ∃ route, Event.forward route (.attempt 0) ("10.0.0.7",80) ∈
    (serve noRegex noEngines .http1 h openWorld { clientAddr := ("203.0.113.9",4000) }).1 := by
 refine ⟨⟨_,rfl,List.Perm.refl _,pairwise_singleton _ _⟩,?_,rfl,rfl,?_,⟨rfl,rfl⟩, ⟨rfl,rfl⟩,?_⟩
 · exact ⟨0,⟨shopEdge.routing,∅⟩,openHost,_,⟨⟨rfl,_,List.Perm.refl _,rfl⟩,rfl⟩,
    List.Perm.refl _,rfl⟩
 · refine ⟨cons_ne_nil _ _,?_⟩
   intro range hr
   obtain rfl := mem_singleton.mp hr
   rfl
 · refine ⟨⟨shopEdge.routing.router.withCounters fun _ => 0,shopEdge.routing.config,0,[]⟩,
    ⟨_,rfl,rfl⟩,_,mem_cons_of_mem _ mem_cons_self⟩

end NovaEdge.Dataplane
