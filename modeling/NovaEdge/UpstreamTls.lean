import NovaEdge.EndpointDraining
import NovaEdge.PolicyEnforcement
import NovaEdge.RouteSelection

/-! The connections over which the proxy handler sends requests to the clusters of a snapshot, and
which clusters it sends requests to at all. -/
namespace NovaEdge.Dataplane
open Event Translator

open RuntimeConfig List

open Config (Bytes)

/-- A TLS connection has verified the upstream's certificate against the given authorities, or
nothing. -/
inductive Transport
 | plain
 | tls (verified : Option Bytes)

def upstreamUri (target : SocketAddr) (pathAndQuery : String) : String :=
 "http://" ++ target.1 ++ ":" ++ toString target.2 ++ pathAndQuery

/-- The connector of the handler's client opens connections without TLS, and no other. -/
def httpConnector (uri : String) : Option Transport :=
 if startsWith uri "http://" then some .plain else none

/-- The client sends attempts, hedges and mirror copies; an upgrade goes over a bare TCP stream. -/
def transportOf : ForwardKind → SocketAddr → String → Option Transport
 | .websocket, _, _ => some .plain
 | .attempt _, target, pathAndQuery | .hedge, target, pathAndQuery
 | .mirror, target, pathAndQuery => httpConnector (upstreamUri target pathAndQuery)

/-- What the TLS settings of a cluster ask of a connection to it. -/
def Honoured (tls : Config.BackendTLS) : Transport → Prop
 | .plain => False
 | .tls verified => tls.insecureSkipVerify = true ∨ verified = some tls.caCert

def forwardCluster (h : ProxyHandler) : Event → Option String
 | .forward route .mirror _ => (h.config.routes.find? route.name).bind RouteState.mirrorCluster
 | .forward route _ _ => route.selectBackend.1
 | _ => none

def Route.withCounter (route : Route) (n : UInt64) : Route := { route with rrCounter := n }

def Router.withCounters (router : Router) (counter : Route → UInt64) : Router :=
 { router with routes := router.routes.map fun route => route.withCounter (counter route) }

section
variable (lib : TextLibrary) (eng : PolicyEngines) (render : JsonValue → String)
 (req : Proto.ApplyConfigRequest)

def ServesConfig (h : ProxyHandler) : Prop :=
 ∃ t counter, HasApplied lib render req t ∧ h.config = t.config ∧
  h.router = t.router.withCounters counter

/-- No byte for the cluster leaves over a connection that its TLS settings do not allow. -/
def HonoursTls (name : String) (tls : Config.BackendTLS) : Prop :=
 ∀ h, ServesConfig lib render req h → ∀ entry w r route kind target,
  Event.forward route kind target ∈ (serve lib eng entry h w r).1 →
  forwardCluster h (.forward route kind target) = some name →
  ∀ pathAndQuery transport, transportOf kind target pathAndQuery = some transport →
   Honoured tls transport

def Selects (rs : RouteState) (name : String) : Prop :=
 ∃ n, ((compileRoute lib rs).withCounter n).selectBackend.1 = some name

def EffectiveCluster (c : ClusterState) : Prop :=
 ((req.clusters.map clusterFromProto).filter fun v => v.name = c.name).getLast? = some c

def HasEndpoint (name : String) : Prop :=
 ∃ c, EffectiveCluster req c ∧ c.name = name ∧ c.endpoints ≠ []

def HasHealthyEndpoint (name : String) : Prop :=
 ∃ c, EffectiveCluster req c ∧ c.name = name ∧ ∃ e ∈ c.endpoints, e.healthy = true

def ChainPasses (rs : RouteState) (r : HttpRequest) : Prop :=
 ∃ req', (runPipeline eng (({} : RuntimeConfig).applyConfig render 0 req).policies
  rs.middlewareRefs (middlewareRequest r)).2 = .continueWith req'

/-- A matching route selects it, or mirrors to it and has a cluster of its own. -/
inductive Receives (name : String) : Prop
 | selected {rs : RouteState} {r : RouteRequest} (hrs : Effective req rs)
   (hmatch : matchesRoute lib (compileRoute lib rs) r = true) (hsel : Selects lib rs name)
   (hend : HasEndpoint req name)
 | mirrored {rs : RouteState} {r : HttpRequest} {main : String} (hrs : Effective req rs)
   (hmatch : matchesRoute lib (compileRoute lib rs) (routeRequest r) = true)
   (hmirror : rs.mirrorCluster = some name) (hpercent : 0 < rs.mirrorPercent)
   (hchain : ChainPasses eng render req rs r) (hsel : Selects lib rs main)
   (hend : HasEndpoint req main) (hhealthy : HasHealthyEndpoint req name)

end

lemma transportOf_eq_plain {kind : ForwardKind} {tg : SocketAddr} {paq : String}
  {tra : Transport} (h : transportOf kind tg paq = some tra) : tra = .plain := by
 have hh : ∀ uri, httpConnector uri = some tra → tra = .plain := by
  intro uri hu
  unfold httpConnector at hu
  split_ifs at hu
  exact (Option.some.inj hu).symm
 cases kind with
 | websocket => exact (Option.some.inj h).symm
 | attempt n => exact hh _ h
 | hedge => exact hh _ h
 | mirror => exact hh _ h

lemma exists_transportOf (kind : ForwardKind) (tg : SocketAddr) :
  ∃ transport, transportOf kind tg "/" = some transport := by
 have hh : httpConnector (upstreamUri tg "/") = some .plain := by
  simp [httpConnector,upstreamUri,startsWith]
 cases kind with
 | websocket => exact ⟨_,rfl⟩
 | attempt n => exact ⟨_,hh⟩
 | hedge => exact ⟨_,hh⟩
 | mirror => exact ⟨_,hh⟩

section
variable {render : JsonValue → String} {req : Proto.ApplyConfigRequest}

def liveEndpoints (cs : ClusterState) : List EndpointState := cs.endpoints.filter fun e => !e.draining

lemma liveEndpoints_drainReplaced (now : Instant) (old : Option ClusterState) (c : ClusterState) :
  liveEndpoints (drainReplaced now old c) = liveEndpoints c := by
 obtain ⟨ex,hq,hr⟩ := exists_drainReplaced now old c
 have hn : (ex.filter fun e => !e.draining) = [] :=
  filter_eq_nil_iff.mpr fun e he => by simp [hr e he]
 rw [liveEndpoints,hq,filter_append,hn,append_nil,liveEndpoints]

lemma EffectiveCluster.liveEndpoints {c : ClusterState} (h : EffectiveCluster req c) :
  liveEndpoints c = c.endpoints := by
 have hm := mem_of_getLast? h
 obtain ⟨p,-,rfl⟩ := mem_map.mp (mem_of_mem_filter hm)
 rw [Dataplane.liveEndpoints,filter_eq_self]
 intro e he
 obtain ⟨pe,-,rfl⟩ := mem_map.mp he
 rfl

lemma find?_clusters_applyConfig {cfg : RuntimeConfig} {now : Instant} {name : String}
  {cs : ClusterState} (h : (cfg.applyConfig render now req).clusters.find? name = some cs) :
  ∃ c, EffectiveCluster req c ∧ c.name = name ∧ liveEndpoints cs = c.endpoints := by
 obtain ⟨old,ho⟩ := KeyedMap.exists_find?_replaceAll ClusterState.name (drainReplaced now)
  cfg.clusters (req.clusters.map clusterFromProto) name
 have hfi := ho.symm.trans h
 obtain ⟨c,hl,rfl⟩ := map_eq_some_iff.mp hfi
 have hn : c.name = name := by simpa using (mem_filter.mp (mem_of_getLast? hl)).2
 have hf : EffectiveCluster req c := by
  rw [EffectiveCluster,hn]
  exact hl
 refine ⟨c,hf,hn,?_⟩
 rw [liveEndpoints_drainReplaced,hf.liveEndpoints]

lemma exists_find?_clusters_applyConfig {c : ClusterState} (h : EffectiveCluster req c)
  (rd : JsonValue → String) (cfg : RuntimeConfig) (now : Instant) :
  ∃ cs, (cfg.applyConfig rd now req).clusters.find? c.name = some cs ∧
   liveEndpoints cs = c.endpoints := by
 obtain ⟨old,ho⟩ := KeyedMap.exists_find?_replaceAll ClusterState.name (drainReplaced now)
  cfg.clusters (req.clusters.map clusterFromProto) c.name
 rw [h] at ho
 refine ⟨_,ho,?_⟩
 rw [liveEndpoints_drainReplaced,h.liveEndpoints]

variable {lib : TextLibrary} {t : RoutingState}

lemma HasApplied.exists_config (h : HasApplied lib render req t) :
  ∃ cfg now, t.config = applyConfig render cfg now req := by
 obtain ⟨s,now,-,hc,-⟩ := h
 exact ⟨s.config,now,hc⟩

lemma HasApplied.defaultBackend (h : HasApplied lib render req t) :
  t.router.defaultBackend = none := by
 have ht : ∀ s op s', s.router.defaultBackend = none →
   (routingSystem lib render).step s op s' → s'.router.defaultBackend = none := by
  rintro s op s' hs ⟨-,values,-,hr⟩
  rw [hr]
  exact hs
 have hii : ∀ s, (routingSystem lib render).init s → s.router.defaultBackend = none := by
  rintro s rfl
  rfl
 obtain ⟨s,now,ha,hp⟩ := h
 exact ht _ _ _ (ha.invariant hii ht) hp

lemma matchRequest_withCounters (rr : Router) (ctr : Route → UInt64) (r : RouteRequest) :
  (rr.withCounters ctr).matchRequestWithQuery lib r =
   (rr.matchRequestWithQuery lib r).map fun route => route.withCounter (ctr route) := by
 simp only [Router.matchRequestWithQuery,Router.withCounters,find?_map]
 rfl

end

section
variable {lib : TextLibrary} {eng : PolicyEngines} {h : ProxyHandler} {w : World} {r : HttpRequest}
 {m rt : Route} {kind : ForwardKind} {tg : SocketAddr}

lemma withRoute_forward {rr : Router} {run : Route → List Event × Reply}
  (hde : rr.defaultBackend = none) (he : forward rt kind tg ∈ (withRoute lib rr r run).1) :
  ∃ m, rr.matchRequestWithQuery lib (routeRequest r) = some m ∧
   forward rt kind tg ∈ (run m).1 := by
 unfold withRoute at he
 rw [hde] at he
 cases hm : rr.matchRequestWithQuery lib (routeRequest r) with
 | none => simp [hm] at he
 | some m => exact ⟨m,rfl,by simpa [hm] using he⟩

lemma handleRequestInner_forward (hde : h.router.defaultBackend = none)
  (he : forward rt kind tg ∈ (handleRequestInner lib eng h w r).1) :
  ∃ m, h.router.matchRequestWithQuery lib (routeRequest r) = some m ∧
   forward rt kind tg ∈ (serveRoute eng h w r m).1 := by
 unfold handleRequestInner at he
 split_ifs at he
 · simp at he
 · exact withRoute_forward hde he

/-- Without a default backend every forward is for the matched route. -/
lemma serve_forward {ent : Entry} (hde : h.router.defaultBackend = none)
  (he : forward rt kind tg ∈ (serve lib eng ent h w r).1) :
  ∃ m, h.router.matchRequestWithQuery lib (routeRequest r) = some m ∧
   (forward rt kind tg ∈ (serveWebsocket h w r m).1 ∨
    forward rt kind tg ∈ (serveRoute eng h w r m).1) := by
 have hn := fun hi => (@handleRequestInner_forward lib eng h w r rt kind tg hde hi).imp
  fun m hm => And.imp_right (Or.inr (a := forward rt kind tg ∈
   (serveWebsocket h w r m).1)) hm
 cases ent with
 | http1 =>
  simp only [serve,handleRequest] at he
  split_ifs at he
  · obtain ⟨m,hm,hse⟩ := withRoute_forward hde he
    exact ⟨m,hm,Or.inl hse⟩
  · exact hn he
  · simp at he
  · cases hb : w.body with
    | none => simp [hb] at he
    | some body => exact hn (by simpa [hb] using he)
 | http3 =>
  simp only [serve,handleH3Request] at he
  cases hb : w.body with
  | none => simp [hb] at he
  | some body => exact hn (by simpa [hb] using he)

lemma effectiveBackends_nil (cl : ClusterState) : effectiveBackends w cl [] [] = [] := by
 simp [effectiveBackends,notEjected]

lemma priorityFiltered_nil : priorityFiltered [] = [] := rfl

lemma slowStart_nil (cl : ClusterState) : slowStart w cl [] = [] := by
 unfold slowStart
 split_ifs <;> rfl

lemma serveWebsocket_forward (he : forward rt kind tg ∈ (serveWebsocket h w r m).1) :
  rt = m ∧ kind = .websocket ∧ ∃ name cs, m.selectBackend.1 = some name ∧
   h.config.clusters.find? name = some cs ∧ liveEndpoints cs ≠ [] := by
 unfold serveWebsocket at he
 split at he
 · simp at he
 · rename_i name ha
   split at he
   · simp at he
   · rename_i cs hcs
     split_ifs at he
     · simp at he
     · dsimp only at he
       split at he
       · simp at he
       · rename_i idx _
         have hl : liveEndpoints cs ≠ [] := by
          intro hn
          have hp := ne_nil_of_length_pos (Fin.pos idx)
          have hb : clusterBackends w cs = [] := by
           rw [clusterBackends,← liveEndpoints,hn]
           rfl
          rw [hb,priorityFiltered_nil,effectiveBackends_nil] at hp
          exact hp rfl
         unfold handleWebsocketUpgrade at he
         split_ifs at he
         · obtain ⟨rfl,rfl,-⟩ := forward.inj (mem_singleton.mp he)
           exact ⟨rfl,rfl,name,cs,ha,hcs,hl⟩
         · simp at he

lemma mirrorEvents_mem (he : forward rt kind tg ∈ mirrorEvents h w m) :
  rt = m ∧ kind = .mirror ∧ ∃ rs name cs, h.config.routes.find? m.name = some rs ∧
   rs.mirrorCluster = some name ∧ 0 < rs.mirrorPercent ∧
   h.config.clusters.find? name = some cs ∧ ∃ e ∈ liveEndpoints cs, e.healthy = true := by
 unfold mirrorEvents at he
 split at he
 · simp at he
 · rename_i name percent hm
   obtain ⟨rs,hr,hn⟩ := bind_eq_some_iff.mp hm
   obtain ⟨name',hn',hq⟩ := map_eq_some_iff.mp hn
   obtain ⟨rfl,rfl⟩ := Prod.mk.inj hq
   split_ifs at he with hsa
   · split at he
     · simp at he
     · rename_i cs hcs
       obtain ⟨e,hf,hq⟩ : ∃ e, (cs.endpoints.find? fun e => e.healthy && !e.draining) =
         some e ∧ forward m .mirror (e.address,e.port.toNat) =
          .forward rt kind tg := by simpa using he
       obtain ⟨rfl,rfl,-⟩ := forward.inj hq
       have hme := mem_of_find?_eq_some hf
       have hl := find?_some hf
       rw [Bool.and_eq_true] at hl
       refine ⟨rfl,rfl,rs,name',cs,hr,hn',?_,hcs,e,mem_filter.mpr ⟨hme,hl.2⟩,hl.1⟩
       rcases hsa with ha | hp
       · have hle := UInt32.le_iff_toNat_le.mp ha
         exact lt_of_lt_of_le (by decide) hle
       · have ht := UInt32.lt_iff_toNat_lt.mp hp
         exact lt_of_le_of_lt (Nat.zero_le _) ht
   · simp at he

lemma effective_ne_nil_of_ok {a : Attempts} {n : ℕ} {fin fin' : FinalResponse}
  (ho : (attemptLoop w a (n+1) 0 fin false).2 = .ok fin') : a.effective ≠ [] := by
 intro hn
 simp only [attemptLoop,lt_self_iff_false,false_and,if_false] at ho
 split at ho
 · simp at ho
 · rename_i idx _
   exact absurd hn (ne_nil_of_length_pos (Fin.pos idx))

lemma effectiveBackends_ne_nil {cs : ClusterState}
  (hne : effectiveBackends w cs (priorityFiltered (slowStart w cs (clusterBackends w cs)))
   (priorityFiltered (slowStart w cs (clusterBackends w cs))) ≠ []) : liveEndpoints cs ≠ [] := by
 intro hn
 have hb : clusterBackends w cs = [] := by
  rw [clusterBackends,← liveEndpoints,hn]
  rfl
 rw [hb,slowStart_nil,priorityFiltered_nil,effectiveBackends_nil] at hne
 exact hne rfl

lemma kind_of_mem_sentEvents {a : Attempts} {n idx : ℕ} {tar' : SocketAddr}
  (he : forward rt kind tg ∈ sentEvents w a n idx tar') : kind ≠ .mirror := by
 rcases mem_cons.mp he with hq | hh
 · cases hq
   simp
 · unfold hedgeEvents at hh
   split_ifs at hh
   · simp only [Option.mem_toList,map_eq_some_iff] at hh
     obtain ⟨b,-,hq⟩ := hh
     cases hq
     simp
   · simp at hh

lemma forwardUpstream_forward {name : String}
  (he : forward rt kind tg ∈ (forwardUpstream h w r m name).1) :
  rt = m ∧ (∃ cs, h.config.clusters.find? name = some cs ∧ liveEndpoints cs ≠ []) ∧
   (kind ≠ .mirror ∨ forward rt kind tg ∈ mirrorEvents h w m) := by
 refine ⟨(forwardUpstream_events he).route_eq,?_⟩
 unfold forwardUpstream at he
 split at he
 · simp at he
 · rename_i cs hcs
   simp only at he
   split_ifs at he
   · simp at he
   · split at he
     · rename_i evs reply hl
       obtain ⟨hn,_,_,_,hsn⟩ := attemptLoop_sent w _ _ _ _ _ _ (by rw [hl]; exact he)
       exact ⟨⟨cs,hcs,effectiveBackends_ne_nil hn⟩,Or.inl (kind_of_mem_sentEvents hsn)⟩
     · rename_i evs fin hl
       have hn := effective_ne_nil_of_ok (congrArg Prod.snd hl)
       refine ⟨⟨cs,hcs,effectiveBackends_ne_nil hn⟩,?_⟩
       rcases mem_append.mp he with hv | hr
       · obtain ⟨-,_,_,_,hsn⟩ := attemptLoop_sent w _ _ _ _ _ _ (by rw [hl]; exact hv)
         exact Or.inl (kind_of_mem_sentEvents hsn)
       · unfold replyUpstream at hr
         split_ifs at hr
         · simp at hr
         · exact Or.inr hr

lemma serveRoute_forward (he : forward rt kind tg ∈ (serveRoute eng h w r m).1) :
  ∃ name, m.selectBackend.1 = some name ∧
   (∃ req', (runPipeline eng h.config.policies m.middlewareRefs (middlewareRequest r)).2 =
    .continueWith req') ∧ forward rt kind tg ∈ (forwardUpstream h w r m name).1 := by
 have hn : forward rt kind tg ∉ chainEvents eng h r m := fun hm =>
  chainEvents_not_forward eng _ hm ⟨rt,kind,tg,rfl⟩
 rcases serveRoute_cases eng h w r m with
  ⟨-,hq⟩ | ⟨name,ha,⟨hrf,hq⟩ | ⟨resp,-,hq⟩ | ⟨req',hr,hq⟩⟩
 · simp [hq] at he
 · rw [hq] at he
   exact ⟨name,ha,⟨_,by rw [hrf]; rfl⟩,he⟩
 · rw [hq] at he
   exact absurd he hn
 · rw [hq] at he
   rcases mem_append.mp he with hc | hf
   · exact absurd hc hn
   · exact ⟨name,ha,⟨req',hr⟩,hf⟩

end

section
variable {lib : TextLibrary} {eng : PolicyEngines} {rd : JsonValue → String}
 {req : Proto.ApplyConfigRequest} {h : ProxyHandler}

lemma runPipeline_applyConfig (cfg : RuntimeConfig) (now : Instant) (refs : List String)
  (mreq : Request) : runPipeline eng (cfg.applyConfig rd now req).policies refs mreq =
   runPipeline eng (({} : RuntimeConfig).applyConfig rd 0 req).policies refs mreq := by
 apply runPipeline_congr
 intro name
 simp only [applyConfig,applyFull,KeyedMap.find?_replaceAll_last]

variable (hs : ServesConfig lib rd req h)
include hs

lemma ServesConfig.exists_route {r : RouteRequest} {m : Route}
  (hm : h.router.matchRequestWithQuery lib r = some m) :
  ∃ rs n, Effective req rs ∧ matchesRoute lib (compileRoute lib rs) r = true ∧
   m = (compileRoute lib rs).withCounter n := by
 obtain ⟨t,ctr,ht,-,hr⟩ := hs
 rw [hr,matchRequest_withCounters] at hm
 obtain ⟨route,ho,rfl⟩ := map_eq_some_iff.mp hm
 obtain ⟨rs,hrs,rfl⟩ := (ht.mem_routes route).mp (mem_of_find?_eq_some ho)
 have ha := find?_some ho
 exact ⟨rs,_,hrs,ha,rfl⟩

lemma ServesConfig.defaultBackend : h.router.defaultBackend = none := by
 obtain ⟨t,ctr,ht,-,hr⟩ := hs
 rw [hr]
 exact ht.defaultBackend

lemma ServesConfig.exists_config : ∃ cfg now, h.config = applyConfig rd cfg now req := by
 obtain ⟨t,ctr,ht,hc,-⟩ := hs
 rw [hc]
 exact ht.exists_config

lemma ServesConfig.eq_of_find?_routes {rs rs' : RouteState} (hr : Effective req rs)
  (hf : h.config.routes.find? rs.name = some rs') : rs = rs' := by
 obtain ⟨cfg,now,hc⟩ := hs.exists_config
 rw [hc,find?_routes_applyConfig] at hf
 exact mem_unique hr hf

lemma ServesConfig.chainPasses {rs : RouteState} {r : HttpRequest} {mreq : Request}
  (hr : (runPipeline eng h.config.policies rs.middlewareRefs (middlewareRequest r)).2 =
      .continueWith mreq) : ChainPasses eng rd req rs r := by
 obtain ⟨cfg,now,hc⟩ := hs.exists_config
 rw [hc,runPipeline_applyConfig] at hr
 exact ⟨mreq,hr⟩

variable {name : String} {cs : ClusterState}

section
variable (hcs : h.config.clusters.find? name = some cs)
include hcs

lemma ServesConfig.exists_cluster :
  ∃ c, EffectiveCluster req c ∧ c.name = name ∧ liveEndpoints cs = c.endpoints := by
 obtain ⟨cfg,now,hc⟩ := hs.exists_config
 rw [hc] at hcs
 exact find?_clusters_applyConfig hcs

lemma ServesConfig.hasEndpoint (hl : liveEndpoints cs ≠ []) : HasEndpoint req name := by
 obtain ⟨c,hc,hn,hq⟩ := hs.exists_cluster hcs
 exact ⟨c,hc,hn,hq ▸ hl⟩

lemma ServesConfig.hasHealthyEndpoint (hl : ∃ e ∈ liveEndpoints cs, e.healthy = true) :
  HasHealthyEndpoint req name := by
 obtain ⟨c,hc,hn,hq⟩ := hs.exists_cluster hcs
 exact ⟨c,hc,hn,hq ▸ hl⟩

end

lemma receives_of_forward {ent : Entry} {w : World} {r : HttpRequest} {rt : Route}
  {kind : ForwardKind} {tg : SocketAddr}
  (he : forward rt kind tg ∈ (serve lib eng ent h w r).1)
  (hc : forwardCluster h (.forward rt kind tg) = some name) : Receives lib eng rd req name := by
 obtain ⟨m,hm,hse⟩ := serve_forward hs.defaultBackend he
 obtain ⟨rs,n,hrs,ha,rfl⟩ := hs.exists_route hm
 rcases hse with hu | hse
 · obtain ⟨rfl,rfl,name',cs,hl,hcs,hli⟩ := serveWebsocket_forward hu
   obtain rfl := mem_unique hl hc
   exact .selected hrs ha ⟨n,hl⟩ (hs.hasEndpoint hcs hli)
 · obtain ⟨main,hl,⟨mreq,hr⟩,hf⟩ := serveRoute_forward hse
   obtain ⟨rfl,⟨cs,hcs,hli⟩,hk⟩ := forwardUpstream_forward hf
   have hn := hs.hasEndpoint hcs hli
   by_cases hmi : kind = .mirror
   · have hme := hk.resolve_left (not_not.mpr hmi)
     obtain ⟨-,-,rs',mirror,ms,hr',hna,hp,hms,hh⟩ := mirrorEvents_mem hme
     have hn' : name = mirror := by
      rw [hmi,forwardCluster,hr'] at hc
      exact mem_unique hc hna
     obtain rfl := hs.eq_of_find?_routes hrs hr'
     rw [hn']
     exact .mirrored hrs ha hna hp (hs.chainPasses hr) ⟨n,hl⟩ hn (hs.hasHealthyEndpoint hms hh)
   · have hsa : name = main := by
      cases kind with
      | mirror => exact absurd rfl hmi
      | attempt n => exact mem_unique hc hl
      | hedge => exact mem_unique hc hl
      | websocket => exact mem_unique hc hl
     rw [hsa]
     exact .selected hrs ha ⟨n,hl⟩ hn

end

variable {bs : List Backend}

lemma getElem?_of_mem_filterByPriority {i : ℕ} (hi : i ∈ filterByPriority bs) :
  (bs[i]?).isSome := by
 unfold filterByPriority at hi
 split at hi
 · simp at hi
 · obtain ⟨⟨b,j⟩,hm,rfl⟩ := mem_map.mp hi
   have hg := mem_zipIdx_iff_getElem?.mp (mem_of_mem_filter hm)
   simp [hg]

lemma priorityFiltered_ne_nil (hn : bs ≠ []) : priorityFiltered bs ≠ [] := by
 unfold priorityFiltered
 split
 · exact hn
 · rename_i hin
   obtain ⟨i,hi⟩ := exists_mem_of_ne_nil _ hin
   obtain ⟨b,hb⟩ := isSome_iff_exists.mp (getElem?_of_mem_filterByPriority hi)
   exact ne_nil_of_mem (mem_filterMap.mpr ⟨i,hi,hb⟩)

lemma effectiveBackends_openWorld_ne_nil (cs : ClusterState) {flt : List Backend}
  (hn : flt ≠ []) (fal : List Backend) : effectiveBackends openWorld cs flt fal ≠ [] := by
 have ha : notEjected openWorld cs flt = flt := List.filter_eq_self.mpr fun _ _ => rfl
 simp only [effectiveBackends,ha,hn,if_false]
 split_ifs
 · exact hn
 · exact hn

lemma clusterBackends_ne_nil (w : World) {cs : ClusterState} (hl : liveEndpoints cs ≠ []) :
  clusterBackends w cs ≠ [] := by
 rw [clusterBackends,← liveEndpoints]
 simpa using hl

lemma slowStart_ne_nil (w : World) (cs : ClusterState) (hn : bs ≠ []) : slowStart w cs bs ≠ [] := by
 unfold slowStart
 split_ifs
 · simpa using hn
 · exact hn

lemma select_openWorld (hn : bs ≠ []) (n : ℕ) (alg : String) (ctx : RequestContext) :
  ∃ idx, openWorld.select n alg ctx bs = some idx :=
 ⟨⟨0,length_pos_iff.mpr hn⟩,dif_pos (length_pos_iff.mpr hn)⟩

section
variable {h : ProxyHandler} {r : HttpRequest} {m : Route} {name : String} {cs : ClusterState}

lemma exists_upgrade_forward (hse : m.selectBackend.1 = some name)
  (hcs : h.config.clusters.find? name = some cs) (hl : liveEndpoints cs ≠ []) :
  ∃ target, forward m .websocket target ∈ (serveWebsocket h openWorld r m).1 := by
 have hn := effectiveBackends_openWorld_ne_nil cs
  (priorityFiltered_ne_nil (clusterBackends_ne_nil openWorld hl)) (clusterBackends openWorld cs)
 obtain ⟨idx,hid⟩ := select_openWorld hn 0 cs.lbAlgorithm ⟨r.clientAddr,none,requestZone openWorld⟩
 have hb : openWorld.breakerAllows cs.name = true := rfl
 simp only [serveWebsocket,hse,hcs,hb,hid,handleWebsocketUpgrade]
 exact ⟨_,mem_singleton.mpr rfl⟩

lemma attemptLoop_openWorld {a : Attempts} {n : ℕ} {fin : FinalResponse} {evs : List Event}
  {res : Except Reply FinalResponse} (hl : attemptLoop openWorld a (n+1) 0 fin false = (evs,res))
  (hn : a.effective ≠ []) : ∃ target, res = .ok ⟨200,[],[],target⟩ ∧
   forward a.route (.attempt 0) target ∈ evs := by
 obtain ⟨idx,hid⟩ := select_openWorld hn 0 a.algorithm a.ctx
 simp only [attemptLoop,lt_self_iff_false,false_and,if_false,hid] at hl
 cases hl
 exact ⟨_,rfl,mem_cons_self⟩

lemma exists_forwardUpstream_openWorld (hcs : h.config.clusters.find? name = some cs)
  (hli : liveEndpoints cs ≠ []) : ∃ events target, (forwardUpstream h openWorld r m name).1 =
    events ++ (replyUpstream h openWorld m ⟨200,[],[],target⟩).1 ∧
   forward m (.attempt 0) target ∈ events := by
 have hn := effectiveBackends_openWorld_ne_nil cs (priorityFiltered_ne_nil
  (slowStart_ne_nil openWorld cs (clusterBackends_ne_nil openWorld hli)))
  (priorityFiltered (slowStart openWorld cs (clusterBackends openWorld cs)))
 have hb : openWorld.breakerAllows cs.name = true := rfl
 simp only [forwardUpstream,hcs,hb,Bool.true_eq_false,if_false]
 split
 · rename_i events reply hl
   obtain ⟨target,ho,-⟩ := attemptLoop_openWorld hl hn
   cases ho
 · rename_i events final hl
   obtain ⟨target,ho,hm⟩ := attemptLoop_openWorld hl hn
   rw [Except.ok.inj ho]
   exact ⟨events,target,rfl,hm⟩

lemma exists_attempt_forward (hcs : h.config.clusters.find? name = some cs)
  (hl : liveEndpoints cs ≠ []) :
  ∃ target, forward m (.attempt 0) target ∈ (forwardUpstream h openWorld r m name).1 := by
 obtain ⟨events,target,hv,hm⟩ := exists_forwardUpstream_openWorld hcs hl
 exact ⟨target,hv ▸ mem_append_left _ hm⟩

lemma exists_mirror_forward {rs : RouteState} {mir : String} {ms : ClusterState}
  (hcs : h.config.clusters.find? name = some cs) (hl : liveEndpoints cs ≠ [])
  (hr : h.config.routes.find? m.name = some rs) (hm : rs.mirrorCluster = some mir)
  (hp : 0 < rs.mirrorPercent) (hms : h.config.clusters.find? mir = some ms)
  (hh : ∃ e ∈ liveEndpoints ms, e.healthy = true) :
  ∃ target, forward m .mirror target ∈ (forwardUpstream h openWorld r m name).1 := by
 obtain ⟨e,he,ho⟩ := hh
 obtain ⟨hme,hn⟩ := mem_filter.mp he
 have hf : (ms.endpoints.find? fun e => e.healthy && !e.draining).isSome := by
  rw [find?_isSome]
  exact ⟨e,hme,by simp [ho,hn]⟩
 obtain ⟨ep,hep⟩ := isSome_iff_exists.mp hf
 have hc : forward m .mirror (ep.address,ep.port.toNat) ∈ mirrorEvents h openWorld m := by
  have ha : openWorld.mirrorSample % 100 < rs.mirrorPercent := hp
  simp [mirrorEvents,hr,hm,ha,hms,hep]
 obtain ⟨events,target,hv,-⟩ := exists_forwardUpstream_openWorld hcs hl
 refine ⟨(ep.address,ep.port.toNat),?_⟩
 rw [hv]
 exact mem_append_right events hc

end

def upgradeRequest (r : RouteRequest) : HttpRequest where
 method := r.method
 path := r.path
 query := r.query
 headers := [("host",r.host),("upgrade","websocket")]

lemma isWebsocket_upgradeRequest (r : RouteRequest) : isWebsocket (upgradeRequest r).headers := by
 have hu : eqIgnoreAsciiCase "upgrade" "upgrade" && eqIgnoreAsciiCase "websocket" "websocket" :=
  by decide
 simp only [upgradeRequest,isWebsocket,any_cons,hu,Bool.true_or,Bool.or_true]

lemma matchesRoute_upgradeRequest (lib : TextLibrary) (rs : RouteState) (r : RouteRequest) :
  matchesRoute lib (compileRoute lib rs) (routeRequest (upgradeRequest r)) =
   matchesRoute lib (compileRoute lib rs) r := by
 simp [matchesRoute,compileRoute,routeRequest,upgradeRequest,hostOf]

section
variable {lib : TextLibrary} {eng : PolicyEngines} {rd : JsonValue → String}
 {req : Proto.ApplyConfigRequest}

lemma mem_handleRequestInner {h : ProxyHandler} {r : HttpRequest} {m : Route} {name : String}
  {mreq : Request} {e : Event} (hf : h.maxActiveRequests = 0)
  (hm : h.router.matchRequestWithQuery lib (routeRequest r) = some m)
  (hl : m.selectBackend.1 = some name)
  (hr : (runPipeline eng h.config.policies m.middlewareRefs (middlewareRequest r)).2 =
   .continueWith mreq) (he : e ∈ (forwardUpstream h openWorld r m name).1) :
  e ∈ (handleRequestInner lib eng h openWorld r).1 := by
 have hse : e ∈ (serveRoute eng h openWorld r m).1 := by
  rcases serveRoute_cases eng h openWorld r m with
   ⟨hn,-⟩ | ⟨name',hn',⟨-,hq⟩ | ⟨resp,hp,-⟩ | ⟨_,-,hq⟩⟩
  · exact absurd (hn.symm.trans hl) (by simp)
  · obtain rfl := mem_unique hn' hl
    rw [hq]
    exact he
  · exact absurd (hp.symm.trans hr) (by simp)
  · obtain rfl := mem_unique hn' hl
    rw [hq]
    exact mem_append_right _ he
 simp only [handleRequestInner,hf,lt_self_iff_false,false_and,if_false,withRoute,hm]
 exact mem_cons_of_mem _ hse

lemma exists_servesConfig (hp : ∀ rs, Effective req rs → rs.priority = 0) {rs : RouteState}
  {r : RouteRequest} (hr : Effective req rs)
  (ha : matchesRoute lib (compileRoute lib rs) r = true) (n : UInt64) :
  ∃ cfg now rr, ServesConfig lib rd req ⟨rr,applyConfig rd cfg now req,0,[]⟩ ∧
   rr.matchRequestWithQuery lib r = some ((compileRoute lib rs).withCounter n) := by
 have hm : ∀ rs', Effective req rs' → matchesRoute lib (compileRoute lib rs') r = true →
   rs'.priority ≤ rs.priority := by
  intro rs' hr' _
  rw [hp rs hr,hp rs' hr']
  exact Int32.le_refl 0
 obtain ⟨t,ht,hf⟩ := exists_applied_match rd hr ha hm
 obtain ⟨cfg,now,hc⟩ := ht.exists_config
 refine ⟨cfg,now,t.router.withCounters fun _ => n,⟨t,_,ht,hc.symm,rfl⟩,?_⟩
 rw [matchRequest_withCounters,hf]
 rfl

lemma exists_forward_of_receives (hpr : ∀ rs, Effective req rs → rs.priority = 0) {name : String}
  (hre : Receives lib eng rd req name) :
  ∃ h, ServesConfig lib rd req h ∧ ∃ ent w r route kind target,
   forward route kind target ∈ (serve lib eng ent h w r).1 ∧
   forwardCluster h (.forward route kind target) = some name := by
 cases hre with
 | @selected rs r hrs ha hse hen =>
  obtain ⟨n,hn⟩ := hse
  obtain ⟨c,hc,rfl,hne⟩ := hen
  rw [← matchesRoute_upgradeRequest] at ha
  obtain ⟨cfg,now,rr,hs,ho⟩ := @exists_servesConfig _ rd _ hpr _ _ hrs ha n
  obtain ⟨cs,hcs,hl⟩ := exists_find?_clusters_applyConfig hc rd cfg now
  obtain ⟨target,hf⟩ := @exists_upgrade_forward ⟨rr,_,0,[]⟩ (upgradeRequest r)
   _ c.name cs hn hcs (hl ▸ hne)
  refine ⟨_,hs,.http1,openWorld,upgradeRequest r,(compileRoute lib rs).withCounter n,
   .websocket,target,?_,hn⟩
  simp only [serve,handleRequest,isWebsocket_upgradeRequest,if_true,withRoute,ho]
  exact mem_cons_of_mem _ hf
 | @mirrored rs r main hrs ha hm hp hch hse hen hh =>
  obtain ⟨n,hn⟩ := hse
  obtain ⟨c,hc,rfl,hne⟩ := hen
  obtain ⟨mc,hmc,rfl,hmh⟩ := hh
  obtain ⟨mreq,hr⟩ := hch
  obtain ⟨cfg,now,rr,hs,ho⟩ := @exists_servesConfig _ rd _ hpr _ _ hrs ha n
  obtain ⟨cs,hcs,hl⟩ := exists_find?_clusters_applyConfig hc rd cfg now
  obtain ⟨ms,hms,hml⟩ := exists_find?_clusters_applyConfig hmc rd cfg now
  have hro : (applyConfig rd cfg now req).routes.find? rs.name = some rs :=
   (find?_routes_applyConfig cfg now rs.name).trans hrs
  obtain ⟨target,hf⟩ := @exists_mirror_forward ⟨rr,_,0,[]⟩ r
   ((compileRoute lib rs).withCounter n) c.name cs rs mc.name ms hcs (hl ▸ hne) hro
   hm hp hms (hml ▸ hmh)
  refine ⟨_,hs,.http3,openWorld,r,(compileRoute lib rs).withCounter n,.mirror,target, ?_,?_⟩
  · rw [← runPipeline_applyConfig cfg now] at hr
    exact mem_handleRequestInner rfl ho hn hr hf
  · exact (congrArg (Option.bind · RouteState.mirrorCluster) hro).trans hm

end

lemma unset_of_translated {snap : Config.ConfigSnapshot} {rs : RouteState}
  (hr : Effective (translateSnapshot snap) rs) :
  rs.priority = 0 ∧ rs.gatewayRef = "" := by
 have hm := mem_of_mem_filter (mem_of_getLast? hr)
 obtain ⟨dp,hp,rfl⟩ := mem_map.mp hm
 simp only [translateSnapshot,translateRoutes,translateRouteRule,
  mem_flatMap,mem_map] at hp
 obtain ⟨rt,-,rule,-,m,-,rfl⟩ := hp
 obtain ⟨_,_,_,_,hf⟩ := translateRouteMatch_frame rt _ rule.1 _ m.1
 rw [hf]
 exact ⟨rfl,rfl⟩

/-- The TLS settings of a snapshot's clusters are honoured exactly if none of the clusters with
TLS is sent any request. -/
theorem upstream_tls_honoured_iff (lib : TextLibrary) (eng : PolicyEngines)
  (render : JsonValue → String) (snapshot : Config.ConfigSnapshot) :
  (∀ cl ∈ snapshot.clusters, ∀ tls, cl.tls = some tls → tls.enabled = true →
    HonoursTls lib eng render (translateSnapshot snapshot) cl.name tls) ↔
   ∀ cl ∈ snapshot.clusters, ∀ tls, cl.tls = some tls → tls.enabled = true →
    ¬ Receives lib eng render (translateSnapshot snapshot) cl.name := by
 refine forall₂_congr fun cl _ => forall₃_congr fun tls _ _ => ?_
 constructor
 · intro hh hr
   obtain ⟨h,hs,ent,w,r,route,kind,target,hf,hc⟩ :=
    exists_forward_of_receives (fun _ hrs => (unset_of_translated hrs).1) hr
   obtain ⟨transport,ht⟩ := exists_transportOf kind target
   have ho := hh h hs ent w r route kind target hf hc "/" transport ht
   rw [transportOf_eq_plain ht] at ho
   exact ho
 · intro hn h hs ent w r route kind target hf hc
   exact absurd (receives_of_forward hs hf hc) hn

def securedSnapshot : Config.ConfigSnapshot where
 routes := [{ name := "checkout", ns := "shop", rules := [{ backendRefs := [{ name := "pay" }] }] }]
 clusters := [{ name := "pay", ns := "shop", tls := some { enabled := true, caCert := [1] } }]
 endpoints := (∅ : KeyedMap String (List Config.Endpoint)).set "shop/pay"
  [{ address := "10.0.0.7", port := 443, ready := true }]

def securedHandler : ProxyHandler :=
 let cfg := ({} : RuntimeConfig).applyConfig (fun _ => "") 0
  (Translator.translateSnapshot securedSnapshot)
 { router := ({} : Router).setRoutes (cfg.routes.values.map (compileRoute noRegex)), config := cfg }

/-- The flag arrives in the dataplane's cluster, and the first attempt for it is sent in the
clear. -/
theorem secured_cluster_reached_in_the_clear :
  ServesConfig noRegex (fun _ => "") (translateSnapshot securedSnapshot)
    securedHandler ∧
   (securedHandler.config.clusters.find? "pay").map ClusterState.tlsEnabled = some true ∧
   ∃ route, forward route (.attempt 0) ("10.0.0.7",443) ∈
     (serve noRegex noEngines .http1 securedHandler openWorld {}).1 ∧
    forwardCluster securedHandler (.forward route (.attempt 0) ("10.0.0.7",443)) = some "pay" ∧
    transportOf (.attempt 0) ("10.0.0.7",443) "/" = some .plain := by
 refine ⟨⟨_,fun _ => 0,hasApplied_of_perm (List.Perm.refl _),rfl,rfl⟩,rfl,?_⟩
 exact ⟨_,mem_cons_of_mem _ mem_cons_self,rfl,rfl⟩

end NovaEdge.Dataplane
