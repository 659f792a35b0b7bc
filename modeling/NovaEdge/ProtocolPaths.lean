import NovaEdge.EffectiveBackends
import NovaEdge.UpstreamTls

/-! One request over HTTP/1.1, over HTTP/3 and as a WebSocket upgrade: what the handler takes from
each of them, and what the three paths through it decide. -/
namespace NovaEdge.Dataplane
open List

open Config (Bytes)

inductive ClientProtocol
 | http1
 | http3
 | websocket
 deriving DecidableEq

/-- The body is what arrives of it; an HTTP/3 client may repeat the authority in a header. -/
structure ClientRequest where
 method : String := "GET"
 authority : String := ""
 path : String := "/"
 query : Option String := none
 headers : List (String × String) := []
 clientAddr : SocketAddr := ("",0)
 repeatsHost : Bool := false
 chunks : List Bytes := []
 cut : Bool := false
 independent : ∀ p ∈ headers, eqIgnoreAsciiCase p.1 "host" = false ∧
  eqIgnoreAsciiCase p.1 "upgrade" = false := by simp

open ClientRequest
def ClientRequest.hostHeaders (r : ClientRequest) : ClientProtocol → List (String × String)
 | .http3 => if r.repeatsHost then [("host",r.authority)] else []
 | _ => [("host",r.authority)]

def ClientProtocol.upgradeHeaders : ClientProtocol → List (String × String)
 | .websocket => [("upgrade","websocket")]
 | _ => []

/-- HTTP/3 has the authority in a pseudo header, which is no entry of the map. -/
def ClientRequest.on (r : ClientRequest) (p : ClientProtocol) : HttpRequest where
 method := r.method
 path := r.path
 query := r.query
 headers := r.hostHeaders p ++ (p.upgradeHeaders ++ r.headers)
 clientAddr := r.clientAddr

def ClientRequest.received (r : ClientRequest) : Bytes := r.chunks.flatten

/-- The loop over the chunks of an HTTP/3 request. An error ends it like the end of the body. -/
def readH3Body : List Bytes → Bytes → Option Bytes
 | [], data => some data
 | chunk::rest, data =>
  if maxBodySize < (data ++ chunk).length then none else readH3Body rest (data ++ chunk)

def collectBody (r : ClientRequest) : Option Bytes :=
 if r.cut = true ∨ maxBodySize < r.received.length then none else some r.received

inductive BodyTaken
 | refused
 | noBody
 | body (data : Bytes)
 deriving DecidableEq

def takeBody (w : World) (r : ClientRequest) : ClientProtocol → BodyTaken
 | .websocket => .noBody
 | .http1 =>
  if r.method ∈ ["GET","HEAD","DELETE","OPTIONS"] then .noBody
  else if (contentLength w (r.on .http1)).any fun n => maxBodySize < n then .refused
  else match collectBody r with
   | none => .refused
   | some data => .body data
 | .http3 => match readH3Body r.chunks [] with
  | none => .refused
  | some data => .body data

structure Offer where
 backends : List Backend
 algorithm : String
 ctx : RequestContext

section
variable (h : ProxyHandler) (w : World) (r : HttpRequest)

def clusterFor (route : Route) : Except Reply ClusterState :=
 match route.selectBackend.1 with
 | none => .error (.text 502 "No upstream cluster")
 | some name => match h.config.clusters.find? name with
  | none => .error (.text 502 "No upstream cluster")
  | some cluster =>
   if w.breakerAllows cluster.name = false then .error (.text 503 "Circuit breaker open")
   else .ok cluster

def httpOffer (cluster : ClusterState) : Offer where
 backends :=
  let filtered := priorityFiltered (slowStart w cluster (clusterBackends w cluster))
  effectiveBackends w cluster filtered filtered
 algorithm := (sessionAffinity cluster r.headers).2
 ctx := ⟨r.clientAddr,(sessionAffinity cluster r.headers).1,requestZone w⟩

/-- An upgrade has no session affinity and no slow start, and falls back to all priorities. -/
def websocketOffer (cluster : ClusterState) : Offer where
 backends :=
  let backends := clusterBackends w cluster
  effectiveBackends w cluster (priorityFiltered backends) backends
 algorithm := cluster.lbAlgorithm
 ctx := ⟨r.clientAddr,none,requestZone w⟩

def offerOf (p : ClientProtocol) : ClusterState → Offer :=
 match p with
 | .websocket => websocketOffer w r
 | _ => httpOffer w r

def querySuffix (query : Option String) : String := (query.map fun q => "?" ++ q).getD ""

/-- The path and query of the upstream request. The tunnel of an upgrade sends those of the
client. -/
def sentPath (p : ClientProtocol) (route : Route) : String :=
 match p with
 | .websocket => r.path ++ querySuffix r.query
 | _ => route.rewritePath.getD r.path ++ querySuffix r.query

lemma serveWebsocket_eq (rt : Route) : serveWebsocket h w r rt =
  match clusterFor h w rt with
  | .error reply => ([],reply)
  | .ok cluster =>
   let offer := websocketOffer w r cluster
   match w.select 0 offer.algorithm offer.ctx offer.backends with
   | none => ([],.text 503 "No healthy upstream")
   | some idx => handleWebsocketUpgrade w rt (offer.backends.get idx).socket := by
 unfold serveWebsocket clusterFor
 cases rt.selectBackend.1 with
 | none => rfl
 | some name =>
  dsimp only
  cases h.config.clusters.find? name with
  | none => rfl
  | some cluster =>
   dsimp only [websocketOffer]
   split_ifs
   · rfl
   · dsimp only
     split <;> simp_all

def forwardOffer (route : Route) (cluster : ClusterState) (offer : Offer) : List Event × Reply :=
 let rs := h.config.routes.find? route.name
 let a : Attempts :=
  { route := route
    backends := slowStart w cluster (clusterBackends w cluster)
    effective := offer.backends
    algorithm := offer.algorithm
    ctx := offer.ctx
    retryOn := (rs.map RouteState.retryOn).getD []
    hedgeDelayMs := (rs.map RouteState.hedgeDelayMs).getD 0 }
 match attemptLoop w a (((rs.map RouteState.retryMax).getD 0).toNat+1) 0
   (badGateway ("127.0.0.1",0)) false with
 | (events,.error reply) => (events,reply)
 | (events,.ok final) =>
  (events ++ (replyUpstream h w route final).1,(replyUpstream h w route final).2)

lemma serveRoute_eq (eng : PolicyEngines) {rt : Route} (hr : rt.middlewareRefs = []) :
  serveRoute eng h w r rt =
   match clusterFor h w rt with
   | .error reply => ([],reply)
   | .ok cluster => forwardOffer h w rt cluster (httpOffer w r cluster) := by
 unfold serveRoute clusterFor
 cases rt.selectBackend.1 with
 | none => rfl
 | some name =>
  dsimp only
  rw [if_pos hr,forwardUpstream]
  cases h.config.clusters.find? name with
  | none => rfl
  | some cluster =>
   dsimp only
   split_ifs <;> rfl

end

def World.reading (w : World) (r : ClientRequest) (p : ClientProtocol) : World :=
 { w with body := if p = .http3 then readH3Body r.chunks [] else collectBody r }

def ClientProtocol.entry (p : ClientProtocol) : Entry := if p = .http3 then .http3 else .http1

lemma isWebsocket_headers (r : ClientRequest) : isWebsocket r.headers = false := by
 rw [isWebsocket,any_eq_false]
 intro hdr hh
 simp [(r.independent hdr hh).2]

attribute [local simp] ClientRequest.hostHeaders ClientProtocol.upgradeHeaders

/-- An upgrade takes its own path. The others meet in the core, unless the body is refused. -/
lemma serve_on (lib : TextLibrary) (eng : PolicyEngines) (h : ProxyHandler) (w : World)
  (r : ClientRequest) (p : ClientProtocol) : serve lib eng p.entry h (w.reading r p) (r.on p) =
   if p = .websocket then
    withRoute lib h.router (r.on p) (serveWebsocket h (w.reading r p) (r.on p))
   else if takeBody w r p = .refused then ([],.text 413 "Payload Too Large")
   else handleRequestInner lib eng h (w.reading r p) (r.on p) := by
 cases p with
 | http1 =>
  have hp : isWebsocket (r.on .http1).headers = false := by
   have ht := isWebsocket_headers r
   simpa [isWebsocket,on,
    show eqIgnoreAsciiCase "host" "upgrade" = false by decide]
    using ht
  have hl : contentLength (w.reading r .http1) (r.on .http1) =
    contentLength w (r.on .http1) := rfl
  have hb : (w.reading r .http1).body = collectBody r := rfl
  have hm : (r.on .http1).method = r.method := rfl
  rw [if_neg (by decide),show ClientProtocol.http1.entry = .http1 from rfl,serve,
   handleRequest,hp,if_neg Bool.false_ne_true,hl,hb,hm]
  by_cases hk : r.method ∈ ["GET","HEAD","DELETE","OPTIONS"]
  · rw [if_pos hk,if_neg (by rw [takeBody,if_pos hk]; decide)]
  · by_cases ho : ((contentLength w (r.on .http1)).any fun n => maxBodySize < n) = true
    · rw [if_neg hk,if_pos ho,if_pos (by rw [takeBody,if_neg hk,if_pos ho])]
    · rw [if_neg hk,if_neg ho,takeBody,if_neg hk,if_neg ho]
      cases collectBody r with
      | none | some data => rfl
 | http3 =>
  cases hb : readH3Body r.chunks [] <;>
   simp [ClientProtocol.entry,serve,handleH3Request,World.reading,takeBody,hb]
 | websocket =>
  have hu : isWebsocket (r.on .websocket).headers = true := by
   simp [isWebsocket,on,eqIgnoreAsciiCase]
  simp [ClientProtocol.entry,serve,handleRequest,hu]

section
variable (lib : TextLibrary) (h : ProxyHandler) (w : World) (r : ClientRequest)

def routeOn (p : ClientProtocol) : Option Route :=
 h.router.matchRequestWithQuery lib (routeRequest (r.on p))

structure PathsAgree : Prop where
 route : ∀ p q, routeOn lib h r p = routeOn lib h r q
 offer : ∀ p q route cluster, routeOn lib h r p = some route → routeOn lib h r q = some route →
  clusterFor h w route = .ok cluster →
  (offerOf w (r.on p) p cluster).backends = (offerOf w (r.on q) q cluster).backends ∧
   (offerOf w (r.on p) p cluster).ctx.stickyCookie =
    (offerOf w (r.on q) q cluster).ctx.stickyCookie
 path : ∀ p q route, routeOn lib h r p = some route → routeOn lib h r q = some route →
  sentPath (r.on p) p route = sentPath (r.on q) q route
 body : r.cut = true → ∀ p data, takeBody w r p ≠ .body data

def admitsHost (route : Route) (host : String) : Bool :=
 route.hostnames.isEmpty || route.hostnames.any fun pattern => matchHost pattern host

def admitsRest (route : Route) : Bool :=
 matchesRoute lib { route with hostnames := [] } (routeRequest (r.on .http1))

def ClientRequest.hostOver : ClientProtocol → String
 | .http3 => if r.repeatsHost then r.authority else ""
 | _ => r.authority

structure PlainOffer (cluster : ClusterState) : Prop where
 weights : 0 < cluster.slowStartWindowMs →
  ∀ b ∈ effectiveBackends w cluster (priorityFiltered (clusterBackends w cluster))
   (priorityFiltered (clusterBackends w cluster)),
  w.slowStartWeight b.socket b.weight = b.weight
 fallback : notEjected w cluster (priorityFiltered (clusterBackends w cluster)) = [] →
  inPanicMode cluster 0 (priorityFiltered (clusterBackends w cluster)).length = false →
  priorityFiltered (clusterBackends w cluster) = clusterBackends w cluster

structure PathsCoincide : Prop where
 host : ∀ route, h.router.routes.find? (fun route => admitsRest lib r route &&
   (admitsHost route r.authority || admitsHost route (r.hostOver .http3))) = some route →
  admitsHost route r.authority = admitsHost route (r.hostOver .http3)
 affinity : ∀ route cluster, routeOn lib h r .http1 = some route →
  clusterFor h w route = .ok cluster → (sessionAffinity cluster (r.on .http1).headers).1 = none
 offer : ∀ route cluster, routeOn lib h r .http1 = some route →
  clusterFor h w route = .ok cluster → PlainOffer w cluster
 rewrite : ∀ route path, routeOn lib h r .http1 = some route → route.rewritePath = some path →
  path = r.path
 body : r.cut = true → maxBodySize < r.received.length

end

lemma readH3Body_eq (chu : List Bytes) (data : Bytes) (hf : data.length ≤ maxBodySize) :
  readH3Body chu data = if (data ++ chu.flatten).length ≤ maxBodySize then
   some (data ++ chu.flatten) else none := by
 induction chu generalizing data with
 | nil => rw [readH3Body,flatten_nil,append_nil,if_pos hf]
 | cons chunk rest ih =>
  rw [readH3Body,flatten_cons,← append_assoc]
  by_cases hover : maxBodySize < (data ++ chunk).length
  · rw [if_pos hover,if_neg]
    rw [length_append]
    omega
  · rw [if_neg hover,ih _ (by omega)]

lemma readH3Body_eq_none_iff {chu : List Bytes} {data : Bytes} (ha : data.length ≤ maxBodySize) :
  readH3Body chu data = none ↔ maxBodySize < (data ++ chu.flatten).length := by
 rw [readH3Body_eq _ _ ha,← Nat.not_le]
 by_cases hf : (data ++ chu.flatten).length ≤ maxBodySize
 · rw [if_pos hf]
   exact iff_of_false (some_ne_none _) (not_not_intro hf)
 · rw [if_neg hf]
   exact iff_of_true rfl hf

lemma takeBody_cut_iff (w : World) {r : ClientRequest} (hc : r.cut = true) :
  (∀ p data, takeBody w r p ≠ .body data) ↔ maxBodySize < r.received.length := by
 have hr := @readH3Body_eq_none_iff r.chunks [] (Nat.zero_le _)
 rw [nil_append] at hr
 rw [received,← hr]
 constructor
 · intro hn
   have h3 := hn .http3
   cases hb : readH3Body r.chunks [] with
   | none => rfl
   | some data => exact absurd (by simp [takeBody,hb]) (h3 data)
 · intro ho p data
   cases p with
   | http1 =>
    have hco : collectBody r = none := by simp [collectBody,hc]
    simp only [takeBody,hco]
    split_ifs <;> simp
   | http3 => simp [takeBody,ho]
   | websocket => simp [takeBody]

lemma ne_host_of_mem {r : ClientRequest} {hdr : String × String} (hm : hdr ∈ r.headers) :
  hdr.1 ≠ "host" := by
 intro hq
 have hh := (r.independent hdr hm).1
 rw [hq] at hh
 cases hh

attribute [local simp] ClientRequest.hostOver hostOf

lemma hostOf_on (r : ClientRequest) (p : ClientProtocol) : hostOf (r.on p) = r.hostOver p := by
 have hn : (r.headers.find? fun hdr => hdr.1 = "host") = none := by
  rw [find?_eq_none]
  intro hdr hm
  simpa using ne_host_of_mem hm
 cases p with
 | http1 | websocket => simp [on]
 | http3 =>
  by_cases hr : r.repeatsHost = true
  · simp [on,hr]
  · simp [on,hr,hn]

section
variable {lib : TextLibrary} {rd : JsonValue → String} {req : Proto.ApplyConfigRequest}
 {h : ProxyHandler}

lemma ServesConfig.headers_eq_nil (hs : ServesConfig lib rd req h) {rt : Route}
  (ho : rt ∈ h.router.routes) : rt.headers = [] := by
 obtain ⟨t,ctr,ht,-,hr⟩ := hs
 rw [hr,Router.withCounters,mem_map] at ho
 obtain ⟨compiled,hc,rfl⟩ := ho
 obtain ⟨rs,-,rfl⟩ := (ht.mem_routes compiled).mp hc
 rfl

lemma matchesRoute_on {rt : Route} (hh : rt.headers = []) (r : ClientRequest)
  (p : ClientProtocol) : matchesRoute lib rt (routeRequest (r.on p)) =
   (admitsRest lib r rt && admitsHost rt (r.hostOver p)) := by
 have ho : (routeRequest (r.on p)).host = r.hostOver p := hostOf_on r p
 simp only [matchesRoute,admitsRest,admitsHost,ho,hh,all_nil,isEmpty_nil,
  Bool.true_or,Bool.true_and,Bool.and_true]
 simp only [routeRequest,on,Bool.and_assoc]
 rw [Bool.and_comm,Bool.and_assoc,Bool.and_assoc]

lemma ServesConfig.routeOn_eq (hs : ServesConfig lib rd req h) (r : ClientRequest)
  (p : ClientProtocol) : routeOn lib h r p = h.router.routes.find? fun rt =>
   admitsRest lib r rt && admitsHost rt (r.hostOver p) :=
 find?_congr fun _ hr => matchesRoute_on (hs.headers_eq_nil hr) r p

lemma ServesConfig.routes_agree_iff (hs : ServesConfig lib rd req h) (r : ClientRequest) :
  (∀ p q, routeOn lib h r p = routeOn lib h r q) ↔
   ∀ rt, h.router.routes.find? (fun rt => admitsRest lib r rt &&
     (admitsHost rt r.authority || admitsHost rt (r.hostOver .http3))) = some rt →
    admitsHost rt r.authority = admitsHost rt (r.hostOver .http3) := by
 have hr : (∀ p q, routeOn lib h r p = routeOn lib h r q) ↔
   routeOn lib h r .http1 = routeOn lib h r .http3 := by
  have hw : routeOn lib h r .websocket = routeOn lib h r .http1 := by
   rw [hs.routeOn_eq,hs.routeOn_eq]
   rfl
  constructor
  · intro ha
    exact ha _ _
  · intro hq
    have ho : ∀ p, routeOn lib h r p = routeOn lib h r .http1 := by
     intro p
     cases p with
     | http1 => rfl
     | http3 => exact hq.symm
     | websocket => exact hw
    intro p q
    rw [ho p,ho q]
 rw [hr,hs.routeOn_eq,hs.routeOn_eq,SortOrder.find?_eq_find?_iff]
 simp only [← Bool.and_or_distrib_left]
 refine forall_congr' fun rt => imp_congr_right fun hn => ?_
 have hf := find?_some hn
 rw [Bool.and_eq_true] at hf
 rw [hf.1,Bool.true_and,Bool.true_and]
 rfl

end

section
variable (w : World) (cl : ClusterState)

lemma httpOffer_backends (r : HttpRequest) : (httpOffer w r cl).backends =
  (effectiveBackends w cl (priorityFiltered (clusterBackends w cl))
   (priorityFiltered (clusterBackends w cl))).map (·.slowStarted w cl) := by
 simp only [httpOffer,slowStart_eq_map,priorityFiltered_slowStarted, effectiveBackends_slowStarted]

lemma backends_agree_iff (r r' : HttpRequest) :
  (httpOffer w r cl).backends = (websocketOffer w r' cl).backends ↔ PlainOffer w cl := by
 rw [httpOffer_backends]
 show _ = effectiveBackends w cl (priorityFiltered (clusterBackends w cl))
  (clusterBackends w cl) ↔ _
 constructor
 · intro hq
   have hf : notEjected w cl (priorityFiltered (clusterBackends w cl)) = [] →
     inPanicMode cl 0 (priorityFiltered (clusterBackends w cl)).length = false →
     priorityFiltered (clusterBackends w cl) = clusterBackends w cl := by
    intro hj hc
    rw [effectiveBackends_eq_fallback w cl _ hj hc,effectiveBackends_eq_fallback w cl _ hj hc] at hq
    -- slow start keeps the number of backends
    have hl := congrArg List.length hq
    rw [length_map] at hl
    exact (priorityFiltered_sublist _).eq_of_length hl
   rw [effectiveBackends_congr w cl hf] at hq
   refine ⟨fun hw b hb => ?_,hf⟩
   have hse := map_inj_left.mp (hq.trans (map_id _).symm) b hb
   exact (b.slowStarted_eq_self_iff w cl).mp hse hw
 · intro hp
   rw [effectiveBackends_congr w cl hp.fallback]
   calc List.map _ _ = List.map id _ := map_congr_left fun b hb =>
         (b.slowStarted_eq_self_iff w cl).mpr fun hw => hp.weights hw b hb
    _ = _ := map_id _

lemma sessionAffinity_eq_none_of_append {fi rest : List (String × String)}
  (hn : (sessionAffinity cl (fi ++ rest)).1 = none) : (sessionAffinity cl rest).1 = none := by
 unfold sessionAffinity at hn ⊢
 split_ifs at hn ⊢
 · rw [extractCookie,findSome?_append,Option.or_eq_none_iff] at hn
   exact hn.2
 · rw [map_eq_none_iff,find?_append,Option.or_eq_none_iff] at hn
   rw [map_eq_none_iff]
   exact hn.2
 · rfl
 · rfl

lemma key_eq_none {r : ClientRequest}
  (hn : (sessionAffinity cl (r.on .http1).headers).1 = none) (p : ClientProtocol) :
  (offerOf w (r.on p) p cl).ctx.stickyCookie = none := by
 cases p with
 | http1 => exact hn
 | http3 =>
  by_cases hr : r.repeatsHost = true
  · have ha : (r.on .http3).headers = (r.on .http1).headers := by simp [on,hr]
    show (sessionAffinity cl (r.on .http3).headers).1 = none
    rw [ha]
    exact hn
  · have hrs : (r.on .http1).headers = [("host",r.authority)] ++ (r.on .http3).headers := by
     simp [on,hr]
    rw [hrs] at hn
    exact sessionAffinity_eq_none_of_append cl hn
 | websocket => rfl

end

lemma sentPath_http_eq_iff (r r' : HttpRequest) (hp : r.path = r'.path) (hq : r.query = r'.query)
  (rt : Route) : sentPath r .http1 rt = sentPath r' .websocket rt ↔
   ∀ path, rt.rewritePath = some path → path = r.path := by
 simp only [sentPath,← hp,← hq]
 cases rt.rewritePath with
 | none | some path => simp

section
variable {lib : TextLibrary} {rd : JsonValue → String} {req : Proto.ApplyConfigRequest}
 {h : ProxyHandler} {w : World} {r : ClientRequest}

lemma PathsAgree.coincide (hs : ServesConfig lib rd req h) (ha : PathsAgree lib h w r) :
  PathsCoincide lib h w r := by
 have hu : ∀ {route}, routeOn lib h r .http1 = some route →
   routeOn lib h r .websocket = some route := by
  intro route ho
  rw [ha.route .websocket .http1]
  exact ho
 constructor
 · exact (hs.routes_agree_iff r).mp ha.route
 · intro route cluster ho hc
   have hf := ha.offer .http1 .websocket route cluster ho (hu ho) hc
   exact hf.2
 · intro route cluster ho hc
   have hf := ha.offer .http1 .websocket route cluster ho (hu ho) hc
   exact (backends_agree_iff w cluster _ _).mp hf.1
 · intro route path ho hr
   have hp := ha.path .http1 .websocket route ho (hu ho)
   exact (sentPath_http_eq_iff _ _ rfl rfl route).mp hp path hr
 · intro hcu
   exact (takeBody_cut_iff w hcu).mp (ha.body hcu)

lemma PathsCoincide.agree (hs : ServesConfig lib rd req h) (hc : PathsCoincide lib h w r) :
  PathsAgree lib h w r := by
 have hr := (hs.routes_agree_iff r).mpr hc.host
 constructor
 · exact hr
 · intro p q route cluster hro _ hl
   rw [hr p .http1] at hro
   have hp := hc.offer route cluster hro hl
   have ho : ∀ p, (offerOf w (r.on p) p cluster).backends =
     (httpOffer w (r.on .http1) cluster).backends := by
    intro p
    cases p with
    | http1 | http3 => rfl
    | websocket => exact ((backends_agree_iff w cluster _ _).mpr hp).symm
   have hn := key_eq_none w cluster (hc.affinity route cluster hro hl)
   exact ⟨(ho p).trans (ho q).symm,(hn p).trans (hn q).symm⟩
 · intro p q route hro _
   rw [hr p .http1] at hro
   have ho : ∀ p, sentPath (r.on p) p route = sentPath (r.on .http1) .http1 route := by
    intro p
    cases p with
    | http1 | http3 => rfl
    | websocket =>
     exact ((sentPath_http_eq_iff _ _ rfl rfl route).mpr fun path hre =>
      hc.rewrite route path hro hre).symm
   exact (ho p).trans (ho q).symm
 · intro hu
   exact (takeBody_cut_iff w hu).mpr (hc.body hu)

end

theorem protocol_paths_agree_iff (lib : TextLibrary) (render : JsonValue → String)
  (req : Proto.ApplyConfigRequest) (h : ProxyHandler) (hs : ServesConfig lib render req h)
  (w : World) (r : ClientRequest) : PathsAgree lib h w r ↔ PathsCoincide lib h w r :=
 ⟨fun ha => ha.coincide hs,fun hc => hc.agree hs⟩

def shopSnapshot : Config.ConfigSnapshot where
 routes :=
  [{ name := "shop", ns := "edge", hostnames := ["shop.example"]
     rules :=
      [{ filters := [{ type := .urlRewrite, rewritePath := "/v2" }]
         backendRefs := [{ name := "web" }] }] }]
 clusters :=
  [{ name := "web", ns := "edge"
     sessionAffinity := some { type := "cookie", cookieName := "sid" } }]
 endpoints := (∅ : KeyedMap String (List Config.Endpoint)).set "edge/web"
  [{ address := "10.0.0.7", port := 80, ready := true }]

def shopHandler : ProxyHandler :=
 let cfg := ({} : RuntimeConfig).applyConfig (fun _ => "") 0
  (Translator.translateSnapshot shopSnapshot)
 { router := ({} : Router).setRoutes (cfg.routes.values.map (compileRoute noRegex)), config := cfg }

lemma servesConfig_shopHandler : ServesConfig noRegex (fun _ => "")
  (Translator.translateSnapshot shopSnapshot) shopHandler :=
 ⟨_,fun _ => 0,hasApplied_of_perm (List.Perm.refl _),rfl,rfl⟩

def firstVisit : ClientRequest where
 authority := "shop.example"
 path := "/v2"
 repeatsHost := true

def cutUpload : ClientRequest where
 method := "POST"
 authority := "shop.example"
 headers := [("cookie","sid=7")]
 chunks := [[1]]
 cut := true
 independent := by simp [eqIgnoreAsciiCase]

theorem first_visit_paths_agree : PathsCoincide noRegex shopHandler openWorld firstVisit ∧
   PathsAgree noRegex shopHandler openWorld firstVisit := by
 have hco : PathsCoincide noRegex shopHandler openWorld firstVisit := by
  constructor
  · intro rt _
    rfl
  · intro rt cluster ho hc
    cases ho
    cases hc
    rfl
  · intro rt cluster ho hc
    exact ⟨fun _ _ _ => rfl,fun hj => by
     cases ho
     cases hc
     exact absurd hj (by decide)⟩
  · intro rt path ho hr
    cases ho
    exact (Option.some.inj hr).symm
  · intro hu
    cases hu
 exact ⟨hco,(protocol_paths_agree_iff _ _ _ _ servesConfig_shopHandler _ _).mpr hco⟩

/-- HTTP/3 finds no route and takes the part for the body; an upgrade loses the sticky key. -/
theorem cut_upload_paths_differ :
  ServesConfig noRegex (fun _ => "") (Translator.translateSnapshot shopSnapshot) shopHandler ∧
   ¬ PathsAgree noRegex shopHandler openWorld cutUpload ∧
   routeOn noRegex shopHandler cutUpload .http3 = none ∧
   takeBody openWorld cutUpload .http3 = .body [1] ∧
   takeBody openWorld cutUpload .http1 = .refused ∧
   ∃ route cluster, routeOn noRegex shopHandler cutUpload .http1 = some route ∧
    routeOn noRegex shopHandler cutUpload .websocket = some route ∧
    clusterFor shopHandler openWorld route = .ok cluster ∧
    (httpOffer openWorld (cutUpload.on .http1) cluster).ctx.stickyCookie = some "7" ∧
    (websocketOffer openWorld (cutUpload.on .websocket) cluster).ctx.stickyCookie = none ∧
    sentPath (cutUpload.on .http1) .http1 route = "/v2" ∧
    sentPath (cutUpload.on .websocket) .websocket route = "/" := by
 refine ⟨servesConfig_shopHandler,fun ha => ?_,rfl,rfl,rfl,_,_,rfl,rfl,rfl,rfl,rfl,
  rfl,rfl⟩
 have ho : (routeOn noRegex shopHandler cutUpload .http1).isSome = true := rfl
 have hn : (routeOn noRegex shopHandler cutUpload .http3).isSome = false := rfl
 rw [ha.route .http3 .http1,ho] at hn
 cases hn

end NovaEdge.Dataplane
