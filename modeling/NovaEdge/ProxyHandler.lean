import NovaEdge.DataplaneRouter
import NovaEdge.MiddlewarePipeline

/-! The HTTP proxy handler as a function from a request, and the answers that the outside world
(balancers, breakers, detectors, the pool, upstreams) gives while it is served, to a trace of events
and a reply. -/
namespace NovaEdge.Dataplane
open Config (Bytes)

abbrev SocketAddr := String × ℕ

structure Backend where
 addr : String
 port : ℕ
 weight : UInt16
 healthy : Bool
 zone : Option String
 priority : UInt32

def Backend.socket (b : Backend) : SocketAddr := (b.addr,b.port)

structure RequestContext where
 src : SocketAddr
 (stickyCookie zone : Option String)

structure HttpRequest where
 method : String := "GET"
 path : String := "/"
 query : Option String := none
 headers : List (String × String) := []
 clientAddr : SocketAddr := ("",0)

/-- A response of an upstream, with no body if reading it failed, or a failed exchange. -/
inductive UpstreamOutcome
 | responded (status : ℕ) (headers : List (String × String)) (body : Option Bytes)
 | failed

/-- The world's answers while one request is served. The functions of a number are asked once in
each attempt. -/
structure World where
 activeRequests : ℕ
 parseU64 : String → Option ℕ
 body : Option Bytes
 parseIp : String → Option String
 localZone : String
 slowStartWeight : SocketAddr → UInt16 → UInt16
 breakerAllows : String → Bool
 isEjected : String → SocketAddr → Bool
 select : ℕ → String → RequestContext → (bs : List Backend) → Option (Fin bs.length)
 allowRetry : ℕ → Bool
 acquire : ℕ → SocketAddr → Bool
 buildsRequest : ℕ → Bool
 upstream : ℕ → UpstreamOutcome
 hedgeSent : Bool
 mirrorSample : UInt32
 connects : SocketAddr → Bool
 upgradeStatus : ℕ

structure ProxyHandler where
 router : Router
 config : RuntimeConfig
 maxActiveRequests : ℕ := 0
 errorPages : List ℕ := []

inductive ForwardKind
 | attempt (n : ℕ)
 | hedge
 | mirror
 | websocket
 deriving DecidableEq

inductive Event
 | matched (route : Route)
 | evaluated (policy : PolicyState)
 | pipeline (refs : List String) (result : MiddlewareResult)
 | forward (route : Route) (kind : ForwardKind) (target : SocketAddr)

structure FinalResponse where
 status : ℕ
 headers : List (String × String)
 body : Bytes
 backend : SocketAddr
 deriving DecidableEq

inductive Reply
 | text (status : ℕ) (body : String)
 | policy (resp : Response)
 | upstream (final : FinalResponse)
 | upgraded (status : ℕ)
 deriving DecidableEq

def toBackend (w : World) (e : EndpointState) : Backend where
 addr := (w.parseIp e.address).getD "127.0.0.1"
 port := e.port.toNat % 65536
 weight := e.weight.toUInt16
 healthy := e.healthy
 zone := e.zone
 priority := e.priority

def clusterBackends (w : World) (cluster : ClusterState) : List Backend :=
 (cluster.endpoints.filter fun e => !e.draining).map (toBackend w)

def filterByPriority (backends : List Backend) : List ℕ :=
 match ((backends.filter (·.healthy)).map (·.priority)).insertionSort (· ≤ ·) with
 | [] => []
 | lowest::_ =>
  (backends.zipIdx.filter fun p => p.1.healthy && p.1.priority == lowest).map Prod.snd

def priorityFiltered (backends : List Backend) : List Backend :=
 match filterByPriority backends with
 | [] => backends
 | indices => indices.filterMap fun i => backends[i]?

def notEjected (w : World) (cluster : ClusterState) (backends : List Backend) : List Backend :=
 backends.filter fun b => !w.isEjected cluster.name b.socket

def inPanicMode (cluster : ClusterState) (healthyCount total : ℕ) : Bool :=
 0 < cluster.panicThresholdPercent.toNat && 0 < total &&
  healthyCount*100 / total < cluster.panicThresholdPercent.toNat

/-- The candidates of the balancer; `fallback` is used when every candidate is ejected. -/
def effectiveBackends (w : World) (cluster : ClusterState) (filtered fallback : List Backend) :
  List Backend :=
 let healthy := notEjected w cluster filtered
 if inPanicMode cluster healthy.length filtered.length then filtered
 else if healthy = [] then fallback else healthy

def requestZone (w : World) : Option String := nonEmpty w.localZone

def defaultRoute (backend : String) : Route where
 name := "__default__"
 hostnames := []
 paths := []
 methods := []
 headers := []
 queryParams := []
 backendRefs := [(backend,1)]
 priority := 0
 rewritePath := none
 addHeaders := ∅
 middlewareRefs := []
 rrCounter := 0

def hostOf (r : HttpRequest) : String :=
 ((r.headers.find? fun h => h.1 = "host").map Prod.snd).getD ""

def routeRequest (r : HttpRequest) : RouteRequest where
 host := hostOf r
 path := r.path
 method := r.method
 headers := r.headers
 query := r.query

def withRoute (lib : TextLibrary) (router : Router) (r : HttpRequest)
  (serve : Route → List Event × Reply) : List Event × Reply :=
 match router.matchRequestWithQuery lib (routeRequest r) with
 | some route => (.matched route::(serve route).1,(serve route).2)
 | none => match router.defaultBackend with
  | some backend => serve (defaultRoute backend)
  | none => ([],.text 404 "Not Found")

def isRetryableCondition (condition : String) (retryOn : List String) : Bool :=
 if retryOn = [] then condition = "connect-failure" || condition = "reset"
 else retryOn.contains condition

def isRetryableStatus (parseU64 : String → Option ℕ) (status : ℕ) (retryOn : List String) : Bool :=
 if retryOn = [] then 500 ≤ status
 else retryOn.any fun condition =>
  if condition = "5xx" ∧ 500 ≤ status ∧ status < 600 then true
  else if condition = "gateway-error" ∧ (status = 502 ∨ status = 503 ∨ status = 504) then true
  else if condition = "retriable-4xx" ∧ status = 409 then true
  else (parseU64 condition).any fun code => code < 65536 && status = code

def isServerError (status : ℕ) : Bool := 500 ≤ status && status < 600

structure Attempts where
 route : Route
 (backends effective : List Backend)
 algorithm : String
 ctx : RequestContext
 retryOn : List String
 hedgeDelayMs : UInt64

def badGateway (backend : SocketAddr) : FinalResponse := ⟨502,[],"Bad Gateway".toUTF8.toList,backend⟩

def backendIndex (a : Attempts) (selected : Backend) (idx : ℕ) : ℕ :=
 (a.backends.findIdx? fun b => b.addr = selected.addr && b.port = selected.port).getD idx

def hedgeEvents (w : World) (a : Attempts) (attempt backendIdx : ℕ) : List Event :=
 if attempt = 0 ∧ 0 < a.hedgeDelayMs ∧ 1 < a.effective.length ∧ w.hedgeSent = true then
  ((a.backends[(backendIdx+1) % a.backends.length]?).map fun b =>
   Event.forward a.route .hedge b.socket).toList
 else []

def sentEvents (w : World) (a : Attempts) (attempt backendIdx : ℕ) (target : SocketAddr) :
  List Event :=
 .forward a.route (.attempt attempt) target::hedgeEvents w a attempt backendIdx

/-- An error is a reply that ends the request; otherwise the last response counts. -/
def attemptLoop (w : World) (a : Attempts) :
  (remaining attempt : ℕ) → (final : FinalResponse) → (gotResponse : Bool) →
   List Event × Except Reply FinalResponse
 | 0, _, final, _ => ([],.ok final)
 | remaining+1, attempt, final, gotResponse =>
  if 0 < attempt ∧ w.allowRetry attempt = false then ([],.ok final)
  else match w.select attempt a.algorithm a.ctx a.effective with
  | none => if gotResponse then ([],.ok final) else ([],.error (.text 503 "No healthy upstream"))
  | some idx =>
   let selected := a.effective.get idx
   let backendIdx := backendIndex a selected idx
   let target := ((a.backends[backendIdx]?).getD selected).socket
   let retries := fun condition => 0 < remaining && isRetryableCondition condition a.retryOn
   if w.acquire attempt target = false then
    if retries "connect-failure" then attemptLoop w a remaining (attempt+1) final gotResponse
    else if gotResponse then ([],.ok final)
    else ([],.error (.text 503 "Connection pool exhausted"))
   else if w.buildsRequest attempt = false then ([],.error (.text 500 "Internal error"))
   else
    let sent := sentEvents w a attempt backendIdx target
    match w.upstream attempt with
    | .responded _ _ none =>
     if retries "reset" then
      let rest := attemptLoop w a remaining (attempt+1) final gotResponse
      (sent ++ rest.1,rest.2)
     else if gotResponse then (sent,.ok final)
     else (sent,.error (.text 502 "Bad Gateway"))
    | .responded status headers (some body) =>
     if isServerError status && 0 < remaining &&
       isRetryableStatus w.parseU64 status a.retryOn then
      let rest := attemptLoop w a remaining (attempt+1) ⟨status,headers,body,target⟩ true
      (sent ++ rest.1,rest.2)
     else (sent,.ok ⟨status,headers,body,target⟩)
    | .failed =>
     if retries "connect-failure" then
      let rest := attemptLoop w a remaining (attempt+1) (badGateway target) true
      (sent ++ rest.1,rest.2)
     else (sent,.ok (badGateway target))

def trimChars (s : List Char) : List Char :=
 ((s.dropWhile Char.isWhitespace).reverse.dropWhile Char.isWhitespace).reverse

def cookieIn (cookieName : String) (value : String) : Option String :=
 (value.toList.splitOn ';').findSome? fun part =>
  match splitOnce '=' (trimChars part) with
  | some (name,val) =>
   if String.ofList (trimChars name) = cookieName then some (String.ofList (trimChars val))
   else none
  | none => none

def extractCookie (headers : List (String × String)) (cookieName : String) : Option String :=
 headers.findSome? fun h => if eqIgnoreAsciiCase h.1 "cookie" then cookieIn cookieName h.2 else none

def sessionAffinity (cluster : ClusterState) (headers : List (String × String)) :
  Option String × String :=
 if cluster.sessionAffinityType = "cookie" ∧ cluster.sessionAffinityCookie ≠ "" then
  (extractCookie headers cluster.sessionAffinityCookie,"sticky")
 else if cluster.sessionAffinityType = "header" ∧ cluster.sessionAffinityHeader ≠ "" then
  ((headers.find? fun h => eqIgnoreAsciiCase h.1 cluster.sessionAffinityHeader).map Prod.snd,
   "source-hash")
 else if cluster.sessionAffinityType = "source_ip" then (none,"source-hash")
 else (none,cluster.lbAlgorithm)

def slowStart (w : World) (cluster : ClusterState) (backends : List Backend) : List Backend :=
 if 0 < cluster.slowStartWindowMs then
  backends.map fun b => { b with weight := w.slowStartWeight b.socket b.weight }
 else backends

def mirrorEvents (h : ProxyHandler) (w : World) (route : Route) : List Event :=
 match (h.config.routes.find? route.name).bind fun rs =>
   rs.mirrorCluster.map fun name => (name,rs.mirrorPercent) with
 | none => []
 | some (name,percent) =>
  if 100 ≤ percent ∨ w.mirrorSample % 100 < percent then
   match h.config.clusters.find? name with
   | none => []
   | some cluster =>
    ((cluster.endpoints.find? fun e => e.healthy && !e.draining).map fun e =>
     Event.forward route .mirror (e.address,e.port.toNat)).toList
  else []

/-- An error page replaces the response and skips mirroring. -/
def replyUpstream (h : ProxyHandler) (w : World) (route : Route) (final : FinalResponse) :
  List Event × Reply :=
 if 400 ≤ final.status ∧ final.status < 600 ∧ final.status ∈ h.errorPages then
  ([],.upstream final)
 else (mirrorEvents h w route,.upstream final)

def forwardUpstream (h : ProxyHandler) (w : World) (r : HttpRequest) (route : Route)
  (clusterName : String) : List Event × Reply :=
 match h.config.clusters.find? clusterName with
 | none => ([],.text 502 "No upstream cluster")
 | some cluster =>
  let backends := slowStart w cluster (clusterBackends w cluster)
  let affinity := sessionAffinity cluster r.headers
  if w.breakerAllows cluster.name = false then ([],.text 503 "Circuit breaker open")
  else
   let filtered := priorityFiltered backends
   let rs := h.config.routes.find? route.name
   let a : Attempts :=
    { route := route
      backends := backends
      effective := effectiveBackends w cluster filtered filtered
      algorithm := affinity.2
      ctx := ⟨r.clientAddr,affinity.1,requestZone w⟩
      retryOn := (rs.map RouteState.retryOn).getD []
      hedgeDelayMs := (rs.map RouteState.hedgeDelayMs).getD 0 }
   let maxAttempts := ((rs.map RouteState.retryMax).getD 0).toNat+1
   match attemptLoop w a maxAttempts 0 (badGateway ("127.0.0.1",0)) false with
   | (events,.error reply) => (events,reply)
   | (events,.ok final) =>
    (events ++ (replyUpstream h w route final).1,(replyUpstream h w route final).2)

def middlewareRequest (r : HttpRequest) : Request where
 method := r.method
 path := r.path
 host := hostOf r
 headers := r.headers
 body := none
 clientIp := r.clientAddr.1

section
variable (lib : TextLibrary) (eng : PolicyEngines)

def serveRoute (h : ProxyHandler) (w : World) (r : HttpRequest) (route : Route) :
  List Event × Reply :=
 match route.selectBackend.1 with
 | none => ([],.text 502 "No upstream cluster")
 | some clusterName =>
  if route.middlewareRefs = [] then forwardUpstream h w r route clusterName
  else
   let run := runPipeline eng h.config.policies route.middlewareRefs (middlewareRequest r)
   let ran := run.1.map Event.evaluated ++ [.pipeline route.middlewareRefs run.2]
   match run.2 with
   | .respondWith resp => (ran,.policy resp)
   | .continueWith _ =>
    (ran ++ (forwardUpstream h w r route clusterName).1,
     (forwardUpstream h w r route clusterName).2)

def handleRequestInner (h : ProxyHandler) (w : World) (r : HttpRequest) : List Event × Reply :=
 if 0 < h.maxActiveRequests ∧ h.maxActiveRequests ≤ w.activeRequests then
  ([],.text 503 "Service Overloaded")
 else withRoute lib h.router r (serveRoute eng h w r)

def isWebsocket (headers : List (String × String)) : Bool :=
 headers.any fun h => eqIgnoreAsciiCase h.1 "upgrade" && eqIgnoreAsciiCase h.2 "websocket"

def handleWebsocketUpgrade (w : World) (route : Route) (target : SocketAddr) : List Event × Reply :=
 if w.connects target then ([.forward route .websocket target],.upgraded w.upgradeStatus)
 else ([],.text 502 "WebSocket upstream connect failed")

def serveWebsocket (h : ProxyHandler) (w : World) (r : HttpRequest) (route : Route) :
  List Event × Reply :=
 match route.selectBackend.1 with
 | none => ([],.text 502 "No upstream cluster")
 | some clusterName =>
  match h.config.clusters.find? clusterName with
  | none => ([],.text 502 "No upstream cluster")
  | some cluster =>
   if w.breakerAllows cluster.name = false then ([],.text 503 "Circuit breaker open")
   else
    let backends := clusterBackends w cluster
    let effective := effectiveBackends w cluster (priorityFiltered backends) backends
    match w.select 0 cluster.lbAlgorithm ⟨r.clientAddr,none,requestZone w⟩ effective with
    | none => ([],.text 503 "No healthy upstream")
    | some idx => handleWebsocketUpgrade w route (effective.get idx).socket

def maxBodySize : ℕ := 10*1024*1024

def contentLength (w : World) (r : HttpRequest) : Option ℕ :=
 (r.headers.find? fun h => eqIgnoreAsciiCase h.1 "content-length").bind fun h => w.parseU64 h.2

def handleRequest (h : ProxyHandler) (w : World) (r : HttpRequest) : List Event × Reply :=
 if isWebsocket r.headers then withRoute lib h.router r (serveWebsocket h w r)
 else if r.method ∈ ["GET","HEAD","DELETE","OPTIONS"] then handleRequestInner lib eng h w r
 else if (contentLength w r).any fun n => maxBodySize < n then ([],.text 413 "Payload Too Large")
 else match w.body with
  | none => ([],.text 413 "Payload Too Large")
  | some _ => handleRequestInner lib eng h w r

def handleH3Request (h : ProxyHandler) (w : World) (r : HttpRequest) : List Event × Reply :=
 match w.body with
 | none => ([],.text 413 "Payload Too Large")
 | some _ => handleRequestInner lib eng h w r

inductive Entry
 | http1
 | http3
 deriving DecidableEq

def serve (entry : Entry) (h : ProxyHandler) (w : World) (r : HttpRequest) : List Event × Reply :=
 match entry with
 | .http1 => handleRequest lib eng h w r
 | .http3 => handleH3Request lib eng h w r

end

end NovaEdge.Dataplane
