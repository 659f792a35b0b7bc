import NovaEdge.GatewayApiTypes
import NovaEdge.NameEncoding

/-! The translation of Ingress resources. One gateway stands for the resource, and each rule and
each path has a route or a backend that is named after its position. -/
namespace NovaEdge.Networking
open KeyedMap List

open GatewayApi (ObjectKey ObjectMeta OwnerReference Written)
open V1alpha1

structure ServiceBackendPort where
 name : String := ""
 number : Int32 := 0

structure IngressServiceBackend where
 name : String
 port : ServiceBackendPort := {}

structure IngressBackend where
 service : Option IngressServiceBackend := none

inductive PathType
 | exact
 | pathPrefix
 | implementationSpecific
 | other (name : String)

structure HTTPIngressPath where
 path : String := ""
 pathType : Option PathType := none
 backend : IngressBackend := {}

/-- Rules without an HTTP section have no paths at all. -/
structure IngressRule where
 host : String := ""
 http : Option (List HTTPIngressPath) := none

structure IngressTLS where
 hosts : List String := []
 secretName : String := ""

structure Ingress extends ObjectMeta where
 annotations : KeyedMap String String := ∅
 finalizers : List String := []
 deleting : Bool := false
 ingressClassName : Option String := none
 defaultBackend : Option IngressBackend := none
 tls : List IngressTLS := []
 rules : List IngressRule := []

/-- Functions of Go's libraries: an error of one of them is no result. -/
structure TranslatorLibrary where
 parseDuration : String → Option Duration
 parseInt32 : String → Option Int32
 parseInt64 : String → Option Int64
 unmarshalHeaders : String → Option (KeyedMap String String)
 unmarshalErrorPages : String → Option (List CustomErrorPage)
 (toLower toUpper trimSpace : String → String)

structure MapOrder (α : Type) where
 order : List α → List α
 perm : ∀ l, (order l).Perm l

structure ServicePort where
 name : String
 port : Int32

/-- The headers are iterated over once for each path. -/
structure TranslateEnv where
 lib : TranslatorLibrary
 services : ObjectKey → Option (List ServicePort)
 hostOrder : MapOrder String
 headerOrder : (ruleIdx pathIdx : ℕ) → MapOrder (String × String)
 backendOrder : MapOrder (String × Written ProxyBackend)

def Ingress.generateGatewayName (ingress : Ingress) : String := ingress.name ++ "-gateway"

def Ingress.generateRouteName (ingress : Ingress) (ruleIdx : ℕ) : String :=
 ingress.name ++ "-route-" ++ toString ruleIdx

def Ingress.generateBackendName (ingress : Ingress) (ruleIdx pathIdx : ℕ) : String :=
 ingress.name ++ "-backend-" ++ toString ruleIdx ++ "-" ++ toString pathIdx

def Ingress.generateDefaultBackendName (ingress : Ingress) : String :=
 ingress.name ++ "-backend-default"

def Ingress.annotation? (ingress : Ingress) (name : String) : Option String :=
 ingress.annotations.find? ("novaedge.io/" ++ name)

def Ingress.annotation (ingress : Ingress) (name : String) : String :=
 (ingress.annotation? name).getD ""

def Ingress.getIngressClassName (ingress : Ingress) : String := ingress.ingressClassName.getD
  ((ingress.annotations.find? "kubernetes.io/ingress.class").getD "")

def Ingress.copyLabels (ingress : Ingress) : KeyedMap String String :=
 (ingress.labels.set "novaedge.io/ingress-name" ingress.name).set "novaedge.io/managed-by"
  "ingress-controller"

def Ingress.written {α : Type} (ingress : Ingress) (spec : α) : Written α where
 spec := spec
 labels := ingress.copyLabels
 owners := [ingress.ownerRef "Ingress"]

section
variable (lib : TranslatorLibrary) (ingress : Ingress)

def TranslatorLibrary.isTrue (s : String) : Bool := lib.toLower s = "true"

def TranslatorLibrary.splitList (s : String) : List String :=
 ((s.toList.splitOn ',').map fun part => lib.trimSpace (String.ofList part)).filter fun part =>
  part ≠ ""

def getLBPolicy : LoadBalancingPolicy :=
 match (ingress.annotation? "load-balancing").map lib.toLower with
 | some "roundrobin" => .roundRobin
 | some "p2c" => .p2c
 | some "ewma" => .ewma
 | some "ringhash" => .ringHash
 | some "maglev" => .maglev
 | _ => .roundRobin

def shouldSSLRedirect : Bool :=
 match ingress.annotation? "force-ssl-redirect" with
 | some force => lib.isTrue force
 | none => match ingress.annotation? "ssl-redirect" with
  | some redirect => lib.isTrue redirect
  | none => 0 < ingress.tls.length

def getWhitelistSourceRanges : List String :=
 let ranges := ingress.annotation "whitelist-source-range"
 if ranges = "" then [] else lib.splitList ranges

def sizeUnit (size : List Char) : Int64 × List Char :=
 match size.getLast? with
 | some 'k' => (1024,size.dropLast)
 | some 'm' => (1024*1024,size.dropLast)
 | some 'g' => (1024*1024*1024,size.dropLast)
 | _ => (1,size)

/-- A size that does not parse is no limit. The product wraps around. -/
def getProxyBodySize : Int64 :=
 let size := ingress.annotation "proxy-body-size"
 if size = "" then 0
 else
  let parts := sizeUnit (lib.toLower (lib.trimSpace size)).toList
  ((lib.parseInt64 (String.ofList parts.2)).map (· * parts.1)).getD 0

def getRequestHeaders : KeyedMap String String :=
 let headers := ingress.annotation "request-headers"
 if headers = "" then ∅ else (lib.unmarshalHeaders headers).getD ∅

def getRemoveRequestHeaders : List String :=
 let headers := ingress.annotation "remove-request-headers"
 if headers = "" then [] else lib.splitList headers

def TranslatorLibrary.parsePercent (s : String) : Option Int32 :=
 if s = "" then none else (lib.parseInt32 s).filter fun n => 0 ≤ n && n ≤ 100

def getCanaryWeight : Int32 := (lib.parsePercent (ingress.annotation "canary-weight")).getD 0

def getCanaryHeader : String × String :=
 let header := ingress.annotation "canary-header"
 let value := ingress.annotation "canary-header-value"
 if header = "" then ("","") else (header,if value = "" then "true" else value)

def getTracingConfig : Option TracingConfig :=
 let enabled := ingress.annotation "tracing-enabled"
 let samplingRate := ingress.annotation "tracing-sampling-rate"
 if enabled = "" ∧ samplingRate = "" then none
 else some
  { enabled := if enabled = "" then true else lib.isTrue enabled
    samplingRate := lib.parsePercent samplingRate
    requestIDHeader := "X-Request-ID"
    propagateRequestID := true
    generateRequestID := true }

def getAccessLogConfig : Option AccessLogConfig :=
 let enabled := ingress.annotation "access-log-enabled"
 let format := ingress.annotation "access-log-format"
 if enabled = "" ∧ format = "" then none
 else some
  { enabled := if enabled = "" then true else lib.isTrue enabled
    format := if format = "" then "json" else format }

def getCustomErrorPages : List CustomErrorPage :=
 let pages := ingress.annotation "custom-error-pages"
 if pages = "" then [] else (lib.unmarshalErrorPages pages).getD []

def getMirrorConfig : Option (BackendRef × Option Int32) :=
 let mirror := ingress.annotation "mirror-backend"
 if mirror = "" then none
 else some ({ name := mirror },lib.parsePercent (ingress.annotation "mirror-percent"))

def useRegexPathMatching : Bool := lib.isTrue (ingress.annotation "use-regex")

def applyTimeoutAnnotations (b : ProxyBackend) : ProxyBackend :=
 let parsed (name : String) : Option Duration :=
  (ingress.annotation? name).bind lib.parseDuration
 -- the send timeout counts only if there is no read timeout, not even one that does not parse
 let idle := match ingress.annotation? "proxy-read-timeout" with
  | some _ => parsed "proxy-read-timeout"
  | none => parsed "proxy-send-timeout"
 { b with
   connectTimeout := (parsed "proxy-connect-timeout").getD b.connectTimeout
   idleTimeout := idle.getD b.idleTimeout }

def applyBackendProtocol (b : ProxyBackend) : ProxyBackend :=
 match (ingress.annotation? "backend-protocol").map lib.toUpper with
 | some "HTTPS" => { b with tls := some { enabled := true } }
 | some "GRPCS" => { b with tls := some { enabled := true } }
 | _ => b

def hasCookieAffinity : Bool := (ingress.annotation? "session-affinity").map lib.toLower = some "cookie"

def applySessionAffinity (b : ProxyBackend) : ProxyBackend :=
 if hasCookieAffinity lib ingress then { b with lbPolicy := .ringHash } else b

def applyUpstreamHash (b : ProxyBackend) : ProxyBackend :=
 match (ingress.annotation? "upstream-hash-by").map lib.toLower with
 | none => b
 | some hashBy =>
  if hashBy ∈ ["$request_uri","$uri","uri","$remote_addr","$binary_remote_addr","ip",
    "header","cookie"] then { b with lbPolicy := .ringHash }
  else { b with lbPolicy := .maglev }

def applyRetryPolicy (b : ProxyBackend) : ProxyBackend :=
 let attempts := ingress.annotation? "retry-attempts"
 let retryOn := ingress.annotation "retry-on"
 let perTryTimeout := ingress.annotation "retry-per-try-timeout"
 if attempts = none ∧ retryOn = "" ∧ perTryTimeout = "" then b
 else
  { b with
    retryPolicy := some
     { numRetries := (attempts.bind lib.parseInt32).filter fun n => 0 ≤ n && n ≤ 10
       retryOn := retryOn
       perTryTimeout := if perTryTimeout = "" then 0
        else (lib.parseDuration perTryTimeout).getD 0 } }

def TranslatorLibrary.parsePositive (s : String) : Option Int32 :=
 if s = "" then none else (lib.parseInt32 s).filter fun n => 0 < n

def applyCircuitBreaker (b : ProxyBackend) : ProxyBackend :=
 let maxConnections := ingress.annotation "circuit-breaker-max-connections"
 let maxPending := ingress.annotation "circuit-breaker-max-pending-requests"
 let maxRequests := ingress.annotation "circuit-breaker-max-requests"
 let consecutiveFailures := ingress.annotation "circuit-breaker-consecutive-failures"
 if maxConnections = "" ∧ maxPending = "" ∧ maxRequests = "" ∧ consecutiveFailures = "" then b
 else
  { b with
    circuitBreaker := some
     { maxConnections := lib.parsePositive maxConnections
       maxPendingRequests := lib.parsePositive maxPending
       maxRequests := lib.parsePositive maxRequests
       consecutiveFailures := lib.parsePositive consecutiveFailures } }

def applySessionAffinityConfig (b : ProxyBackend) : ProxyBackend :=
 let ttl := ingress.annotation "session-affinity-cookie-ttl"
 if hasCookieAffinity lib ingress then
  { b with
    sessionAffinity := some
     { type := .cookie
       cookieName := ingress.annotation "session-affinity-cookie-name"
       cookieTTL := if ttl = "" then 0 else (lib.parseDuration ttl).getD 0 }
    lbPolicy := .ringHash }
 else b

def applyHealthCheck (b : ProxyBackend) : ProxyBackend :=
 let path := ingress.annotation "health-check-path"
 let interval := ingress.annotation "health-check-interval"
 let isGRPC := lib.isTrue (ingress.annotation "grpc-health-check")
 if path = "" ∧ interval = "" ∧ isGRPC = false then b
 else
  { b with
    healthCheck := some
     { httpPath := if path = "" then none else some path
       interval := if interval = "" then 0 else (lib.parseDuration interval).getD 0 } }

def applyGRPCBackend (b : ProxyBackend) : ProxyBackend :=
 let protocol := lib.toUpper (ingress.annotation "backend-protocol")
 if lib.isTrue (ingress.annotation "grpc-backend") ∨ protocol = "GRPC" then
  { b with protocol := "gRPC" }
 else if protocol = "GRPCS" then
  { b with protocol := "gRPCS", tls := some (b.tls.getD { enabled := true }) }
 else if protocol = "HTTP2" then { b with protocol := "HTTP2" }
 else b

def backendAnnotations : List (ProxyBackend → ProxyBackend) :=
 [applyTimeoutAnnotations lib ingress,applyBackendProtocol lib ingress,
  applySessionAffinity lib ingress,applyUpstreamHash lib ingress,applyRetryPolicy lib ingress,
  applyCircuitBreaker lib ingress,applySessionAffinityConfig lib ingress,
  applyHealthCheck lib ingress,applyGRPCBackend lib ingress]

end

section
variable (env : TranslateEnv) (ingress : Ingress)

def TranslateEnv.resolveServicePort (ns serviceName portName : String) : Option Int32 :=
 (env.services (ns,serviceName)).bind fun ports =>
  (ports.find? fun port => port.name = portName).map ServicePort.port

/-- A port that cannot be resolved is taken to be 80. -/
def getServicePort (service : IngressServiceBackend) : Int32 :=
 if service.port.number ≠ 0 then service.port.number
 else if service.port.name ≠ "" then
  (env.resolveServicePort ingress.ns service.name service.port.name).getD 80
 else 80

def translateBackend (backend : IngressBackend) (backendName : String) : Written ProxyBackend :=
 let plain : ProxyBackend :=
  { name := backendName
    ns := ingress.ns
    lbPolicy := getLBPolicy env.lib ingress
    serviceRef := backend.service.map fun service =>
     { name := service.name, ns := some ingress.ns, port := getServicePort env ingress service } }
 ingress.written ((backendAnnotations env.lib ingress).foldl (fun b apply => apply b) plain)

def Ingress.secretTLS (secretName : String) : TLSConfig where
 secretRef := some { name := secretName, ns := ingress.ns }
 minVersion := "TLS1.3"

/-- An entry without hosts is for every host. -/
def tlsCertificatesOf (certificates : KeyedMap String TLSConfig) (tls : IngressTLS) :
  KeyedMap String TLSConfig :=
 if tls.secretName = "" then certificates
 else if tls.hosts = [] then certificates.set "*" (ingress.secretTLS tls.secretName)
 else tls.hosts.foldl (fun acc host => acc.set host (ingress.secretTLS tls.secretName)) certificates

def createHTTPSListener : Listener where
 name := "https"
 port := 443
 protocol := .https
 hostnames := ingress.tls.flatMap IngressTLS.hosts
 tlsCertificates := ingress.tls.foldl (tlsCertificatesOf ingress) ∅
 tls := (ingress.tls.head?.filter fun tls => tls.secretName ≠ "").map fun tls =>
  ingress.secretTLS tls.secretName

def translateGateway : Written ProxyGateway :=
 let hostnames := env.hostOrder.order
  ((ingress.rules.map IngressRule.host).filter fun host => host ≠ "").dedup
 let bodySize := getProxyBodySize env.lib ingress
 let allowedRanges := getWhitelistSourceRanges env.lib ingress
 let httpListener : Listener :=
  { name := "http", port := 80, port_valid := httpPort_valid, protocol := .http
    hostnames := hostnames
    sslRedirect := shouldSSLRedirect env.lib ingress
    maxRequestBodySize := bodySize, allowedSourceRanges := allowedRanges }
 let httpsListener : Listener :=
  { createHTTPSListener ingress with
    maxRequestBodySize := bodySize, allowedSourceRanges := allowedRanges }
 ingress.written
  { name := ingress.generateGatewayName
    ns := ingress.ns
    ingressClassName := ingress.getIngressClassName
    listeners := if 0 < ingress.tls.length then [httpListener,httpsListener] else [httpListener]
    tracing := getTracingConfig env.lib ingress
    accessLog := getAccessLogConfig env.lib ingress
    customErrorPages := getCustomErrorPages env.lib ingress }

def regexCharacters : List Char := "^$.*+?[]()\x7b\x7d|\\".toList

def convertPathMatchWithIngress (path : HTTPIngressPath) : Option HTTPPathMatch :=
 if path.path = "" then none
 else if useRegexPathMatching env.lib ingress then some ⟨.regularExpression,path.path⟩
 else match path.pathType with
  | none => some ⟨.pathPrefix,path.path⟩
  | some .exact => some ⟨.exact,path.path⟩
  | some .pathPrefix => some ⟨.pathPrefix,path.path⟩
  | some .implementationSpecific =>
   if path.path.toList.any fun c => c ∈ regexCharacters then some ⟨.regularExpression,path.path⟩
   else some ⟨.pathPrefix,path.path⟩
  | some (.other _) => some ⟨.other "",path.path⟩

/-- Filters for the rewrite, the added and removed headers and the mirror, as far as there are
annotations for them. -/
def routeFilters (ruleIdx pathIdx : ℕ) : List HTTPRouteFilter :=
 let requestHeaders := (env.headerOrder ruleIdx pathIdx).order (getRequestHeaders env.lib ingress).pairs
 let removeHeaders := getRemoveRequestHeaders env.lib ingress
 ((ingress.annotation? "rewrite-target").map fun target =>
  { type := .urlRewrite, rewritePath := some target : HTTPRouteFilter }).toList ++
 (if requestHeaders = [] then []
  else [{ type := .addHeader, add := requestHeaders.map fun h => ⟨h.1,h.2⟩ }]) ++
 (if removeHeaders = [] then [] else [{ type := .removeHeader, removed := removeHeaders }]) ++
 ((getMirrorConfig env.lib ingress).map fun mirror =>
  { type := .requestMirror, mirrorBackend := some mirror.1, mirrorPercent := mirror.2 :
    HTTPRouteFilter }).toList

def translateRouteRule (path : HTTPIngressPath) (ruleIdx pathIdx : ℕ) : HTTPRouteRule :=
 let weight := getCanaryWeight env.lib ingress
 let canary := getCanaryHeader ingress
 { backendRefs :=
    [{ name := ingress.generateBackendName ruleIdx pathIdx
       weight := if 0 < weight then some weight else none }]
   routeMatches := ((convertPathMatchWithIngress env ingress path).map fun pathMatch =>
    { path := some pathMatch
      headers := if canary.1 = "" then [] else [⟨.other "",canary.1,canary.2⟩] :
      HTTPRouteMatch }).toList
   filters := routeFilters env ingress ruleIdx pathIdx }

def translateRoute (rule : IngressRule) (ruleIdx : ℕ) : Written ProxyRoute := ingress.written
  { name := ingress.generateRouteName ruleIdx
    ns := ingress.ns
    hostnames := if rule.host = "" then [] else [rule.host]
    rules := (rule.http.getD []).zipIdx.map fun p => translateRouteRule env ingress p.1 ruleIdx p.2 }

structure TranslationResult where
 gateway : Written ProxyGateway
 routes : List (Written ProxyRoute)
 backends : List (Written ProxyBackend)

def Ingress.namedPaths : List (String × IngressBackend) :=
 ingress.rules.zipIdx.flatMap fun r => ((r.1.http.getD []).zipIdx.map fun p =>
  (ingress.generateBackendName r.2 p.2,p.1.backend))

def backendMap : KeyedMap String (Written ProxyBackend) := ingress.namedPaths.foldl (fun acc p =>
  if (acc.find? p.1).isSome then acc else acc.set p.1 (translateBackend env ingress p.2 p.1)) ∅

def translateDefaultBackend : List (Written ProxyBackend) :=
 let name := ingress.generateDefaultBackendName
 match ingress.defaultBackend with
 | none => []
 | some backend =>
  if ((backendMap env ingress).find? name).isSome then []
  else [translateBackend env ingress backend name]

def translate : TranslationResult where
 gateway := translateGateway env ingress
 routes := (ingress.rules.zipIdx.filter fun r => r.1.http.isSome).map fun r =>
  translateRoute env ingress r.1 r.2
 backends := (env.backendOrder.order (backendMap env ingress).pairs).map Prod.snd ++
  translateDefaultBackend env ingress

end

def gatewayKey (w : Written ProxyGateway) : ObjectKey := (w.spec.ns,w.spec.name)

def routeKey (w : Written ProxyRoute) : ObjectKey := (w.spec.ns,w.spec.name)

def backendKey (w : Written ProxyBackend) : ObjectKey := (w.spec.ns,w.spec.name)

section
variable (ingress : Ingress)

def Ingress.gatewayKeys : List ObjectKey := [(ingress.ns,ingress.generateGatewayName)]

/-- Only rules with an HTTP section have a route. -/
def Ingress.routeKeys : List ObjectKey :=
 (ingress.rules.zipIdx.filter fun r => r.1.http.isSome).map fun r =>
  (ingress.ns,ingress.generateRouteName r.2)

def Ingress.backendKeys : List ObjectKey := (ingress.namedPaths.map fun p => (ingress.ns,p.1)) ++
  (ingress.defaultBackend.map fun _ => (ingress.ns,ingress.generateDefaultBackendName)).toList

end

section
variable {env : TranslateEnv} {ing : Ingress}

lemma keepsKey_of_mem_backendAnnotations {lib : TranslatorLibrary} {app : ProxyBackend → ProxyBackend}
  (ha : app ∈ backendAnnotations lib ing) (b : ProxyBackend) :
  (app b).ns = b.ns ∧ (app b).name = b.name := by
 simp only [backendAnnotations,mem_cons,not_mem_nil,or_false] at ha
 rcases ha with rfl | rfl | rfl | rfl | rfl | rfl | rfl | rfl | rfl
 · exact ⟨rfl,rfl⟩
 · unfold applyBackendProtocol
   split <;> exact ⟨rfl,rfl⟩
 · unfold applySessionAffinity
   split_ifs <;> exact ⟨rfl,rfl⟩
 · unfold applyUpstreamHash
   split
   · exact ⟨rfl,rfl⟩
   · split_ifs <;> exact ⟨rfl,rfl⟩
 · unfold applyRetryPolicy
   dsimp only
   split_ifs <;> exact ⟨rfl,rfl⟩
 · unfold applyCircuitBreaker
   dsimp only
   split_ifs <;> exact ⟨rfl,rfl⟩
 · unfold applySessionAffinityConfig
   split_ifs <;> exact ⟨rfl,rfl⟩
 · unfold applyHealthCheck
   dsimp only
   split_ifs <;> exact ⟨rfl,rfl⟩
 · unfold applyGRPCBackend
   dsimp only
   split_ifs <;> exact ⟨rfl,rfl⟩

lemma backendKey_translateBackend (be : IngressBackend) (name : String) :
  backendKey (translateBackend env ing be name) = (ing.ns,name) := by
 have hl : ∀ (fs : List (ProxyBackend → ProxyBackend)) (b : ProxyBackend),
   (∀ f ∈ fs, ∀ b, (f b).ns = b.ns ∧ (f b).name = b.name) →
   (fs.foldl (fun b apply => apply b) b).ns = b.ns ∧
    (fs.foldl (fun b apply => apply b) b).name = b.name := by
  intro fs
  induction fs with
  | nil => exact fun _ _ => ⟨rfl,rfl⟩
  | cons f fs ih =>
   intro b hk
   obtain ⟨hn,ha⟩ := ih (f b) fun g hg => hk g (mem_cons_of_mem _ hg)
   obtain ⟨hn',ha'⟩ := hk f mem_cons_self b
   exact ⟨hn.trans hn',ha.trans ha'⟩
 obtain ⟨hn,ha⟩ := hl (backendAnnotations env.lib ing) _
  fun f hf b => keepsKey_of_mem_backendAnnotations hf b
 exact Prod.ext hn ha

lemma find?_foldl_backends (l : List (String × IngressBackend))
  (acc : KeyedMap String (Written ProxyBackend)) (name : String) :
  (l.foldl (fun acc p => if (acc.find? p.1).isSome then acc
    else acc.set p.1 (translateBackend env ing p.2 p.1)) acc).find? name =
   (acc.find? name).or ((l.find? fun p => p.1 = name).map fun p =>
    translateBackend env ing p.2 p.1) := by
 induction l generalizing acc with
 | nil => simp
 | cons p l ih =>
  rw [foldl_cons,ih,find?_cons]
  by_cases hn : p.1 = name
  · subst hn
    by_cases hf : (acc.find? p.1).isSome = true
    · obtain ⟨w,hw⟩ := isSome_iff_exists.mp hf
      simp [hw]
    · have ho : acc.find? p.1 = none := by simpa using hf
      simp [ho]
  · have ht : (if (acc.find? p.1).isSome then acc
      else acc.set p.1 (translateBackend env ing p.2 p.1)).find? name = acc.find? name := by
     split_ifs
     · rfl
     · exact find?_set_ne acc _ (Ne.symm hn)
    simp [ht,hn]

lemma find?_backendMap (name : String) : (backendMap env ing).find? name =
  (ing.namedPaths.find? fun p => p.1 = name).map fun p =>
   translateBackend env ing p.2 p.1 := by
 rw [backendMap,find?_foldl_backends,find?_empty,Option.none_or]

lemma isSome_find?_backendMap (name : String) :
  ((backendMap env ing).find? name).isSome = true ↔ name ∈ ing.namedPaths.map Prod.fst := by
 rw [find?_backendMap,Option.isSome_map,find?_isSome]
 simp

lemma backendKey_of_mem_backendMap {p : String × Written ProxyBackend}
  (hp : p ∈ (backendMap env ing).pairs) : backendKey p.2 = (ing.ns,p.1) := by
 rw [mem_pairs_iff,find?_backendMap,map_eq_some_iff] at hp
 obtain ⟨path,ht,hw⟩ := hp
 have hn := find?_some ht
 rw [← hw,backendKey_translateBackend]
 simpa using hn

lemma mem_names_backendMap {name : String} : name ∈ (backendMap env ing).pairs.map Prod.fst ↔
      name ∈ ing.namedPaths.map Prod.fst := by
 refine Iff.trans ?_ (@isSome_find?_backendMap env ing name)
 rw [isSome_iff_exists,mem_map]
 constructor
 · rintro ⟨p,hp,rfl⟩
   exact ⟨p.2,mem_pairs_iff.mp hp⟩
 · intro ⟨w,hw⟩
   exact ⟨(name,w),mem_pairs_iff.mpr hw,rfl⟩

def iteratedNames (env : TranslateEnv) (ingress : Ingress) : List String :=
 (env.backendOrder.order (backendMap env ingress).pairs).map Prod.fst

lemma mem_iteratedNames {name : String} :
  name ∈ iteratedNames env ing ↔ name ∈ ing.namedPaths.map Prod.fst :=
 ((env.backendOrder.perm _).map Prod.fst).mem_iff.trans mem_names_backendMap

lemma nodup_iteratedNames : (iteratedNames env ing).Nodup :=
 ((env.backendOrder.perm _).map Prod.fst).nodup_iff.mpr (pairs_keys_nodup _)

lemma keys_translate_backends : (translate env ing).backends.map backendKey =
  ((iteratedNames env ing) ++ (ing.defaultBackend.toList.filter fun _ =>
   ing.generateDefaultBackendName ∉ ing.namedPaths.map Prod.fst).map fun _ =>
    ing.generateDefaultBackendName).map fun name => (ing.ns,name) := by
 have ha : ((env.backendOrder.order (backendMap env ing).pairs).map Prod.snd).map backendKey =
   (iteratedNames env ing).map fun name => (ing.ns,name) := by
  rw [iteratedNames,map_map,map_map]
  apply map_congr_left
  intro p hp
  exact backendKey_of_mem_backendMap ((env.backendOrder.perm _).mem_iff.mp hp)
 have hde : (translateDefaultBackend env ing).map backendKey =
   ((ing.defaultBackend.toList.filter fun _ =>
    ing.generateDefaultBackendName ∉ ing.namedPaths.map Prod.fst).map fun _ =>
     ing.generateDefaultBackendName).map fun name => (ing.ns,name) := by
  have ht := @isSome_find?_backendMap env ing ing.generateDefaultBackendName
  unfold translateDefaultBackend
  cases ing.defaultBackend with
  | none => rfl
  | some backend =>
   by_cases hm : ing.generateDefaultBackendName ∈ ing.namedPaths.map Prod.fst
   · simp only [if_pos (ht.mpr hm)]
     simp [hm]
   · simp only [if_neg (mt ht.mp hm)]
     simp [hm,backendKey_translateBackend]
 rw [translate,map_append,ha,hde,← map_append]

lemma nodup_translate_backends : ((translate env ing).backends.map backendKey).Nodup := by
 rw [keys_translate_backends]
 refine List.Nodup.map (fun name name' h => (Prod.mk.inj h).2) ?_
 rw [nodup_append]
 refine ⟨nodup_iteratedNames,?_,?_⟩
 · cases ing.defaultBackend with
   | none => simp
   | some be =>
    simp only [Option.toList_some,filter_cons,filter_nil]
    split_ifs <;> simp
 · intro name hn name' hde hq
   obtain ⟨be,hb,rfl⟩ := mem_map.mp hde
   have hf := (mem_filter.mp hb).2
   rw [hq,mem_iteratedNames] at hn
   simp [hn] at hf

lemma mem_translate_backends_iff {k : ObjectKey} :
  k ∈ (translate env ing).backends.map backendKey ↔ k ∈ ing.backendKeys := by
 have ha : (k ∈ (iteratedNames env ing).map fun name => (ing.ns,name)) ↔
   k ∈ ing.namedPaths.map fun p => (ing.ns,p.1) := by
  have hm : (ing.namedPaths.map fun p => (ing.ns,p.1)) =
    (ing.namedPaths.map Prod.fst).map fun name => (ing.ns,name) := by simp
  rw [hm,mem_map,mem_map]
  simp only [mem_iteratedNames]
 rw [keys_translate_backends,map_append,mem_append,ha,Ingress.backendKeys,mem_append]
 cases ing.defaultBackend with
 | none => simp
 | some backend =>
  by_cases ht : ing.generateDefaultBackendName ∈ ing.namedPaths.map Prod.fst
  · have hde : (ing.ns,ing.generateDefaultBackendName) ∈
      ing.namedPaths.map fun p => (ing.ns,p.1) := by
     obtain ⟨p,hp,hn⟩ := mem_map.mp ht
     exact mem_map.mpr ⟨p,hp,by rw [hn]⟩
    simp only [ht,not_true_eq_false,decide_false,filter_false,map_nil,
     not_mem_nil,or_false,Option.map_some,Option.toList_some,mem_singleton]
    constructor
    · exact fun hk => .inl hk
    · rintro (hk | rfl)
      · exact hk
      · exact hde
  · simp [ht]

lemma keys_translate_routes : (translate env ing).routes.map routeKey = ing.routeKeys := by
 rw [translate,map_map]
 rfl

lemma nodup_routeKeys : ing.routeKeys.Nodup := by
 have hid : (ing.rules.zipIdx.map Prod.snd).Nodup := by
  rw [zipIdx_map_snd]
  exact nodup_range'
 have ho : ((ing.rules.zipIdx.filter fun r => r.1.http.isSome).map Prod.snd).Nodup :=
  hid.sublist (filter_sublist.map Prod.snd)
 have hn : Function.Injective fun ri => (ing.ns,ing.generateRouteName ri) := by
  intro i j h
  exact NameEncoding.append_toString_inj _ (Prod.mk.inj h).2
 have hk := ho.map hn
 rw [map_map] at hk
 exact hk

end

end NovaEdge.Networking
