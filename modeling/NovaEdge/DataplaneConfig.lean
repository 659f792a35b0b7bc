import NovaEdge.DataplaneTypes
import NovaEdge.Json
import NovaEdge.KeyedMapReplace

/-! Runtime configuration of the dataplane: the states it keeps for gateways, routes, clusters and
policies, their conversion from the control interface, and the replacement of a full
configuration. Every map is keyed by the entry's own name. -/
namespace NovaEdge.Dataplane
open Proto
open Config (Bytes)

abbrev Instant := ℕ

structure TlsState where
 (certPem keyPem : Bytes)
 clientCaPem : Option Bytes

structure GatewayState where
 (name bindAddress : String)
 port : UInt32
 protocol : String
 tls : Option TlsState
 hostnames : List String

structure RouteState where
 (name gatewayRef : String)
 hostnames : List String
 (pathPrefix pathExact pathRegex : String)
 methods : List String
 backendRefs : List (String × UInt32)
 priority : Int32
 rewritePath : Option String
 addHeaders : KeyedMap String String
 middlewareRefs : List String
 mirrorCluster : Option String
 mirrorPercent : UInt32
 defaultBackend : Option String
 retryMax : UInt32
 retryPerTryTimeoutMs : UInt64
 retryOn : List String
 (retryBackoffBaseMs hedgeDelayMs : UInt64)
 hedgeMaxRequests : UInt32

structure PolicyState where
 (name policyType targetRef configJson : String)

structure EndpointState where
 address : String
 (port weight : UInt32)
 healthy : Bool
 zone : Option String
 priority : UInt32
 draining : Bool
 drainStart : Option Instant
 deriving DecidableEq

structure RemoteEndpointGroup where
 clusterName : String
 endpoints : List EndpointState
 priority : UInt32

structure ClusterState where
 name : String
 endpoints : List EndpointState
 (lbAlgorithm healthCheckPath sessionAffinityType sessionAffinityCookie : String)
 sessionAffinityHeader : String
 outlierConsecutive5xx : UInt32
 outlierEjectionDurationMs : UInt64
 outlierMaxEjectionPct : UInt32
 outlierIntervalMs : UInt64
 (outlierSrMinHosts outlierSrMinRequests : UInt32)
 outlierSrStdevFactor : Float
 slowStartWindowMs : UInt64
 slowStartAggression : Float
 protocol : String
 upstreamProxyProtocolEnabled : Bool
 upstreamProxyProtocolVersion : UInt32
 (tlsEnabled tlsInsecureSkipVerify : Bool)
 tlsCaPem : Bytes
 tlsServerName : String
 (cbFailureThreshold cbSuccessThreshold : UInt32)
 cbOpenDurationMs : UInt64
 (cbHalfOpenMaxRequests poolMaxConnections poolMaxIdle : UInt32)
 (poolIdleTimeoutMs poolConnectTimeoutMs : UInt64)
 (panicThresholdPercent maxRequestsPerConnection requestQueueDepth : UInt32)
 requestQueueTimeoutMs : UInt64
 subsetSize : UInt32
 remoteEndpoints : List RemoteEndpointGroup

def nonEmpty (s : String) : Option String := if s = "" then none else some s

def lbAlgoStr : LBAlgorithm → String
 | .roundRobin => "round-robin"
 | .leastConn => "least-conn"
 | .p2c => "p2c"
 | .ewma => "ewma"
 | .ringHash => "ring-hash"
 | .maglev => "maglev"
 | .random => "random"
 | .sourceHash => "source-hash"
 | .sticky => "sticky"
 | .unspecified => "round-robin"

def protocolStr : GatewayProtocol → String
 | .http => "HTTP"
 | .https => "HTTPS"
 | .http3 => "HTTP3"
 | .tcp => "TCP"
 | .udp => "UDP"
 | .unspecified => "HTTP"

def gatewayFromProto (gw : GatewayConfig) : GatewayState where
 name := gw.name
 bindAddress := gw.bindAddress
 port := gw.port
 protocol := protocolStr gw.protocol
 tls := gw.tlsConfig.map fun tls =>
  ⟨tls.certPem,tls.keyPem,if tls.caPem = [] then none else some tls.caPem⟩
 hostnames := gw.hostnames

/-- The three path fields: a prefix, an exact path (also for an unspecified type) and a regex. -/
def pathFields : Option PathMatch → String × String × String
 | none => ("","","")
 | some pm => match pm.matchType with
  | .pathPrefix => (pm.value,"","")
  | .regex => ("","",pm.value)
  | .exact | .unspecified => ("",pm.value,"")

def routeFromProto (route : RouteConfig) : RouteState where
 name := route.name
 gatewayRef := route.gatewayRef
 hostnames := route.hostnames
 pathPrefix := (pathFields route.pathMatch).1
 pathExact := (pathFields route.pathMatch).2.1
 pathRegex := (pathFields route.pathMatch).2.2
 methods := route.methods
 backendRefs := route.backendRefs.map fun b => (b.clusterName,b.weight)
 priority := route.priority
 rewritePath := nonEmpty route.rewritePath
 addHeaders := route.addHeaders
 middlewareRefs := route.middlewareRefs
 mirrorCluster := nonEmpty route.mirrorCluster
 mirrorPercent := route.mirrorPercent
 defaultBackend := nonEmpty route.defaultBackend
 retryMax := (route.retry.map (·.maxRetries)).getD 0
 retryPerTryTimeoutMs := (route.retry.map (·.perTryTimeoutMs)).getD 0
 retryOn := (route.retry.map (·.retryOn)).getD []
 retryBackoffBaseMs := (route.retry.map (·.backoffBaseMs)).getD 0
 hedgeDelayMs := route.hedgeDelayMs
 hedgeMaxRequests := route.hedgeMaxRequests

def endpointFromProto (e : Endpoint) : EndpointState where
 address := e.ip
 port := e.port
 weight := e.weight
 healthy := e.healthy
 zone := nonEmpty e.zone
 priority := e.priority
 draining := false
 drainStart := none

def clusterFromProto (cluster : ClusterConfig) : ClusterState where
 name := cluster.name
 endpoints := cluster.endpoints.map endpointFromProto
 lbAlgorithm := lbAlgoStr cluster.lbAlgorithm
 healthCheckPath := (cluster.healthCheck.map (·.httpPath)).getD ""
 sessionAffinityType := (cluster.sessionAffinity.map (·.type)).getD ""
 sessionAffinityCookie := (cluster.sessionAffinity.map (·.cookieName)).getD ""
 sessionAffinityHeader := (cluster.sessionAffinity.map (·.headerName)).getD ""
 outlierConsecutive5xx := (cluster.outlierDetection.map (·.consecutive5xxThreshold)).getD 0
 outlierEjectionDurationMs := (cluster.outlierDetection.map (·.baseEjectionDurationMs)).getD 0
 outlierMaxEjectionPct := (cluster.outlierDetection.map (·.maxEjectionPercent)).getD 0
 outlierIntervalMs := (cluster.outlierDetection.map (·.intervalMs)).getD 0
 outlierSrMinHosts := (cluster.outlierDetection.map (·.successRateMinHosts)).getD 0
 outlierSrMinRequests := (cluster.outlierDetection.map (·.successRateMinRequests)).getD 0
 outlierSrStdevFactor := (cluster.outlierDetection.map (·.successRateStdevFactor)).getD 0
 slowStartWindowMs := (cluster.slowStart.map (·.windowMs)).getD 0
 slowStartAggression := (cluster.slowStart.map (·.aggression)).getD 1
 protocol := cluster.protocol
 upstreamProxyProtocolEnabled := (cluster.upstreamProxyProtocol.map (·.enabled)).getD false
 upstreamProxyProtocolVersion := (cluster.upstreamProxyProtocol.map (·.version)).getD 0
 tlsEnabled := cluster.backendTls.isSome
 tlsInsecureSkipVerify := (cluster.backendTls.map (·.insecureSkipVerify)).getD false
 tlsCaPem := (cluster.backendTls.map (·.caPem)).getD []
 tlsServerName := ""
 cbFailureThreshold := (cluster.circuitBreaker.map (·.consecutiveErrors)).getD 0
 cbSuccessThreshold := (cluster.circuitBreaker.map (·.successThreshold)).getD 0
 cbOpenDurationMs := (cluster.circuitBreaker.map (·.openDurationMs)).getD 0
 cbHalfOpenMaxRequests := (cluster.circuitBreaker.map (·.halfOpenMaxRequests)).getD 0
 poolMaxConnections := (cluster.connectionPool.map (·.maxConnections)).getD 0
 poolMaxIdle := (cluster.connectionPool.map (·.maxIdle)).getD 0
 poolIdleTimeoutMs := (cluster.connectionPool.map (·.idleTimeoutMs)).getD 0
 poolConnectTimeoutMs := (cluster.connectionPool.map (·.connectTimeoutMs)).getD 0
 panicThresholdPercent := cluster.panicThresholdPercent
 maxRequestsPerConnection := cluster.maxRequestsPerConnection
 requestQueueDepth := cluster.requestQueueDepth
 requestQueueTimeoutMs := cluster.requestQueueTimeoutMs
 subsetSize := cluster.subsetSize
 remoteEndpoints := cluster.remoteEndpointGroups.map fun g =>
  ⟨g.clusterName,g.endpoints.map endpointFromProto,g.priority⟩

def policyTypeStr : PolicyType → String
 | .rateLimit => "rate-limit"
 | .jwt => "jwt"
 | .basicAuth => "basic-auth"
 | .forwardAuth => "forward-auth"
 | .oauth2 => "oauth2"
 | .waf => "waf"
 | .cors => "cors"
 | .ipFilter => "ip-filter"
 | .securityHeaders => "security-headers"
 | .unspecified => "unknown"

def jsonStrings (xs : List String) : JsonValue := .arr (xs.map .str)

/-- Bodies without a case of their own, those of JWT policies among them, become an empty
object. -/
def policyConfigToJson : PolicyBody → JsonValue
 | .rateLimit rl => .obj [
   ("requests_per_second",.num (toString rl.requestsPerSecond)),
   ("burst",.num (toString rl.burst)),
   ("key",.str rl.key)]
 | .basicAuth ba => .obj [
   ("realm",.str ba.realm),
   ("htpasswd",.str ba.htpasswd),
   ("strip_authorization",.bool ba.stripAuthorization)]
 | .cors cors => .obj [
   ("allow_origins",jsonStrings cors.allowOrigins),
   ("allow_methods",jsonStrings cors.allowMethods),
   ("allow_headers",jsonStrings cors.allowHeaders),
   ("expose_headers",jsonStrings cors.exposeHeaders),
   ("allow_credentials",.bool cors.allowCredentials),
   ("max_age_seconds",.num (toString cors.maxAgeSeconds))]
 | .ipFilter ipf => .obj [
   ("action",.str ipf.action),
   ("cidrs",jsonStrings ipf.cidrs),
   ("source_header",.str ipf.sourceHeader)]
 | .waf w => .obj [
   ("enabled",.bool w.enabled),
   ("mode",.str w.mode),
   ("paranoia_level",.num (toString w.paranoiaLevel)),
   ("anomaly_threshold",.num (toString w.anomalyThreshold)),
   ("rule_exclusions",jsonStrings w.ruleExclusions),
   ("max_body_size",.num (toString w.maxBodySize))]
 | .securityHeaders sh => .obj [
   ("content_security_policy",.str sh.contentSecurityPolicy),
   ("x_frame_options",.str sh.xFrameOptions),
   ("x_content_type_options",.bool sh.xContentTypeOptions),
   ("strict_transport_security",.str sh.strictTransportSecurity),
   ("referrer_policy",.str sh.referrerPolicy),
   ("permissions_policy",.str sh.permissionsPolicy)]
 | .jwt _ | .forwardAuth _ | .oauth2 _ => .obj []

/-- The reference a policy targets is not part of the control interface. -/
def policyFromProto (render : JsonValue → String) (p : PolicyConfig) : PolicyState where
 name := p.name
 policyType := policyTypeStr p.policyType
 targetRef := ""
 configJson := (p.config.map fun c => render (policyConfigToJson c)).getD ""

structure RuntimeConfig where
 gateways : KeyedMap String GatewayState := ∅
 routes : KeyedMap String RouteState := ∅
 clusters : KeyedMap String ClusterState := ∅
 policies : KeyedMap String PolicyState := ∅
 version : String := ""

def drainDeadlineMs : ℕ := 30000

def sameAddress (e e' : EndpointState) : Bool := e.address = e'.address && e.port = e'.port

/-- Endpoints of the old list that the new one no longer has, marked as draining now. -/
def startDraining (now : Instant) (old new : List EndpointState) : List EndpointState :=
 (old.filter fun e => !new.any (sameAddress e) && !e.draining).map fun e =>
  { e with draining := true, drainStart := some now, healthy := false }

def stillDraining (now : Instant) (e : EndpointState) : Bool :=
 e.draining && e.drainStart.any fun t => now - t < drainDeadlineMs

/-- Draining endpoints of the old list are carried forward until their deadline. -/
def carryDraining (now : Instant) (eps : List EndpointState) (old : List EndpointState) :
  List EndpointState :=
 old.foldl (fun acc e =>
  if stillDraining now e && !acc.any (sameAddress e) then acc ++ [e] else acc) eps

def drainReplaced (now : Instant) (existing : Option ClusterState) (c : ClusterState) :
  ClusterState :=
 match existing with
 | none => c
 | some old =>
  { c with
    endpoints := carryDraining now (c.endpoints ++ startDraining now old.endpoints c.endpoints)
     old.endpoints }

/-- The reads of the clock during one call are taken to be one instant. -/
def RuntimeConfig.applyFull (cfg : RuntimeConfig) (now : Instant) (version : String)
  (gateways : List GatewayState) (routes : List RouteState) (clusters : List ClusterState)
  (policies : List PolicyState) : RuntimeConfig where
 gateways := cfg.gateways.replaceAll (·.name) (fun _ g => g) gateways
 routes := cfg.routes.replaceAll (·.name) (fun _ r => r) routes
 clusters := cfg.clusters.replaceAll (·.name) (drainReplaced now) clusters
 policies := cfg.policies.replaceAll (·.name) (fun _ p => p) policies
 version := version

/-- The part of `apply_config` that sets the configuration store. -/
def RuntimeConfig.applyConfig (render : JsonValue → String) (cfg : RuntimeConfig) (now : Instant)
  (req : ApplyConfigRequest) : RuntimeConfig :=
 cfg.applyFull now req.version (req.gateways.map gatewayFromProto)
  (req.routes.map routeFromProto) (req.clusters.map clusterFromProto)
  (req.policies.map (policyFromProto render))

end NovaEdge.Dataplane
