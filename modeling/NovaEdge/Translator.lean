import NovaEdge.DataplaneTypes

/-! The agent's translation of a configuration snapshot into the request that replaces the
dataplane's configuration. Namespaces occur only in the lookup of a cluster's endpoints. -/
namespace NovaEdge.Translator
open Config
open Proto (RouteConfig)

def safeUint64 (v : Int64) : UInt64 := if v < 0 then 0 else v.toUInt64

def safeInt32ToUint32 (v : Int32) : UInt32 := if v < 0 then 0 else v.toUInt32

def defaultBindAddress : String := "0.0.0.0"

def translateGatewayProtocol : Protocol → Proto.GatewayProtocol
 | .http => .http
 | .https => .https
 | .http3 => .http3
 | .tcp => .tcp
 | .udp => .udp
 | .tls | .unspecified => .unspecified

def translateTLS (tls : TLSConfig) : Proto.TLSConfig where
 certPem := tls.cert
 keyPem := tls.key
 caPem := tls.caCert
 minVersion := tls.minVersion

def gatewayName (gw : Gateway) (lis : Listener) : String := gw.name ++ "/" ++ lis.name

def translateListener (gw : Gateway) (lis : Listener) : Proto.GatewayConfig where
 name := gatewayName gw lis
 bindAddress := if lis.bindAddress = "" then defaultBindAddress else lis.bindAddress
 port := lis.port.toUInt32
 protocol := translateGatewayProtocol lis.protocol
 tlsConfig := lis.tls.map translateTLS
 proxyProtocol := lis.proxyProtocol.map fun p => ⟨p.enabled,p.version⟩
 hostnames := lis.hostnames
 maxRequestBodyBytes :=
  if 0 < lis.maxRequestBodyBytes then lis.maxRequestBodyBytes.toUInt64 else 0

def translateGateways (gateways : List Gateway) : List Proto.GatewayConfig :=
 gateways.flatMap fun gw => gw.listeners.map (translateListener gw)

def translatePathMatchType : PathMatchType → Proto.PathMatchType
 | .exact => .exact
 | .pathPrefix => .pathPrefix
 | .regularExpression => .regex
 | .unspecified => .unspecified

def ruleName (name : String) (ruleIdx : ℕ) : String := name ++ "/rule-" ++ toString ruleIdx

def matchName (name : String) (ruleIdx matchIdx : ℕ) : String :=
 ruleName name ruleIdx ++ "/match-" ++ toString matchIdx

def matchEntries (rule : RouteRule) : List (Option RouteMatch) :=
 if rule.routeMatches = [] then [none] else rule.routeMatches.map some

/-- The first non-empty rewrite and the first non-empty list of added headers win. -/
def applyRouteFilter (dpRoute : RouteConfig) (f : RouteFilter) : RouteConfig :=
 let dpRoute :=
  if f.type = .urlRewrite ∧ f.rewritePath ≠ "" ∧ dpRoute.rewritePath = "" then
   { dpRoute with rewritePath := f.rewritePath }
  else dpRoute
 if f.type = .addHeader ∧ 0 < f.addHeaders.length ∧ dpRoute.addHeaders.entries.length = 0 then
  { dpRoute with addHeaders := f.addHeaders.foldl (fun acc h => acc.set h.name h.value) ∅ }
 else dpRoute

def applyRouteFilters (dpRoute : RouteConfig) (filters : List RouteFilter) :
  RouteConfig :=
 filters.foldl applyRouteFilter dpRoute

def applyMirror (dpRoute : RouteConfig) (rule : RouteRule) : RouteConfig :=
 match rule.mirrorBackend with
 | none => dpRoute
 | some mirror =>
  if mirror.name = "" then dpRoute
  else
   { dpRoute with
     mirrorCluster := mirror.name
     mirrorPercent := if 0 < rule.mirrorPercent then rule.mirrorPercent.toUInt32 else 100 }

def translateBackendRef (br : BackendRef) : Proto.BackendRef where
 clusterName := br.name
 weight := br.weight.toUInt32

def translateRetry (retry : RetryConfig) : Proto.RetryPolicy where
 maxRetries := retry.maxRetries.toUInt32
 perTryTimeoutMs := safeUint64 retry.perTryTimeoutMs
 retryOn := retry.retryOn
 backoffBaseMs := safeUint64 retry.backoffBaseMs

def translateHeaderMatch (hdr : HeaderMatch) : Proto.HeaderMatch where
 name := hdr.name
 value := hdr.value

def translatePathMatch (p : PathMatch) : Proto.PathMatch where
 matchType := translatePathMatchType p.type
 value := p.value

/-- A route before filters and mirroring; `m` is the match entry, absent for a rule without
matches. -/
def matchedRoute (rt : Route) (name : String) (rule : RouteRule)
  (middlewareRefs : List String) (m : Option RouteMatch) : RouteConfig where
 name := name
 hostnames := rt.hostnames
 middlewareRefs := middlewareRefs
 pathMatch := m.bind fun m => m.path.map translatePathMatch
 headerMatches := (m.map fun m => m.headers.map translateHeaderMatch).getD []
 methods := (m.map fun m => if m.method = "" then [] else [m.method]).getD []
 backendRefs := rule.backendRefs.map translateBackendRef
 retry := rule.retry.map translateRetry
 timeoutMs := (rule.limits.map fun lim =>
  if 0 < lim.requestTimeoutMs then safeUint64 lim.requestTimeoutMs else 0).getD 0

def translateRouteMatch (rt : Route) (name : String) (rule : RouteRule)
  (middlewareRefs : List String) (m : Option RouteMatch) : RouteConfig :=
 applyMirror (applyRouteFilters (matchedRoute rt name rule middlewareRefs m) rule.filters) rule

lemma applyRouteFilters_frame (dp : RouteConfig) (fil : List RouteFilter) :
  ∃ rewritePath addHeaders, applyRouteFilters dp fil =
   { dp with rewritePath := rewritePath, addHeaders := addHeaders } := by
 induction fil generalizing dp with
 | nil => exact ⟨dp.rewritePath,dp.addHeaders,rfl⟩
 | cons f fil ih =>
  have ht : ∃ rewritePath addHeaders, applyRouteFilter dp f =
    { dp with rewritePath := rewritePath, addHeaders := addHeaders } := by
   simp only [applyRouteFilter]
   split_ifs <;> exact ⟨_,_,rfl⟩
  obtain ⟨rewritePath,addHeaders,hf⟩ := ht
  obtain ⟨rewritePath',addHeaders',hfs⟩ := ih (applyRouteFilter dp f)
  exact ⟨rewritePath',addHeaders',by rw [applyRouteFilters,List.foldl_cons,
   ← applyRouteFilters,hfs,hf]⟩

lemma applyMirror_frame (dp : RouteConfig) (rule : RouteRule) :
  ∃ mirrorCluster mirrorPercent, applyMirror dp rule =
   { dp with mirrorCluster := mirrorCluster, mirrorPercent := mirrorPercent } := by
 unfold applyMirror
 split
 · exact ⟨_,_,rfl⟩
 · split_ifs <;> exact ⟨_,_,rfl⟩

section
variable (rt : Route) (name : String) (rule : RouteRule) (refs : List String)
 (m : Option RouteMatch)

lemma translateRouteMatch_frame : ∃ rewritePath addHeaders mirrorCluster mirrorPercent,
      translateRouteMatch rt name rule refs m = { matchedRoute rt name rule refs m with
         rewritePath := rewritePath
         addHeaders := addHeaders
         mirrorCluster := mirrorCluster
         mirrorPercent := mirrorPercent } := by
 obtain ⟨rewritePath,addHeaders,hf⟩ :=
  applyRouteFilters_frame (matchedRoute rt name rule refs m) rule.filters
 obtain ⟨mirrorCluster,mirrorPercent,hm⟩ :=
  applyMirror_frame (applyRouteFilters (matchedRoute rt name rule refs m) rule.filters) rule
 exact ⟨rewritePath,addHeaders,mirrorCluster,mirrorPercent,by
  rw [translateRouteMatch,hm,hf]⟩

@[simp] lemma translateRouteMatch_name : (translateRouteMatch rt name rule refs m).name = name := by
 obtain ⟨_,_,_,_,h⟩ := translateRouteMatch_frame rt name rule refs m
 rw [h,matchedRoute]

@[simp] lemma translateRouteMatch_hostnames :
  (translateRouteMatch rt name rule refs m).hostnames = rt.hostnames := by
 obtain ⟨_,_,_,_,h⟩ := translateRouteMatch_frame rt name rule refs m
 rw [h,matchedRoute]

@[simp] lemma translateRouteMatch_pathMatch : (translateRouteMatch rt name rule refs m).pathMatch =
      m.bind fun m => m.path.map translatePathMatch := by
 obtain ⟨_,_,_,_,h⟩ := translateRouteMatch_frame rt name rule refs m
 rw [h,matchedRoute]

@[simp] lemma translateRouteMatch_methods : (translateRouteMatch rt name rule refs m).methods =
      (m.map fun m => if m.method = "" then [] else [m.method]).getD [] := by
 obtain ⟨_,_,_,_,h⟩ := translateRouteMatch_frame rt name rule refs m
 rw [h,matchedRoute]

@[simp] lemma translateRouteMatch_backendRefs :
  (translateRouteMatch rt name rule refs m).backendRefs =
   rule.backendRefs.map translateBackendRef := by
 obtain ⟨_,_,_,_,h⟩ := translateRouteMatch_frame rt name rule refs m
 rw [h,matchedRoute]

@[simp] lemma translateRouteMatch_middlewareRefs :
  (translateRouteMatch rt name rule refs m).middlewareRefs = refs := by
 obtain ⟨_,_,_,_,h⟩ := translateRouteMatch_frame rt name rule refs m
 rw [h,matchedRoute]

lemma translateRouteMatch_mirrorCluster {mir : BackendRef}
  (h : rule.mirrorBackend = some mir) (hn : mir.name ≠ "") :
  (translateRouteMatch rt name rule refs m).mirrorCluster = mir.name := by
 simp [translateRouteMatch,applyMirror,h,hn]

end

def translateRouteRule (rt : Route) (ruleIdx : ℕ) (rule : RouteRule)
  (middlewareRefs : List String) : List RouteConfig :=
 let entries := matchEntries rule
 entries.zipIdx.map fun (m,matchIdx) =>
  let name := if 1 < entries.length then matchName rt.name ruleIdx matchIdx
   else ruleName rt.name ruleIdx
  translateRouteMatch rt name rule middlewareRefs m

def middlewareNames (rt : Route) : List String :=
 (rt.pipeline.map fun p => p.middleware.map (·.name)).getD []

def translateRoutes (routes : List Route) : List RouteConfig :=
 routes.flatMap fun rt => rt.rules.zipIdx.flatMap fun (rule,ruleIdx) =>
   translateRouteRule rt ruleIdx rule (middlewareNames rt)

def translateLBAlgorithm : LoadBalancingPolicy → Proto.LBAlgorithm
 | .roundRobin => .roundRobin
 | .leastConn => .leastConn
 | .p2c => .p2c
 | .ewma => .ewma
 | .ringHash => .ringHash
 | .maglev => .maglev
 | .sourceHash => .sourceHash
 | .sticky => .sticky
 | .unspecified => .roundRobin

def translateEndpoint (ep : Endpoint) : Proto.Endpoint where
 ip := ep.address
 port := ep.port.toUInt32
 weight := if ep.weight.toUInt32 = 0 then 1 else ep.weight.toUInt32
 healthy := ep.ready

def clusterKey (cl : Cluster) : String := cl.ns ++ "/" ++ cl.name

def translateCluster (endpoints : KeyedMap String (List Endpoint)) (cl : Cluster) :
  Proto.ClusterConfig where
 name := cl.name
 lbAlgorithm := translateLBAlgorithm cl.lbPolicy
 connectTimeoutMs := safeUint64 cl.connectTimeoutMs
 endpoints := ((endpoints.find? (clusterKey cl)).getD []).map translateEndpoint
 healthCheck := cl.healthCheck.map fun hc =>
  { intervalMs := safeUint64 hc.intervalMs
    timeoutMs := safeUint64 hc.timeoutMs
    healthyThreshold := hc.healthyThreshold.toUInt32
    unhealthyThreshold := hc.unhealthyThreshold.toUInt32
    httpPath := hc.httpPath }
 circuitBreaker := cl.circuitBreaker.map fun cb =>
  { maxConnections := cb.maxConnections.toUInt32
    maxPendingRequests := cb.maxPendingRequests.toUInt32
    maxRequests := cb.maxRequests.toUInt32
    maxRetries := cb.maxRetries.toUInt32 }
 connectionPool := cl.connectionPool.map fun pool =>
  { maxConnections := pool.maxConnsPerHost.toUInt32
    maxIdle := pool.maxIdleConnsPerHost.toUInt32
    idleTimeoutMs := safeUint64 pool.idleConnTimeoutMs
    connectTimeoutMs := safeUint64 cl.connectTimeoutMs }
 -- A disabled TLS section is not carried over.
 backendTls := (cl.tls.filter (·.enabled)).map fun btls =>
  { caPem := btls.caCert, insecureSkipVerify := btls.insecureSkipVerify }
 sessionAffinity := cl.sessionAffinity.map fun sa =>
  ⟨sa.type,sa.cookieName,sa.cookieTtlSeconds,sa.cookiePath,sa.cookieSecure,
   sa.cookieSameSite,sa.headerName⟩
 outlierDetection := cl.outlierDetection.map fun od =>
  { intervalMs := safeUint64 od.intervalMs
    consecutive5xxThreshold := od.consecutive5xxThreshold.toUInt32
    baseEjectionDurationMs := safeUint64 od.baseEjectionDurationMs
    maxEjectionPercent := od.maxEjectionPercent.toUInt32
    successRateMinHosts := od.successRateMinHosts.toUInt32
    successRateMinRequests := od.successRateMinRequests.toUInt32
    successRateStdevFactor := od.successRateStdevFactor }
 slowStart := cl.slowStart.map fun ss => ⟨safeUint64 ss.windowMs,ss.aggression⟩
 upstreamProxyProtocol := (cl.upstreamProxyProtocol.filter (·.enabled)).map fun upp =>
  ⟨upp.enabled,safeInt32ToUint32 upp.version⟩
 protocol := cl.protocol

def translateClusters (clusters : List Cluster)
  (endpoints : KeyedMap String (List Endpoint)) : List Proto.ClusterConfig :=
 clusters.map (translateCluster endpoints)

def translatePolicyType : PolicyType → Proto.PolicyType
 | .rateLimit => .rateLimit
 | .jwt => .jwt
 | .basicAuth => .basicAuth
 | .forwardAuth => .forwardAuth
 | .waf => .waf
 | .cors => .cors
 | .ipAllowList | .ipDenyList => .ipFilter
 | .oidc => .oauth2
 | .securityHeaders => .securityHeaders
 | .unspecified | .distributedRateLimit | .wasmPlugin | .meshAuthorization => .unspecified

def strictTransportSecurity (hsts : Option HSTSConfig) : String :=
 match hsts.filter (·.enabled) with
 | none => ""
 | some hsts =>
  "max-age=" ++ toString hsts.maxAgeSeconds.toInt ++
   (if hsts.includeSubdomains then "; includeSubDomains" else "") ++
   (if hsts.preload then "; preload" else "")

def translateIPListPolicy (pol : Policy) : Option Proto.PolicyBody :=
 pol.ipList.map fun ipList =>
  .ipFilter ⟨if pol.type = .ipDenyList then "deny" else "allow",ipList.cidrs, ipList.sourceHeader⟩

/-- The dataplane body of a policy: its own type's section, and none for the types that have no
dataplane equivalent. -/
def translatePolicyBody (pol : Policy) : Option Proto.PolicyBody :=
 match pol.type with
 | .ipAllowList | .ipDenyList => translateIPListPolicy pol
 | .wasmPlugin | .distributedRateLimit | .meshAuthorization | .unspecified => none
 | .rateLimit => pol.rateLimit.map fun rl =>
   .rateLimit ⟨rl.requestsPerSecond.toUInt32,rl.burst.toUInt32,rl.key⟩
 | .jwt => pol.jwt.map fun jwt =>
   .jwt ⟨jwt.issuer,jwt.audience,jwt.jwksUri,jwt.headerName,jwt.headerPrefix,
    jwt.allowedAlgorithms,∅⟩
 | .basicAuth => pol.basicAuth.map fun ba => .basicAuth ⟨ba.realm,ba.htpasswd,ba.stripAuth⟩
 | .forwardAuth => pol.forwardAuth.map fun fa =>
   .forwardAuth ⟨fa.address,fa.authHeaders,fa.responseHeaders,
    if 0 < fa.timeoutMs then safeUint64 fa.timeoutMs else 0⟩
 | .waf => pol.waf.map fun waf =>
   .waf ⟨waf.enabled,waf.mode,waf.paranoiaLevel.toUInt32,waf.anomalyThreshold.toUInt32,
    waf.ruleExclusions,safeUint64 waf.maxBodySize⟩
 | .cors => pol.cors.map fun cors =>
   .cors ⟨cors.allowOrigins,cors.allowMethods,cors.allowHeaders,cors.exposeHeaders,
    safeUint64 cors.maxAgeSeconds,cors.allowCredentials⟩
 | .oidc => pol.oidc.map fun oidc =>
   .oauth2 ⟨oidc.issuerUrl,oidc.clientId,oidc.clientSecret,oidc.redirectUrl,oidc.scopes,
    oidc.sessionSecret⟩
 | .securityHeaders => pol.securityHeaders.map fun sh =>
   .securityHeaders ⟨sh.contentSecurityPolicy,sh.xFrameOptions,sh.xContentTypeOptions,
    strictTransportSecurity sh.hsts,sh.referrerPolicy,sh.permissionsPolicy⟩

def translatePolicy (pol : Policy) : Proto.PolicyConfig where
 name := pol.name
 policyType := translatePolicyType pol.type
 config := translatePolicyBody pol

def translatePolicies (policies : List Policy) : List Proto.PolicyConfig :=
 policies.map translatePolicy

def translateL4Protocol : Protocol → Proto.L4Protocol
 | .tcp => .tcp
 | .udp => .udp
 | .tls => .tlsPassthrough
 | .unspecified | .http | .https | .http3 => .unspecified

/-- The backends of TLS routes are not carried over. The timeout of UDP sessions wins over that
of idle TCP connections. -/
def translateL4Listener (l4 : L4Listener) : Proto.L4ListenerConfig where
 name := l4.name
 bindAddress := if l4.bindAddress = "" then defaultBindAddress else l4.bindAddress
 port := l4.port.toUInt32
 protocol := translateL4Protocol l4.protocol
 backendRefs := if l4.backendName = "" then [] else [{ clusterName := l4.backendName }]
 idleTimeoutMs := match l4.udpConfig with
  | some udp => safeUint64 udp.sessionTimeoutMs
  | none => (l4.tcpConfig.map fun tcp => safeUint64 tcp.idleTimeoutMs).getD 0
 connectTimeoutMs := (l4.tcpConfig.map fun tcp => safeUint64 tcp.connectTimeoutMs).getD 0

def translateL4Listeners (listeners : List L4Listener) : List Proto.L4ListenerConfig :=
 listeners.map translateL4Listener

def translateSnapshot (snapshot : ConfigSnapshot) : Proto.ApplyConfigRequest where
 version := snapshot.version
 gateways := translateGateways snapshot.gateways
 routes := translateRoutes snapshot.routes
 clusters := translateClusters snapshot.clusters snapshot.endpoints
 policies := translatePolicies snapshot.policies
 l4Listeners := translateL4Listeners snapshot.l4Listeners

end NovaEdge.Translator
