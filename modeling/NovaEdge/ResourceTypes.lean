import NovaEdge.ConfigTypes

/-! The custom resources from which the controller builds a snapshot, with the fields that reach the
dataplane or the mesh through it, or that a translator of the controller sets. -/
namespace NovaEdge.V1alpha1

abbrev Bytes := Config.Bytes

abbrev Duration := Int64

def Duration.milliseconds (d : Duration) : Int64 := Int64.div d 1000000

/-- `Duration.Seconds` is floating point: the whole seconds plus the rest. -/
def Duration.seconds (d : Duration) : Float :=
 (Int64.div d 1000000000).toFloat+(Int64.mod d 1000000000).toFloat / 1000000000

inductive PathMatchType
 | exact
 | pathPrefix
 | regularExpression
 | other (name : String)

inductive HeaderMatchType
 | exact
 | regularExpression
 | other (name : String)

structure HTTPPathMatch where
 type : PathMatchType
 value : String

structure HTTPHeaderMatch where
 type : HeaderMatchType := .exact
 (name value : String)

structure HTTPQueryParamMatch where
 type : HeaderMatchType := .exact
 (name value : String)

/-- Query parameters are part of the resource and not of the snapshot. -/
structure HTTPRouteMatch where
 path : Option HTTPPathMatch := none
 headers : List HTTPHeaderMatch := []
 method : Option String := none
 queryParams : List HTTPQueryParamMatch := []

inductive HTTPRouteFilterType
 | addHeader
 | removeHeader
 | requestRedirect
 | urlRewrite
 | requestMirror
 | responseAddHeader
 | responseRemoveHeader
 | responseSetHeader
 | other (name : String)

structure HTTPHeader where
 (name value : String)

structure BackendRef where
 name : String
 ns : Option String := none
 weight : Option Int32 := none

/-- Of the filters, the snapshot has the type, the added headers and the rewritten path. -/
structure HTTPRouteFilter where
 type : HTTPRouteFilterType
 add : List HTTPHeader := []
 rewritePath : Option String := none
 removed : List String := []
 redirectURL : Option String := none
 mirrorBackend : Option BackendRef := none
 mirrorPercent : Option Int32 := none
 responseAdd : List HTTPHeader := []
 responseRemove : List String := []
 responseSet : List HTTPHeader := []

structure RouteLimits where
 requestTimeout : String := ""

structure RouteMirrorConfig where
 backendRef : BackendRef
 percentage : Int32 := 0

structure RetryConfig where
 maxRetries : Int32 := 0
 perTryTimeout : Option Duration := none
 retryOn : List String := []
 backoffBase : Option Duration := none

structure HTTPRouteRule where
 routeMatches : List HTTPRouteMatch := []
 filters : List HTTPRouteFilter := []
 backendRefs : List BackendRef := []
 mirror : Option RouteMirrorConfig := none
 limits : Option RouteLimits := none
 retry : Option RetryConfig := none

structure MiddlewareRefConfig where
 (type name : String)
 priority : Int64 := 0

structure MiddlewarePipelineConfig where
 middleware : List MiddlewareRefConfig := []

structure ProxyRoute where
 (name ns : String)
 hostnames : List String := []
 rules : List HTTPRouteRule := []
 pipeline : Option MiddlewarePipelineConfig := none

inductive PolicyType
 | rateLimit
 | jwt
 | ipAllowList
 | ipDenyList
 | cors
 | securityHeaders
 | distributedRateLimit
 | waf
 | wasmPlugin
 | basicAuth
 | forwardAuth
 | oidc
 | meshAuthorization
 | other (name : String)
 deriving DecidableEq

structure TargetRef where
 (kind name : String)
 ns : Option String := none

structure RateLimitConfig where
 requestsPerSecond : Int32
 burst : Option Int32 := none
 key : String := ""

structure JWTConfig where
 issuer : String
 audience : List String := []
 jwksUri : String
 (headerName headerPrefix : String := "")
 allowedAlgorithms : List String := []

structure IPListConfig where
 cidrs : List String
 sourceHeader : Option String := none

structure CORSConfig where
 (allowOrigins allowMethods allowHeaders exposeHeaders : List String := [])
 maxAge : Option Duration := none
 allowCredentials : Bool := false

structure HSTSConfig where
 enabled : Bool := false
 maxAge : Int64 := 0
 (includeSubDomains preload : Bool := false)

structure SecurityHeadersConfig where
 hsts : Option HSTSConfig := none
 (contentSecurityPolicy xFrameOptions : String := "")
 xContentTypeOptions : Bool := false
 (referrerPolicy permissionsPolicy : String := "")

structure WAFConfig where
 enabled : Bool := false
 mode : String := ""
 (paranoiaLevel anomalyThreshold : Int32 := 0)
 ruleExclusions : List String := []
 maxBodySize : Int64 := 0
 customRules : List String := []
 rulesConfigMap : Option String := none

structure BasicAuthPolicyConfig where
 realm : String := ""
 secretRef : String
 stripAuth : Bool := false

structure ForwardAuthPolicyConfig where
 address : String
 (authHeaders responseHeaders : List String := [])
 timeout : String := ""

structure KeycloakPolicyConfig where
 (serverURL realm : String)

structure OIDCPolicyConfig where
 issuerURL : String := ""
 (clientID clientSecretRef redirectURL : String)
 scopes : List String := []
 sessionSecretRef : String
 keycloak : Option KeycloakPolicyConfig := none

structure MeshSource where
 (namespaces serviceAccounts spiffeIDs : List String := [])

structure MeshDestination where
 (methods paths : List String := [])

structure MeshAuthorizationRule where
 sources : List MeshSource := []
 destinations : List MeshDestination := []

structure MeshAuthorizationConfig where
 rules : List MeshAuthorizationRule
 action : String

structure ProxyPolicy where
 (name ns : String)
 type : PolicyType
 targetRef : TargetRef
 rateLimit : Option RateLimitConfig := none
 jwt : Option JWTConfig := none
 ipList : Option IPListConfig := none
 cors : Option CORSConfig := none
 securityHeaders : Option SecurityHeadersConfig := none
 waf : Option WAFConfig := none
 basicAuth : Option BasicAuthPolicyConfig := none
 forwardAuth : Option ForwardAuthPolicyConfig := none
 oidc : Option OIDCPolicyConfig := none
 meshAuthorization : Option MeshAuthorizationConfig := none

inductive ProtocolType
 | http
 | https
 | http3
 | tcp
 | tls
 | udp
 | other (name : String)
 deriving DecidableEq

structure SecretReference where
 name : String
 ns : String := ""

/-- The other sources of a certificate are resolved elsewhere. -/
structure TLSConfig where
 secretRef : Option SecretReference := none
 minVersion : String := ""

inductive ClientAuthMode
 | none
 | optional
 | require
 | other (name : String)
 deriving DecidableEq

structure ClientAuthConfig where
 mode : ClientAuthMode := .other ""
 caCertRef : Option SecretReference := none

lemma httpPort_valid : 1 ≤ (80 : Int32) ∧ (80 : Int32) ≤ 65535 := by decide

lemma httpsPort_valid : 1 ≤ (443 : Int32) ∧ (443 : Int32) ≤ 65535 := by decide

structure Listener where
 name : String
 port : Int32
 port_valid : 1 ≤ port ∧ port ≤ 65535 := by decide
 protocol : ProtocolType
 tls : Option TLSConfig := none
 tlsCertificates : KeyedMap String TLSConfig := ∅
 hostnames : List String := []
 sslRedirect : Bool := false
 clientAuth : Option ClientAuthConfig := none
 allowedSourceRanges : List String := []
 maxRequestBodySize : Int64 := 0

structure TracingConfig where
 enabled : Bool := false
 samplingRate : Option Int32 := none
 requestIDHeader : String := ""
 (propagateRequestID generateRequestID : Bool := false)

structure AccessLogConfig where
 enabled : Bool := false
 format : String := ""

structure CustomErrorPage where
 codes : List Int32
 (path body contentType : String := "")

structure ProxyGateway where
 (name ns : String)
 listeners : List Listener := []
 ingressClassName : String := ""
 tracing : Option TracingConfig := none
 accessLog : Option AccessLogConfig := none
 customErrorPages : List CustomErrorPage := []

inductive LoadBalancingPolicy
 | roundRobin
 | p2c
 | ewma
 | ringHash
 | maglev
 | leastConn
 | sourceHash
 | sticky
 | other (name : String)

structure ServiceReference where
 name : String
 ns : Option String := none
 port : Int32

structure CircuitBreaker where
 (maxConnections maxPendingRequests maxRequests maxRetries : Option Int32 := none)
 consecutiveFailures : Option Int32 := none

structure RetryPolicy where
 numRetries : Option Int32 := none
 perTryTimeout : Duration := 0
 retryOn : String := ""

structure HealthCheck where
 (interval timeout : Duration := 0)
 (healthyThreshold unhealthyThreshold : Option Int32 := none)
 httpPath : Option String := none

structure OutlierDetectionConfig where
 interval : Duration := 0
 consecutive5xxThreshold : Option Int32 := none
 baseEjectionDuration : Duration := 0
 (maxEjectionPercent successRateMinHosts successRateMinRequests : Option Int32 := none)
 successRateStdevFactor : String := ""

structure SlowStartConfig where
 window : Duration
 aggression : String := ""

structure BackendTLSConfig where
 enabled : Bool
 insecureSkipVerify : Bool := false
 (caCertSecretRef clientCertSecretRef : Option String := none)

inductive SessionAffinityType
 | cookie
 | header
 | sourceIP
 | other (name : String)

structure SessionAffinityConfig where
 type : SessionAffinityType := .other ""
 cookieName : String := ""
 cookieTTL : Duration := 0
 (cookiePath headerName : String := "")
 secure : Bool := false
 sameSite : String := ""

structure ConnectionPool where
 (maxIdleConnsPerHost maxConnsPerHost : Option Int32 := none)
 idleConnTimeout : Duration := 0

structure UpstreamProxyProtocolConfig where
 enabled : Bool := false
 version : Int32 := 0

structure ProxyBackend where
 (name ns : String)
 serviceRef : Option ServiceReference := none
 lbPolicy : LoadBalancingPolicy := .other ""
 connectTimeout : Duration := 0
 circuitBreaker : Option CircuitBreaker := none
 healthCheck : Option HealthCheck := none
 outlierDetection : Option OutlierDetectionConfig := none
 slowStart : Option SlowStartConfig := none
 tls : Option BackendTLSConfig := none
 sessionAffinity : Option SessionAffinityConfig := none
 connectionPool : Option ConnectionPool := none
 upstreamProxyProtocol : Option UpstreamProxyProtocolConfig := none
 protocol : String := ""
 idleTimeout : Duration := 0
 retryPolicy : Option RetryPolicy := none

structure WANLinkSLA where
 (maxLatency maxJitter : Option Duration := none)
 maxPacketLoss : Option Float := none

structure WANTunnelEndpoint where
 publicIP : String
 port : Int32

structure ProxyWANLink where
 (name ns site iface provider bandwidth : String)
 cost : Int32 := 0
 role : String := ""
 sla : Option WANLinkSLA := none
 tunnelEndpoint : Option WANTunnelEndpoint := none

structure WANPolicyMatch where
 (hosts paths : List String := [])
 headers : KeyedMap String String := ∅

structure WANPathSelection where
 strategy : String
 failover : Bool := false
 dscpClass : String := ""

structure ProxyWANPolicy where
 (name ns : String)
 policyMatch : WANPolicyMatch := {}
 pathSelection : WANPathSelection

end NovaEdge.V1alpha1
