import NovaEdge.ConfigTypes

/-! Messages of the dataplane's control interface that `ApplyConfig` carries for gateways, routes,
clusters and policies. -/
namespace NovaEdge.Proto
open Config (Bytes)

inductive GatewayProtocol
 | unspecified
 | http
 | https
 | http3
 | tcp
 | udp

structure TLSConfig where
 (certPem keyPem caPem : Bytes := [])
 minVersion : String := ""
 insecureSkipVerify : Bool := false

structure ProxyProtocolConfig where
 enabled : Bool := false
 version : Int32 := 0

structure GatewayConfig where
 (name bindAddress : String := "")
 port : UInt32 := 0
 protocol : GatewayProtocol := .unspecified
 tlsConfig : Option TLSConfig := none
 proxyProtocol : Option ProxyProtocolConfig := none
 hostnames : List String := []
 maxRequestBodyBytes : UInt64 := 0

inductive PathMatchType
 | unspecified
 | pathPrefix
 | exact
 | regex

structure PathMatch where
 matchType : PathMatchType := .unspecified
 value : String := ""

structure HeaderMatch where
 (name value : String := "")
 (isRegex invert : Bool := false)

structure BackendRef where
 clusterName : String := ""
 weight : UInt32 := 0

structure RetryPolicy where
 maxRetries : UInt32 := 0
 perTryTimeoutMs : UInt64 := 0
 retryOn : List String := []
 backoffBaseMs : UInt64 := 0

structure RouteConfig where
 (name gatewayRef : String := "")
 hostnames : List String := []
 pathMatch : Option PathMatch := none
 headerMatches : List HeaderMatch := []
 backendRefs : List BackendRef := []
 middlewareRefs : List String := []
 timeoutMs : UInt64 := 0
 retry : Option RetryPolicy := none
 priority : Int32 := 0
 methods : List String := []
 rewritePath : String := ""
 addHeaders : KeyedMap String String := ∅
 mirrorCluster : String := ""
 mirrorPercent : UInt32 := 0
 defaultBackend : String := ""
 hedgeDelayMs : UInt64 := 0
 hedgeMaxRequests : UInt32 := 0

inductive LBAlgorithm
 | unspecified
 | roundRobin
 | leastConn
 | p2c
 | ewma
 | ringHash
 | maglev
 | random
 | sourceHash
 | sticky

structure Endpoint where
 ip : String := ""
 (port weight : UInt32 := 0)
 healthy : Bool := false
 zone : String := ""
 priority : UInt32 := 0

structure HealthCheckConfig where
 (intervalMs timeoutMs : UInt64 := 0)
 (healthyThreshold unhealthyThreshold : UInt32 := 0)
 httpPath : String := ""

structure CircuitBreakerConfig where
 (maxConnections maxPendingRequests maxRequests maxRetries consecutiveErrors : UInt32 := 0)
 openDurationMs : UInt64 := 0
 (successThreshold halfOpenMaxRequests : UInt32 := 0)

structure ConnectionPoolConfig where
 (maxConnections maxIdle : UInt32 := 0)
 (idleTimeoutMs connectTimeoutMs : UInt64 := 0)

structure SessionAffinityConfig where
 (type cookieName : String := "")
 cookieTtlSeconds : Int64 := 0
 cookiePath : String := ""
 cookieSecure : Bool := false
 (cookieSameSite headerName : String := "")

structure OutlierDetectionConfig where
 intervalMs : UInt64 := 0
 consecutive5xxThreshold : UInt32 := 0
 baseEjectionDurationMs : UInt64 := 0
 (maxEjectionPercent successRateMinHosts successRateMinRequests : UInt32 := 0)
 successRateStdevFactor : Float := 0

structure SlowStartConfig where
 windowMs : UInt64 := 0
 aggression : Float := 0

structure UpstreamProxyProtocolConfig where
 enabled : Bool := false
 version : UInt32 := 0

structure RemoteEndpointGroup where
 clusterName : String := ""
 endpoints : List Endpoint := []
 priority : UInt32 := 0

structure ClusterConfig where
 name : String := ""
 endpoints : List Endpoint := []
 lbAlgorithm : LBAlgorithm := .unspecified
 healthCheck : Option HealthCheckConfig := none
 circuitBreaker : Option CircuitBreakerConfig := none
 connectionPool : Option ConnectionPoolConfig := none
 backendTls : Option TLSConfig := none
 connectTimeoutMs : UInt64 := 0
 sessionAffinity : Option SessionAffinityConfig := none
 outlierDetection : Option OutlierDetectionConfig := none
 slowStart : Option SlowStartConfig := none
 protocol : String := ""
 upstreamProxyProtocol : Option UpstreamProxyProtocolConfig := none
 (panicThresholdPercent maxRequestsPerConnection requestQueueDepth : UInt32 := 0)
 requestQueueTimeoutMs : UInt64 := 0
 subsetSize : UInt32 := 0
 remoteEndpointGroups : List RemoteEndpointGroup := []

inductive PolicyType
 | unspecified
 | rateLimit
 | jwt
 | basicAuth
 | forwardAuth
 | oauth2
 | waf
 | cors
 | ipFilter
 | securityHeaders

structure RateLimitPolicyConfig where
 (requestsPerSecond burst : UInt32 := 0)
 key : String := ""

structure JWTPolicyConfig where
 issuer : String := ""
 audiences : List String := []
 (jwksUri headerName headerPrefix : String := "")
 allowedAlgorithms : List String := []
 requiredClaims : KeyedMap String String := ∅

structure BasicAuthPolicyConfig where
 (realm htpasswd : String := "")
 stripAuthorization : Bool := false

structure ForwardAuthPolicyConfig where
 address : String := ""
 (authRequestHeaders authResponseHeaders : List String := [])
 timeoutMs : UInt64 := 0

structure OAuth2PolicyConfig where
 (issuerUrl clientId clientSecret redirectUrl : String := "")
 scopes : List String := []
 sessionSecret : Bytes := []

structure WAFPolicyConfig where
 enabled : Bool := false
 mode : String := ""
 (paranoiaLevel anomalyThreshold : UInt32 := 0)
 ruleExclusions : List String := []
 maxBodySize : UInt64 := 0

structure CORSPolicyConfig where
 (allowOrigins allowMethods allowHeaders exposeHeaders : List String := [])
 maxAgeSeconds : UInt64 := 0
 allowCredentials : Bool := false

structure IPFilterPolicyConfig where
 action : String := ""
 cidrs : List String := []
 sourceHeader : String := ""

structure SecurityHeadersPolicyConfig where
 (contentSecurityPolicy xFrameOptions : String := "")
 xContentTypeOptions : Bool := false
 (strictTransportSecurity referrerPolicy permissionsPolicy : String := "")

inductive PolicyBody
 | rateLimit (c : RateLimitPolicyConfig)
 | jwt (c : JWTPolicyConfig)
 | basicAuth (c : BasicAuthPolicyConfig)
 | forwardAuth (c : ForwardAuthPolicyConfig)
 | oauth2 (c : OAuth2PolicyConfig)
 | waf (c : WAFPolicyConfig)
 | cors (c : CORSPolicyConfig)
 | ipFilter (c : IPFilterPolicyConfig)
 | securityHeaders (c : SecurityHeadersPolicyConfig)

structure PolicyConfig where
 name : String := ""
 policyType : PolicyType := .unspecified
 config : Option PolicyBody := none

inductive L4Protocol
 | unspecified
 | tcp
 | udp
 | tlsPassthrough

structure L4ListenerConfig where
 (name bindAddress : String := "")
 port : UInt32 := 0
 protocol : L4Protocol := .unspecified
 backendRefs : List BackendRef := []
 (idleTimeoutMs connectTimeoutMs : UInt64 := 0)

structure ApplyConfigRequest where
 version : String := ""
 gateways : List GatewayConfig := []
 routes : List RouteConfig := []
 clusters : List ClusterConfig := []
 policies : List PolicyConfig := []
 l4Listeners : List L4ListenerConfig := []

end NovaEdge.Proto
