import NovaEdge.KeyedMap

/-! Messages of the control plane's configuration snapshot, with the fields that the translation to
the dataplane reads and those of a listener that it drops. A number outside an enumeration takes the
same branches as its unspecified value. -/
namespace NovaEdge.Config

abbrev Bytes := List UInt8

inductive Protocol
 | unspecified
 | http
 | https
 | http3
 | tcp
 | tls
 | udp
 deriving DecidableEq

structure TLSConfig where
 (cert key : Bytes := [])
 minVersion : String := ""
 caCert : Bytes := []

structure ProxyProtocolConfig where
 enabled : Bool := false
 version : Int32 := 0

structure Listener where
 name : String := ""
 port : Int32 := 0
 protocol : Protocol := .unspecified
 tls : Option TLSConfig := none
 hostnames : List String := []
 maxRequestBodyBytes : Int64 := 0
 proxyProtocol : Option ProxyProtocolConfig := none
 bindAddress : String := ""
 tlsCertificates : KeyedMap String TLSConfig := ∅
 sslRedirect : Bool := false
 allowedSourceRanges : List String := []

structure Gateway where
 (name ns : String := "")
 listeners : List Listener := []

inductive PathMatchType
 | unspecified
 | exact
 | pathPrefix
 | regularExpression

structure PathMatch where
 type : PathMatchType := .unspecified
 value : String := ""

inductive HeaderMatchType
 | unspecified
 | exact
 | regularExpression

structure HeaderMatch where
 type : HeaderMatchType := .unspecified
 (name value : String := "")

structure RouteMatch where
 path : Option PathMatch := none
 headers : List HeaderMatch := []
 method : String := ""

inductive RouteFilterType
 | unspecified
 | addHeader
 | removeHeader
 | requestRedirect
 | urlRewrite
 | responseAddHeader
 | responseRemoveHeader
 | responseSetHeader
 deriving DecidableEq

structure HTTPHeader where
 (name value : String := "")

structure RouteFilter where
 type : RouteFilterType := .unspecified
 addHeaders : List HTTPHeader := []
 rewritePath : String := ""

structure BackendRef where
 (name ns : String := "")
 weight : Int32 := 0

structure RouteLimitsConfig where
 requestTimeoutMs : Int64 := 0

structure RetryConfig where
 maxRetries : Int32 := 0
 perTryTimeoutMs : Int64 := 0
 retryOn : List String := []
 backoffBaseMs : Int64 := 0

structure RouteRule where
 routeMatches : List RouteMatch := []
 filters : List RouteFilter := []
 backendRefs : List BackendRef := []
 limits : Option RouteLimitsConfig := none
 mirrorBackend : Option BackendRef := none
 mirrorPercent : Int32 := 0
 retry : Option RetryConfig := none

structure MiddlewareRef where
 (type name : String := "")
 priority : Int32 := 0

structure MiddlewarePipeline where
 middleware : List MiddlewareRef := []

structure Route where
 (name ns : String := "")
 hostnames : List String := []
 rules : List RouteRule := []
 pipeline : Option MiddlewarePipeline := none

inductive LoadBalancingPolicy
 | unspecified
 | roundRobin
 | p2c
 | ewma
 | ringHash
 | maglev
 | leastConn
 | sourceHash
 | sticky

structure CircuitBreaker where
 (maxConnections maxPendingRequests maxRequests maxRetries : Int32 := 0)

structure HealthCheck where
 (intervalMs timeoutMs : Int64 := 0)
 (healthyThreshold unhealthyThreshold : Int32 := 0)
 httpPath : String := ""

structure BackendTLS where
 (enabled insecureSkipVerify : Bool := false)
 caCert : Bytes := []

structure ConnectionPool where
 (maxIdleConnsPerHost maxConnsPerHost : Int32 := 0)
 idleConnTimeoutMs : Int64 := 0

structure SessionAffinityConfig where
 (type cookieName : String := "")
 cookieTtlSeconds : Int64 := 0
 cookiePath : String := ""
 cookieSecure : Bool := false
 (cookieSameSite headerName : String := "")

structure OutlierDetection where
 intervalMs : Int64 := 0
 consecutive5xxThreshold : Int32 := 0
 baseEjectionDurationMs : Int64 := 0
 (maxEjectionPercent successRateMinHosts successRateMinRequests : Int32 := 0)
 successRateStdevFactor : Float := 0

structure SlowStart where
 windowMs : Int64 := 0
 aggression : Float := 0

structure UpstreamProxyProtocol where
 enabled : Bool := false
 version : Int32 := 0

structure Cluster where
 (name ns : String := "")
 lbPolicy : LoadBalancingPolicy := .unspecified
 connectTimeoutMs : Int64 := 0
 circuitBreaker : Option CircuitBreaker := none
 healthCheck : Option HealthCheck := none
 tls : Option BackendTLS := none
 connectionPool : Option ConnectionPool := none
 sessionAffinity : Option SessionAffinityConfig := none
 upstreamProxyProtocol : Option UpstreamProxyProtocol := none
 outlierDetection : Option OutlierDetection := none
 slowStart : Option SlowStart := none
 protocol : String := ""

structure Endpoint where
 address : String := ""
 port : Int32 := 0
 ready : Bool := false
 weight : Int32 := 0

inductive PolicyType
 | unspecified
 | rateLimit
 | jwt
 | ipAllowList
 | ipDenyList
 | cors
 | securityHeaders
 | distributedRateLimit
 | waf
 | wasmPlugin
 | basicAuth
 | forwardAuth
 | oidc
 | meshAuthorization
 deriving DecidableEq

structure TargetRef where
 (kind name ns : String := "")

structure RateLimitConfig where
 (requestsPerSecond burst : Int32 := 0)
 key : String := ""

structure JWTConfig where
 issuer : String := ""
 audience : List String := []
 (jwksUri headerName headerPrefix : String := "")
 allowedAlgorithms : List String := []

structure IPListConfig where
 cidrs : List String := []
 sourceHeader : String := ""

structure CORSConfig where
 (allowOrigins allowMethods allowHeaders exposeHeaders : List String := [])
 maxAgeSeconds : Int64 := 0
 allowCredentials : Bool := false

structure HSTSConfig where
 enabled : Bool := false
 maxAgeSeconds : Int64 := 0
 (includeSubdomains preload : Bool := false)

structure SecurityHeadersConfig where
 hsts : Option HSTSConfig := none
 (contentSecurityPolicy xFrameOptions : String := "")
 xContentTypeOptions : Bool := false
 (referrerPolicy permissionsPolicy : String := "")

structure WAFConfig where
 enabled : Bool := false
 mode : String := ""
 (paranoiaLevel anomalyThreshold : Int32 := 0)
 ruleExclusions : List String := []
 maxBodySize : Int64 := 0

structure BasicAuthConfig where
 (realm htpasswd : String := "")
 stripAuth : Bool := false

structure ForwardAuthConfig where
 address : String := ""
 (authHeaders responseHeaders : List String := [])
 timeoutMs : Int64 := 0

structure OIDCConfig where
 (issuerUrl clientId clientSecret redirectUrl : String := "")
 scopes : List String := []
 sessionSecret : Bytes := []

structure Policy where
 (name ns : String := "")
 type : PolicyType := .unspecified
 targetRef : TargetRef := {}
 rateLimit : Option RateLimitConfig := none
 jwt : Option JWTConfig := none
 ipList : Option IPListConfig := none
 cors : Option CORSConfig := none
 securityHeaders : Option SecurityHeadersConfig := none
 waf : Option WAFConfig := none
 basicAuth : Option BasicAuthConfig := none
 forwardAuth : Option ForwardAuthConfig := none
 oidc : Option OIDCConfig := none

structure L4TCPConfig where
 (connectTimeoutMs idleTimeoutMs : Int64 := 0)

structure L4UDPConfig where
 sessionTimeoutMs : Int64 := 0

structure L4TLSRoute where
 (hostname backendName : String := "")
 backends : List Endpoint := []

structure L4Listener where
 name : String := ""
 port : Int32 := 0
 protocol : Protocol := .unspecified
 backendName : String := ""
 backends : List Endpoint := []
 tcpConfig : Option L4TCPConfig := none
 udpConfig : Option L4UDPConfig := none
 tlsRoutes : List L4TLSRoute := []
 defaultTlsBackend : Option L4TLSRoute := none
 bindAddress : String := ""

structure ConfigSnapshot where
 version : String := ""
 gateways : List Gateway := []
 routes : List Route := []
 clusters : List Cluster := []
 endpoints : KeyedMap String (List Endpoint) := ∅
 policies : List Policy := []
 l4Listeners : List L4Listener := []

end NovaEdge.Config
