import Mathlib.Data.String.Basic
import NovaEdge.ResourceTypes
import NovaEdge.SortOrder

/-! The controller's snapshot builder, for routes and policies. -/
namespace NovaEdge.Snapshot
open V1alpha1

/-- Library functions of the builder: `time.ParseDuration`, and the string of a byte slice. -/
structure GoLibrary where
 parseDuration : String → Option Duration
 bytesToString : Bytes → String

structure BuildContext where
 routes : List ProxyRoute := []
 policies : List ProxyPolicy := []
 secrets : KeyedMap String (KeyedMap String Bytes) := ∅

def BuildContext.getSecret (bc : BuildContext) (ns name : String) :
  Option (KeyedMap String Bytes) :=
 bc.secrets.find? (ns ++ "/" ++ name)

def getNamespace (ns : Option String) (defaultNs : String) : String :=
 match ns with
 | some ns => if ns = "" then defaultNs else ns
 | none => defaultNs

def getWeight (w : Option Int32) : Int32 := w.getD 1

def getInt32 (v : Option Int32) : Int32 := v.getD 0

def getString (v : Option String) : String := v.getD ""

def durationToSeconds (d : Option Duration) : Int64 :=
 match d with
 | some d => d.seconds.toInt64
 | none => 0

def convertPathMatchType : PathMatchType → Config.PathMatchType
 | .exact => .exact
 | .pathPrefix => .pathPrefix
 | .regularExpression => .regularExpression
 | .other _ => .unspecified

def convertHeaderMatchType : HeaderMatchType → Config.HeaderMatchType
 | .exact => .exact
 | .regularExpression => .regularExpression
 | .other _ => .unspecified

def convertMatches (ms : List HTTPRouteMatch) : List Config.RouteMatch := ms.map fun m =>
  { path := m.path.map fun p => ⟨convertPathMatchType p.type,p.value⟩
    headers := m.headers.map fun h => ⟨convertHeaderMatchType h.type,h.name,h.value⟩
    method := getString m.method }

/-- Mirroring is configured on the rule, not through a filter. -/
def convertFilterType : HTTPRouteFilterType → Config.RouteFilterType
 | .addHeader => .addHeader
 | .removeHeader => .removeHeader
 | .requestRedirect => .requestRedirect
 | .urlRewrite => .urlRewrite
 | .responseAddHeader => .responseAddHeader
 | .responseRemoveHeader => .responseRemoveHeader
 | .responseSetHeader => .responseSetHeader
 | .requestMirror => .unspecified
 | .other _ => .unspecified

def convertFilters (fs : List HTTPRouteFilter) : List Config.RouteFilter := fs.map fun f =>
  { type := convertFilterType f.type
    addHeaders := f.add.map fun h => ⟨h.name,h.value⟩
    rewritePath := getString f.rewritePath }

def convertBackendRef (routeNs : String) (ref : BackendRef) : Config.BackendRef where
 name := ref.name
 ns := getNamespace ref.ns routeNs
 weight := getWeight ref.weight

def clampInt32 (n : Int64) : Int32 :=
 if 2147483647 < n then 2147483647 else if n < -2147483648 then -2147483648 else n.toInt32

def convertMiddlewarePipeline (p : MiddlewarePipelineConfig) : Config.MiddlewarePipeline where
 middleware := p.middleware.map fun mw => ⟨mw.type,mw.name,clampInt32 mw.priority⟩

def convertRetryConfig (retry : RetryConfig) : Config.RetryConfig where
 maxRetries := retry.maxRetries
 perTryTimeoutMs := (retry.perTryTimeout.map Duration.milliseconds).getD 0
 retryOn := retry.retryOn
 backoffBaseMs := (retry.backoffBase.map Duration.milliseconds).getD 0

section
variable (lib : GoLibrary)

def parseDurationMs (s : String) : Int64 :=
 if s = "" ∨ s = "0" then 0 else ((lib.parseDuration s).map Duration.milliseconds).getD 0

def convertRouteLimits (limits : RouteLimits) : Config.RouteLimitsConfig where
 requestTimeoutMs := parseDurationMs lib limits.requestTimeout

def convertRule (routeNs : String) (rule : HTTPRouteRule) : Config.RouteRule where
 routeMatches := convertMatches rule.routeMatches
 filters := convertFilters rule.filters
 backendRefs := rule.backendRefs.map (convertBackendRef routeNs)
 limits := rule.limits.map (convertRouteLimits lib)
 mirrorBackend := rule.mirror.map fun m => convertBackendRef routeNs m.backendRef
 -- Without a percentage every request is mirrored.
 mirrorPercent := match rule.mirror with
  | some m => if m.percentage = 0 then 100 else m.percentage
  | none => 0
 retry := rule.retry.map convertRetryConfig

def buildRoute (r : ProxyRoute) : Config.Route where
 name := r.name
 ns := r.ns
 hostnames := r.hostnames
 rules := r.rules.map (convertRule lib r.ns)
 pipeline := r.pipeline.map convertMiddlewarePipeline

def buildRoutes (bc : BuildContext) : List Config.Route := bc.routes.map (buildRoute lib)

def convertPolicyType : PolicyType → Config.PolicyType
 | .rateLimit => .rateLimit
 | .jwt => .jwt
 | .ipAllowList => .ipAllowList
 | .ipDenyList => .ipDenyList
 | .cors => .cors
 | .securityHeaders => .securityHeaders
 | .distributedRateLimit => .distributedRateLimit
 | .waf => .waf
 | .wasmPlugin => .wasmPlugin
 | .basicAuth => .basicAuth
 | .forwardAuth => .forwardAuth
 | .oidc => .oidc
 | .meshAuthorization => .meshAuthorization
 | .other _ => .unspecified

def convertSecurityHeaders (sh : SecurityHeadersConfig) : Config.SecurityHeadersConfig where
 hsts := sh.hsts.map fun h => ⟨h.enabled,h.maxAge,h.includeSubDomains,h.preload⟩
 contentSecurityPolicy := sh.contentSecurityPolicy
 xFrameOptions := sh.xFrameOptions
 xContentTypeOptions := sh.xContentTypeOptions
 referrerPolicy := sh.referrerPolicy
 permissionsPolicy := sh.permissionsPolicy

def convertWAFConfig (waf : WAFConfig) : Config.WAFConfig where
 enabled := waf.enabled
 mode := waf.mode
 paranoiaLevel := waf.paranoiaLevel
 anomalyThreshold := waf.anomalyThreshold
 ruleExclusions := waf.ruleExclusions
 maxBodySize := waf.maxBodySize

def loadSecretBytes (bc : BuildContext) (ns secretName key : String) : Option Bytes :=
 (bc.getSecret ns secretName).bind fun data => data.find? key

def loadSecretValue (bc : BuildContext) (ns secretName key : String) : Option String :=
 (loadSecretBytes bc ns secretName key).map lib.bytesToString

def buildBasicAuthConfig (bc : BuildContext) (ns : String) (spec : BasicAuthPolicyConfig) :
  Option Config.BasicAuthConfig :=
 (loadSecretValue lib bc ns spec.secretRef "htpasswd").map fun htpasswd =>
  ⟨if spec.realm = "" then "Restricted" else spec.realm,htpasswd,spec.stripAuth⟩

/-- The default of five seconds stands for an empty timeout, not for one that does not parse. -/
def buildForwardAuthConfig (spec : ForwardAuthPolicyConfig) : Config.ForwardAuthConfig where
 address := spec.address
 authHeaders := spec.authHeaders
 responseHeaders := spec.responseHeaders
 timeoutMs := if spec.timeout = "" then 5000
  else ((lib.parseDuration spec.timeout).map Duration.milliseconds).getD 0

def trimTrailingSlash (s : String) : String :=
 String.ofList (s.toList.reverse.dropWhile (· = '/')).reverse

def issuerOf (spec : OIDCPolicyConfig) : String :=
 match spec.keycloak with
 | some k => if spec.issuerURL = "" then trimTrailingSlash k.serverURL ++ "/realms/" ++ k.realm
  else spec.issuerURL
 | none => spec.issuerURL

def buildOIDCConfig (bc : BuildContext) (ns : String) (spec : OIDCPolicyConfig) :
  Option Config.OIDCConfig :=
 match loadSecretValue lib bc ns spec.clientSecretRef "client-secret",
  loadSecretBytes bc ns spec.sessionSecretRef "session-secret" with
 | some clientSecret, some sessionSecret =>
  some ⟨issuerOf spec,spec.clientID,clientSecret,spec.redirectURL,spec.scopes,sessionSecret⟩
 | _, _ => none

def buildPolicy (bc : BuildContext) (p : ProxyPolicy) : Config.Policy where
 name := p.name
 ns := p.ns
 type := convertPolicyType p.type
 targetRef := ⟨p.targetRef.kind,p.targetRef.name,getNamespace p.targetRef.ns p.ns⟩
 rateLimit := p.rateLimit.map fun rl => ⟨rl.requestsPerSecond,getInt32 rl.burst,rl.key⟩
 jwt := p.jwt.map fun jwt =>
  ⟨jwt.issuer,jwt.audience,jwt.jwksUri,jwt.headerName,jwt.headerPrefix,jwt.allowedAlgorithms⟩
 ipList := p.ipList.map fun l => ⟨l.cidrs,getString l.sourceHeader⟩
 cors := p.cors.map fun c => ⟨c.allowOrigins,c.allowMethods,c.allowHeaders,c.exposeHeaders,
   durationToSeconds c.maxAge,c.allowCredentials⟩
 securityHeaders := p.securityHeaders.map convertSecurityHeaders
 waf := p.waf.map convertWAFConfig
 basicAuth := p.basicAuth.bind (buildBasicAuthConfig lib bc p.ns)
 forwardAuth := p.forwardAuth.map (buildForwardAuthConfig lib)
 oidc := p.oidc.bind (buildOIDCConfig lib bc p.ns)

@[simp] lemma buildPolicy_name (bc : BuildContext) (p : ProxyPolicy) :
  (buildPolicy lib bc p).name = p.name := rfl

def buildPolicies (bc : BuildContext) : List Config.Policy := bc.policies.map (buildPolicy lib bc)

/-- `sort.Slice` by name is not stable: objects of one name may come in any order. -/
abbrev SortedByName {α : Type*} (name : α → String) := SortOrder.SortedBy name

/-- What a build may return. The rest of the snapshot is unconstrained. -/
structure IsSnapshotOf (bc : BuildContext) (snap : Config.ConfigSnapshot) : Prop where
 routes : SortedByName Config.Route.name (buildRoutes lib bc) snap.routes
 policies : SortedByName Config.Policy.name (buildPolicies lib bc) snap.policies

end

end NovaEdge.Snapshot
