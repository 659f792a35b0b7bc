import NovaEdge.FailClosed

/-! The parameters of a policy on their way through its JSON text: what the control interface
configures, and what the functions that run the policy read back. -/
namespace NovaEdge
open List JsonValue Proto

@[simp] lemma JsonValue.index_obj (fs : List (String × JsonValue)) (k : String) :
  (obj fs).index k = (fs.lookup k).getD .null := rfl

@[simp] lemma JsonValue.asStr_str (s : String) : (str s).asStr = some s := rfl

@[simp] lemma JsonValue.asStr_null : null.asStr = none := rfl

@[simp] lemma JsonValue.asStr_bool (b : Bool) : (bool b).asStr = none := rfl

@[simp] lemma JsonValue.asBool_bool (b : Bool) : (bool b).asBool = some b := rfl

@[simp] lemma JsonValue.strings_null : null.strings = [] := rfl

namespace Dataplane

@[simp] lemma asArray_jsonStrings (xs : List String) :
  (jsonStrings xs).asArray = some (xs.map str) := rfl

@[simp] lemma strings_jsonStrings (xs : List String) : (jsonStrings xs).strings = xs := by
 simp [strings,filterMap_map,Function.comp_def]

/-- Floats are finite, so they are rationals; configured numbers are read without loss. -/
structure PolicyLibrary extends AuthLibrary where
 asF64 : String → Option ℚ
 asU64_toString : ∀ n : UInt64, asU64 (toString n) = some n.toNat
 asF64_toString : ∀ n : UInt32, asF64 (toString n) = some (n.toNat : ℚ)

attribute [local simp] List.lookup_cons

section
variable (lib : PolicyLibrary)

def jsonF64 : JsonValue → Option ℚ
 | .num text => lib.asF64 text
 | _ => none

inductive RateLimitKeyType
 | sourceIP
 | header (name : String)
 | path

structure RateLimitConfig where
 requestsPerSecond : ℚ
 burst : UInt32
 keyType : RateLimitKeyType

/-- The `key` of the object is not read. -/
def rateLimitConfigOf (config : JsonValue) : RateLimitConfig where
 requestsPerSecond := (jsonF64 lib (config.index "requests_per_second")).getD 100
 burst := UInt32.ofNat ((jsonU64 lib.toAuthLibrary (config.index "burst")).getD 10)
 keyType := .sourceIP

structure CorsConfig where
 (allowedOrigins allowedMethods allowedHeaders exposedHeaders : List String)
 allowCredentials : Bool
 maxAge : UInt32

def corsOrigins (config : JsonValue) : List String :=
 match (config.index "allow_origins").asArray with
 | some items => items.filterMap asStr
 | none => ["*"]

def corsConfigOf (config : JsonValue) : CorsConfig where
 allowedOrigins := corsOrigins config
 allowedMethods := (config.index "allow_methods").strings
 allowedHeaders := (config.index "allow_headers").strings
 exposedHeaders := (config.index "expose_headers").strings
 allowCredentials := (config.index "allow_credentials").asBool.getD false
 maxAge := UInt32.ofNat ((jsonU64 lib.toAuthLibrary (config.index "max_age_seconds")).getD 86400)

/-- The configuration of the response phase, which adds no headers for methods, request headers
and the age. -/
def corsResponseConfigOf (config : JsonValue) : CorsConfig where
 allowedOrigins := corsOrigins config
 allowedMethods := []
 allowedHeaders := []
 exposedHeaders := (config.index "expose_headers").strings
 allowCredentials := (config.index "allow_credentials").asBool.getD false
 maxAge := 0

structure SecurityHeadersConfig where
 hstsMaxAge : Option ℕ
 (hstsIncludeSubdomains contentTypeNosniff : Bool)
 frameOptions : Option String
 xssProtection : Bool
 (referrerPolicy csp permissionsPolicy : Option String)
 customHeaders : List (String × String)

def securityHeadersConfigOf (config : JsonValue) : SecurityHeadersConfig where
 hstsMaxAge := some 31536000
 hstsIncludeSubdomains := true
 contentTypeNosniff := (config.index "x_content_type_options").asStr.all (· = "nosniff")
 frameOptions := (config.index "x_frame_options").asStr
 xssProtection := true
 referrerPolicy := (config.index "referrer_policy").asStr
 csp := (config.index "content_security_policy").asStr
 permissionsPolicy := (config.index "permissions_policy").asStr
 customHeaders := []

def SecurityHeadersConfig.headers (config : SecurityHeadersConfig) : List (String × String) :=
 (config.hstsMaxAge.map fun maxAge => ("Strict-Transport-Security",
  "max-age=" ++ toString maxAge ++
   if config.hstsIncludeSubdomains then "; includeSubDomains" else "")).toList ++
 (if config.contentTypeNosniff then [("X-Content-Type-Options","nosniff")] else []) ++
 (config.frameOptions.map ("X-Frame-Options",·)).toList ++
 (if config.xssProtection then [("X-XSS-Protection","1; mode=block")] else []) ++
 (config.referrerPolicy.map ("Referrer-Policy",·)).toList ++
 (config.csp.map ("Content-Security-Policy",·)).toList ++
 (config.permissionsPolicy.map ("Permissions-Policy",·)).toList ++
 config.customHeaders

def SecurityHeadersConfig.apply (config : SecurityHeadersConfig) (resp : Response) : Response :=
 { resp with headers := resp.headers ++ config.headers }

def unlessEmpty (s : String) : Option String := if s = "" then none else some s

def headerKey (name : String) : List Char := name.toList.map Char.toLower

structure RateLimitParameters where
 requestsPerSecond : ℚ
 burst : ℕ
 key : Option RateLimitKeyType

structure JwtParameters where
 (secret issuer : Option String)
 audiences : List String
 jwksUri : Option String
 headerName : List Char
 headerPrefix : String
 allowedAlgorithms : List String
 requiredClaims : List (String × Option String)

structure BasicAuthParameters where
 auth : BasicAuth
 stripAuthorization : Bool

structure WafParameters where
 enabled : Bool
 mode : Option WafMode
 (paranoiaLevel anomalyThreshold : UInt32)
 ruleExclusions : List String
 maxBodySize : UInt64

/-- Both phases of CORS have the origins, the exposed headers and the credentials. -/
structure CorsParameters where
 (allowOrigins allowMethods allowHeaders exposeHeaders : List String)
 allowCredentials : Bool
 maxAgeSeconds : ℕ
 (responseOrigins responseExposed : List String)
 responseCredentials : Bool

inductive IpFilterAction
 | allow
 | deny

structure IpFilterParameters where
 action : Option IpFilterAction
 ranges : List (Option CidrRange)
 sourceHeader : Option (List Char)

/-- The values of the headers on a response; a missing header is none. -/
structure SecurityHeadersParameters where
 (contentSecurityPolicy xFrameOptions xContentTypeOptions strictTransportSecurity : Option String)
 (referrerPolicy permissionsPolicy : Option String)

inductive PolicyParameters
 | rateLimit (p : RateLimitParameters)
 | jwt (p : JwtParameters)
 | basicAuth (p : BasicAuthParameters)
 | forwardAuth (p : ForwardAuthPolicyConfig)
 | oauth2 (p : OAuth2PolicyConfig)
 | waf (p : WafParameters)
 | cors (p : CorsParameters)
 | ipFilter (p : IpFilterParameters)
 | securityHeaders (p : SecurityHeadersParameters)

open PolicyParameters
def configuredKey (key : String) : Option RateLimitKeyType :=
 if key = "" ∨ key = "source-ip" then some .sourceIP
 else (textAfter "header:" key).map .header

/-- The control interface has no field for a secret. -/
def configuredJwt (c : JWTPolicyConfig) : JwtParameters where
 secret := none
 issuer := unlessEmpty c.issuer
 audiences := c.audiences
 jwksUri := unlessEmpty c.jwksUri
 headerName := headerKey (if c.headerName = "" then "authorization" else c.headerName)
 headerPrefix := if c.headerPrefix = "" ∨ c.headerPrefix = "Bearer" then "Bearer "
  else c.headerPrefix
 allowedAlgorithms := c.allowedAlgorithms
 requiredClaims := c.requiredClaims.pairs.map fun claim => (claim.1,some claim.2)

def configuredMode (mode : String) : Option WafMode :=
 if mode = "detection" then some .detect
 else if mode = "" ∨ mode = "prevention" then some .block else none

def configuredWaf (c : WAFPolicyConfig) : WafParameters where
 enabled := c.enabled
 mode := configuredMode c.mode
 paranoiaLevel := c.paranoiaLevel
 anomalyThreshold := c.anomalyThreshold
 ruleExclusions := c.ruleExclusions
 maxBodySize := c.maxBodySize

def configuredCors (c : CORSPolicyConfig) : CorsParameters where
 allowOrigins := c.allowOrigins
 allowMethods := c.allowMethods
 allowHeaders := c.allowHeaders
 exposeHeaders := c.exposeHeaders
 allowCredentials := c.allowCredentials
 maxAgeSeconds := c.maxAgeSeconds.toNat
 responseOrigins := c.allowOrigins
 responseExposed := c.exposeHeaders
 responseCredentials := c.allowCredentials

def configuredAction (action : String) : Option IpFilterAction :=
 if action = "deny" then some .deny
 else if action = "" ∨ action = "allow" then some .allow else none

def configuredIpFilter (c : IPFilterPolicyConfig) : IpFilterParameters where
 action := configuredAction c.action
 ranges := c.cidrs.map (CidrRange.parse lib.toAuthLibrary)
 sourceHeader := (unlessEmpty c.sourceHeader).map headerKey

def configuredSecurityHeaders (c : SecurityHeadersPolicyConfig) :
  SecurityHeadersParameters where
 contentSecurityPolicy := unlessEmpty c.contentSecurityPolicy
 xFrameOptions := unlessEmpty c.xFrameOptions
 xContentTypeOptions := if c.xContentTypeOptions then some "nosniff" else none
 strictTransportSecurity := unlessEmpty c.strictTransportSecurity
 referrerPolicy := unlessEmpty c.referrerPolicy
 permissionsPolicy := unlessEmpty c.permissionsPolicy

def configuredParameters : PolicyBody → PolicyParameters
 | .rateLimit c => .rateLimit
   ⟨(c.requestsPerSecond.toNat : ℚ),c.burst.toNat,configuredKey c.key⟩
 | .jwt c => .jwt (configuredJwt c)
 | .basicAuth c => .basicAuth
   ⟨BasicAuth.new lib.toAuthLibrary c.realm (parseHtpasswd lib.toAuthLibrary c.htpasswd),
    c.stripAuthorization⟩
 | .forwardAuth c => .forwardAuth c
 | .oauth2 c => .oauth2 c
 | .waf c => .waf (configuredWaf c)
 | .cors c => .cors (configuredCors c)
 | .ipFilter c => .ipFilter (configuredIpFilter lib c)
 | .securityHeaders c => .securityHeaders (configuredSecurityHeaders c)

def RateLimitConfig.parameters (config : RateLimitConfig) : RateLimitParameters :=
 ⟨config.requestsPerSecond,config.burst.toNat,some config.keyType⟩

/-- Tokens are taken from a bearer authorization, whatever else is configured. -/
def JwtConfig.parameters (config : JwtConfig) : JwtParameters where
 secret := config.secret
 issuer := config.issuer
 audiences := config.audiences
 jwksUri := none
 headerName := headerKey "authorization"
 headerPrefix := "Bearer "
 allowedAlgorithms := []
 requiredClaims := config.requiredClaims.map (·,none)

/-- The engine has its own rules, and the handler shows it no body. -/
def wafParameters (config : JsonValue) : WafParameters where
 enabled := (config.index "enabled").asBool.getD true
 mode := some (wafMode config)
 paranoiaLevel := 0
 anomalyThreshold := 0
 ruleExclusions := []
 maxBodySize := 0

def corsParameters (preflight response : CorsConfig) : CorsParameters where
 allowOrigins := preflight.allowedOrigins
 allowMethods := preflight.allowedMethods
 allowHeaders := preflight.allowedHeaders
 exposeHeaders := preflight.exposedHeaders
 allowCredentials := preflight.allowCredentials
 maxAgeSeconds := preflight.maxAge.toNat
 responseOrigins := response.allowedOrigins
 responseExposed := response.exposedHeaders
 responseCredentials := response.allowCredentials

/-- The filter has one of its lists empty, and takes addresses from one header only. -/
def ipFilterParameters (action : String) (filter : IpFilter) : IpFilterParameters where
 action := some (if action = "deny" then .deny else .allow)
 ranges := (filter.allowlist ++ filter.denylist).map some
 sourceHeader := if filter.trustXff then some (headerKey "x-forwarded-for") else none

def securityHeadersParameters (resp : Response) : SecurityHeadersParameters where
 contentSecurityPolicy := resp.headers.lookup "Content-Security-Policy"
 xFrameOptions := resp.headers.lookup "X-Frame-Options"
 xContentTypeOptions := resp.headers.lookup "X-Content-Type-Options"
 strictTransportSecurity := resp.headers.lookup "Strict-Transport-Security"
 referrerPolicy := resp.headers.lookup "Referrer-Policy"
 permissionsPolicy := resp.headers.lookup "Permissions-Policy"

def consumedParameters (config : JsonValue) : String → Option PolicyParameters
 | "rate-limit" => some (.rateLimit (rateLimitConfigOf lib config).parameters)
 | "basic-auth" => some (.basicAuth ⟨basicAuthOf lib.toAuthLibrary config,false⟩)
 | "jwt" => some (.jwt (jwtConfigOf config).parameters)
 | "cors" => some (.cors (corsParameters (corsConfigOf lib config) (corsResponseConfigOf config)))
 | "ip-filter" => some (.ipFilter
   (ipFilterParameters (ipFilterAction config) (ipFilterOf lib.toAuthLibrary config)))
 | "waf" => some (.waf (wafParameters config))
 | "security-headers" => some (.securityHeaders
   (securityHeadersParameters ((securityHeadersConfigOf config).apply ⟨200,[],""⟩)))
 | _ => none

def decodedParameters (policy : PolicyState) : Option PolicyParameters :=
 (lib.fromStr policy.configJson).bind fun config => consumedParameters lib config policy.policyType

def bodyType : PolicyBody → PolicyType
 | .rateLimit _ => .rateLimit
 | .jwt _ => .jwt
 | .basicAuth _ => .basicAuth
 | .forwardAuth _ => .forwardAuth
 | .oauth2 _ => .oauth2
 | .waf _ => .waf
 | .cors _ => .cors
 | .ipFilter _ => .ipFilter
 | .securityHeaders _ => .securityHeaders

def policyOfBody (name : String) (body : PolicyBody) : PolicyState :=
 policyFromProto lib.render { name := name, policyType := bodyType body, config := some body }

def ReadsBack (v : JsonValue) : Prop :=
 ∃ json, lib.fromStr (lib.render v) = some json ∧ ∀ k, json.index k = v.index k

/-- The bodies that the hop keeps: what the functions do not read is unset or has the value that
they take for granted. -/
def Survives : PolicyBody → Prop
 | .rateLimit c => c.key = "" ∨ c.key = "source-ip"
 | .jwt c => c.issuer = "" ∧ c.audiences = [] ∧ c.jwksUri = "" ∧
   (c.headerName = "" ∨ eqIgnoreAsciiCase c.headerName "authorization") ∧
   (c.headerPrefix = "" ∨ c.headerPrefix = "Bearer" ∨ c.headerPrefix = "Bearer ") ∧
   c.allowedAlgorithms = [] ∧ c.requiredClaims = ∅
 | .basicAuth c => c.stripAuthorization = false
 | .forwardAuth _ | .oauth2 _ => False
 | .waf c => (c.mode = "" ∨ c.mode = "detection" ∨ c.mode = "prevention") ∧
   c.paranoiaLevel = 0 ∧ c.anomalyThreshold = 0 ∧ c.ruleExclusions = [] ∧ c.maxBodySize = 0
 | .cors c => c.maxAgeSeconds.toNat < 2 ^ 32
 | .ipFilter c => (c.action = "" ∨ c.action = "allow" ∨ c.action = "deny") ∧
   (∀ cidr ∈ c.cidrs, (CidrRange.parse lib.toAuthLibrary cidr).isSome) ∧
   (c.sourceHeader = "" ∨ eqIgnoreAsciiCase c.sourceHeader "x-forwarded-for")
 | .securityHeaders c => c.contentSecurityPolicy ≠ "" ∧ c.xFrameOptions ≠ "" ∧
   c.xContentTypeOptions = true ∧
   c.strictTransportSecurity = "max-age=31536000; includeSubDomains" ∧
   c.referrerPolicy ≠ "" ∧ c.permissionsPolicy ≠ ""

@[simp] lemma none_eq_unlessEmpty {s : String} : none = unlessEmpty s ↔ s = "" := by
 simp [unlessEmpty]

@[simp] lemma some_eq_unlessEmpty {s t : String} : some t = unlessEmpty s ↔ s ≠ "" ∧ t = s := by
 unfold unlessEmpty
 split_ifs with h <;> simp [h]

lemma headerKey_eq_iff {a b : String} :
  headerKey a = headerKey b ↔ eqIgnoreAsciiCase a b = true := by
 simp [headerKey,eqIgnoreAsciiCase]

section
variable {json : JsonValue}

@[simp] lemma jsonU64_toString (n : UInt64) :
  jsonU64 lib.toAuthLibrary (.num (toString n)) = some n.toNat := lib.asU64_toString n

@[simp] lemma jsonF64_toString (n : UInt32) :
  jsonF64 lib (.num (toString n)) = some (n.toNat : ℚ) := lib.asF64_toString n

lemma jsonU64_toString32 (n : UInt32) :
  jsonU64 lib.toAuthLibrary (.num (toString n)) = some n.toNat := by
 have h := lib.asU64_toString n.toUInt64
 rwa [UInt32.toNat_toUInt64] at h

lemma rateLimit_survives_iff {c : RateLimitPolicyConfig}
  (h : ∀ k, json.index k = (policyConfigToJson (.rateLimit c)).index k) :
  (rateLimitConfigOf lib json).parameters =
   ⟨(c.requestsPerSecond.toNat : ℚ),c.burst.toNat,configuredKey c.key⟩ ↔
   Survives lib (.rateLimit c) := by
 have hc : rateLimitConfigOf lib json = ⟨(c.requestsPerSecond.toNat : ℚ),c.burst,.sourceIP⟩ := by
  simp [rateLimitConfigOf,h,policyConfigToJson,jsonU64_toString32]
 rw [hc]
 by_cases hk : c.key = "" ∨ c.key = "source-ip"
 · simp [RateLimitConfig.parameters,configuredKey,Survives,hk]
 · have hn : some RateLimitKeyType.sourceIP ≠ (textAfter "header:" c.key).map .header := by
    cases textAfter "header:" c.key <;> simp
   simp [RateLimitConfig.parameters,configuredKey,Survives,hk,hn]

lemma jwt_survives_iff {c : JWTPolicyConfig}
  (h : ∀ k, json.index k = (policyConfigToJson (.jwt c)).index k) :
  (jwtConfigOf json).parameters = configuredJwt c ↔ Survives lib (.jwt c) := by
 have hc : jwtConfigOf json = ⟨none,none,[],[]⟩ := by simp [jwtConfigOf,h,policyConfigToJson]
 have hn : headerKey "authorization" =
   headerKey (if c.headerName = "" then "authorization" else c.headerName) ↔
   c.headerName = "" ∨ eqIgnoreAsciiCase c.headerName "authorization" = true := by
  rw [← headerKey_eq_iff]
  split_ifs with hm <;> simp [hm,eq_comm]
 have hp : "Bearer " = (if c.headerPrefix = "" ∨ c.headerPrefix = "Bearer" then "Bearer "
   else c.headerPrefix) ↔
   c.headerPrefix = "" ∨ c.headerPrefix = "Bearer" ∨ c.headerPrefix = "Bearer " := by
  split_ifs with hse
  · simp only [true_iff]
    exact hse.imp_right .inl
  · rw [← or_assoc,or_iff_right hse,eq_comm]
 have hl : [] = c.requiredClaims.pairs.map (fun claim => (claim.1,some claim.2)) ↔
   c.requiredClaims = ∅ := by
  rw [eq_comm,map_eq_nil_iff,KeyedMap.pairs,map_eq_nil_iff]
  constructor
  · intro hen
    exact AList.ext hen
  · intro hm
    rw [hm]
    rfl
 rw [hc]
 simp only [JwtConfig.parameters,configuredJwt,JwtParameters.mk.injEq,map_nil,true_and,
  none_eq_unlessEmpty,hn,hp,hl,Survives]
 simp only [eq_comm]

lemma basicAuth_survives_iff {c : BasicAuthPolicyConfig}
  (h : ∀ k, json.index k = (policyConfigToJson (.basicAuth c)).index k) :
  (⟨basicAuthOf lib.toAuthLibrary json,false⟩ : BasicAuthParameters) =
   ⟨BasicAuth.new lib.toAuthLibrary c.realm (parseHtpasswd lib.toAuthLibrary c.htpasswd),
    c.stripAuthorization⟩ ↔ Survives lib (.basicAuth c) := by
 have ha : basicAuthOf lib.toAuthLibrary json =
   BasicAuth.new lib.toAuthLibrary c.realm (parseHtpasswd lib.toAuthLibrary c.htpasswd) := by
  simp [basicAuthOf,h,policyConfigToJson]
 simp [ha,Survives]

lemma some_ite_eq_configuredMode {mode : String} :
  some (if mode = "detection" then WafMode.detect else .block) = configuredMode mode ↔
   mode = "" ∨ mode = "detection" ∨ mode = "prevention" := by
 unfold configuredMode
 by_cases hd : mode = "detection"
 · simp [hd]
 · by_cases hp : mode = "" ∨ mode = "prevention" <;> simp [hd,hp]

lemma waf_survives_iff {c : WAFPolicyConfig}
  (h : ∀ k, json.index k = (policyConfigToJson (.waf c)).index k) :
  wafParameters json = configuredWaf c ↔ Survives lib (.waf c) := by
 have hn : (json.index "enabled").asBool.getD true = c.enabled := by simp [h,policyConfigToJson]
 have hm : wafMode json = if c.mode = "detection" then .detect else .block := by
  simp [wafMode,h,policyConfigToJson]
 simp only [wafParameters,configuredWaf,WafParameters.mk.injEq,hn,hm,
  some_ite_eq_configuredMode,true_and,Survives]
 simp only [eq_comm]

lemma cors_survives_iff {c : CORSPolicyConfig}
  (h : ∀ k, json.index k = (policyConfigToJson (.cors c)).index k) :
  corsParameters (corsConfigOf lib json) (corsResponseConfigOf json) = configuredCors c ↔
   Survives lib (.cors c) := by
 have ho : corsOrigins json = c.allowOrigins := by
  simp [corsOrigins,h,policyConfigToJson,filterMap_map,Function.comp_def]
 have hc : corsConfigOf lib json = ⟨c.allowOrigins,c.allowMethods,c.allowHeaders,
   c.exposeHeaders,c.allowCredentials,UInt32.ofNat c.maxAgeSeconds.toNat⟩ := by
  simp [corsConfigOf,ho,h,policyConfigToJson]
 have hr : corsResponseConfigOf json =
   ⟨c.allowOrigins,[],[],c.exposeHeaders,c.allowCredentials,0⟩ := by
  simp [corsResponseConfigOf,ho,h,policyConfigToJson]
 rw [hc,hr]
 simp only [corsParameters,configuredCors,CorsParameters.mk.injEq,true_and,and_true,Survives,
  UInt32.toNat_ofNat']
 exact ⟨fun hm => hm ▸ Nat.mod_lt _ (by norm_num),Nat.mod_eq_of_lt⟩

lemma map_some_filterMap_eq_map_iff {α β : Type*} (f : α → Option β) (l : List α) :
  (l.filterMap f).map some = l.map f ↔ ∀ a ∈ l, (f a).isSome := by
 induction l with
 | nil => simp
 | cons a l ih =>
  cases hf : f a with
  | none =>
   simp only [filterMap_cons_none hf,map_cons,forall_mem_cons,hf,
    Option.isSome_none,Bool.false_eq_true,false_and,iff_false]
   -- the left list has no `none`
   intro hq
   have hm : none ∈ (l.filterMap f).map some := hq ▸ mem_cons_self
   simp at hm
  | some b => simp [filterMap_cons_some hf,hf,ih]

lemma some_ite_eq_configuredAction {act : String} :
  some (if act = "deny" then IpFilterAction.deny else .allow) = configuredAction act ↔
   act = "" ∨ act = "allow" ∨ act = "deny" := by
 unfold configuredAction
 by_cases hd : act = "deny"
 · simp [hd]
 · by_cases ha : act = "" ∨ act = "allow"
   · simp only [hd,ha,if_false,if_true,or_false]
   · simp [hd,ha]

lemma ipFilter_survives_iff {c : IPFilterPolicyConfig}
  (h : ∀ k, json.index k = (policyConfigToJson (.ipFilter c)).index k) :
  ipFilterParameters (ipFilterAction json) (ipFilterOf lib.toAuthLibrary json) =
   configuredIpFilter lib c ↔ Survives lib (.ipFilter c) := by
 have ha : ipFilterAction json = c.action := by simp [ipFilterAction,h,policyConfigToJson]
 have hr : (ipFilterOf lib.toAuthLibrary json).allowlist ++
   (ipFilterOf lib.toAuthLibrary json).denylist =
   c.cidrs.filterMap (CidrRange.parse lib.toAuthLibrary) := by
  have hre : ipFilterRanges lib.toAuthLibrary json =
    c.cidrs.filterMap (CidrRange.parse lib.toAuthLibrary) := by
   simp [ipFilterRanges,h,policyConfigToJson]
  by_cases hde : c.action = "deny" <;> simp [ipFilterOf,ha,hre,hde]
 have ht : (ipFilterOf lib.toAuthLibrary json).trustXff = true ↔ c.sourceHeader ≠ "" := by
  simp [ipFilterOf,h,policyConfigToJson]
 have hh : (if (ipFilterOf lib.toAuthLibrary json).trustXff = true then
       some (headerKey "x-forwarded-for") else none) =
       (unlessEmpty c.sourceHeader).map headerKey ↔
   c.sourceHeader = "" ∨ eqIgnoreAsciiCase c.sourceHeader "x-forwarded-for" = true := by
  rw [← headerKey_eq_iff]
  by_cases hm : c.sourceHeader = ""
  · simp [ht,hm,unlessEmpty]
  · simp [ht,hm,unlessEmpty,eq_comm]
 simp only [ipFilterParameters,configuredIpFilter,IpFilterParameters.mk.injEq,ha,hr,
  hh,some_ite_eq_configuredAction,map_some_filterMap_eq_map_iff,Survives]

lemma securityHeaders_survives_iff {c : SecurityHeadersPolicyConfig}
  (h : ∀ k, json.index k = (policyConfigToJson (.securityHeaders c)).index k) :
  securityHeadersParameters ((securityHeadersConfigOf json).apply ⟨200,[],""⟩) =
   configuredSecurityHeaders c ↔ Survives lib (.securityHeaders c) := by
 have hc : securityHeadersConfigOf json = ⟨some 31536000,true,true,some c.xFrameOptions,
   true,some c.referrerPolicy,some c.contentSecurityPolicy,some c.permissionsPolicy,[]⟩ := by
  simp [securityHeadersConfigOf,h,policyConfigToJson]
 have hse : securityHeadersParameters ((securityHeadersConfigOf json).apply ⟨200,[],""⟩) =
   ⟨some c.contentSecurityPolicy,some c.xFrameOptions,some "nosniff",
    some "max-age=31536000; includeSubDomains",some c.referrerPolicy,
    some c.permissionsPolicy⟩ := by
  rw [hc]
  rfl
 have hn : some "nosniff" = (if c.xContentTypeOptions = true then some "nosniff" else none) ↔
   c.xContentTypeOptions = true := by
  split_ifs with ht <;> simp [ht]
 have hsts : c.strictTransportSecurity ≠ "" ∧
   "max-age=31536000; includeSubDomains" = c.strictTransportSecurity ↔
   c.strictTransportSecurity = "max-age=31536000; includeSubDomains" := by
  constructor
  · intro ht
    exact ht.2.symm
  · intro ht
    rw [ht]
    exact ⟨by decide,rfl⟩
 rw [hse]
 simp only [configuredSecurityHeaders,SecurityHeadersParameters.mk.injEq,some_eq_unlessEmpty,
  hn,hsts,and_true,Survives]

end

/-- The body must set only what the functions read, and have a function to read it. -/
theorem policy_parameters_survive_iff (name : String) (body : PolicyBody)
  (h : ReadsBack lib (policyConfigToJson body)) :
  decodedParameters lib (policyOfBody lib name body) = some (configuredParameters lib body) ↔
   Survives lib body := by
 obtain ⟨json,hj,hn⟩ := h
 have hde : decodedParameters lib (policyOfBody lib name body) =
   consumedParameters lib json (policyTypeStr (bodyType body)) := by
  simp [decodedParameters,policyOfBody,policyFromProto,hj]
 rw [hde]
 cases body with
 | rateLimit c =>
  simp only [consumedParameters,policyTypeStr,bodyType,configuredParameters,
   Option.some.injEq,rateLimit.injEq]
  exact rateLimit_survives_iff lib hn
 | jwt c =>
  simp only [consumedParameters,policyTypeStr,bodyType,configuredParameters,
   Option.some.injEq,jwt.injEq]
  exact jwt_survives_iff lib hn
 | basicAuth c =>
  simp only [consumedParameters,policyTypeStr,bodyType,configuredParameters,
   Option.some.injEq,basicAuth.injEq]
  exact basicAuth_survives_iff lib hn
 | forwardAuth c | oauth2 c => simp [consumedParameters,policyTypeStr,bodyType,Survives]
 | waf c =>
  simp only [consumedParameters,policyTypeStr,bodyType,configuredParameters,
   Option.some.injEq,waf.injEq]
  exact waf_survives_iff lib hn
 | cors c =>
  simp only [consumedParameters,policyTypeStr,bodyType,configuredParameters,
   Option.some.injEq,cors.injEq]
  exact cors_survives_iff lib hn
 | ipFilter c =>
  simp only [consumedParameters,policyTypeStr,bodyType,configuredParameters,
   Option.some.injEq,ipFilter.injEq]
  exact ipFilter_survives_iff lib hn
 | securityHeaders c =>
  simp only [consumedParameters,policyTypeStr,bodyType,configuredParameters,
   Option.some.injEq,securityHeaders.injEq]
  exact securityHeaders_survives_iff lib hn

end

def decimal (s : String) : Option ℕ :=
 if s.toList.all Char.isDigit then some (Nat.ofDigitChars 10 s.toList 0) else none

lemma decimal_repr (n : ℕ) : decimal n.repr = some n := by
 have hdi : ∀ c ∈ Nat.toDigits 10 n, c.isDigit = true :=
  fun c hc => Nat.isDigit_of_mem_toDigits (by norm_num) (by norm_num) hc
 simp only [decimal,Nat.repr_eq_ofList_toDigits,String.toList_ofList,all_eq_true]
 rw [if_pos hdi,Nat.ofDigitChars_ten_toDigits]

def recordedLibrary (text : String) (json : JsonValue) : PolicyLibrary where
 toAuthLibrary := { fixedLibrary text json with asU64 := decimal }
 asF64 s := (decimal s).map (Nat.cast : ℕ → ℚ)
 asU64_toString n := decimal_repr n.toNat
 asF64_toString n := by
  have h : decimal (toString n) = some n.toNat := decimal_repr n.toNat
  rw [h,Option.map_some]

lemma readsBack_recordedLibrary (text : String) (json : JsonValue) :
  ReadsBack (recordedLibrary text json) json := by
 refine ⟨json,?_,fun _ => rfl⟩
 simp [recordedLibrary,fixedLibrary,AuthLibrary.fromStr,Except.toOption]

def sourceLimit : PolicyBody :=
 .rateLimit { requestsPerSecond := 50, burst := 20, key := "source-ip" }

theorem source_limit_survives :
  let lib := recordedLibrary
   "\x7b\"burst\":20,\"key\":\"source-ip\",\"requests_per_second\":50\x7d"
   (policyConfigToJson sourceLimit)
  ReadsBack lib (policyConfigToJson sourceLimit) ∧
   decodedParameters lib (policyOfBody lib "limit" sourceLimit) =
    some (configuredParameters lib sourceLimit) :=
 ⟨readsBack_recordedLibrary _ _,
  (policy_parameters_survive_iff _ "limit" sourceLimit (readsBack_recordedLibrary _ _)).mpr
   (.inr rfl)⟩

def tokenPolicy : PolicyBody := .jwt { issuer := "login", audiences := ["api"] }

/-- A policy for tokens of one issuer and one audience becomes an empty object, from which neither
is read. -/
theorem token_policy_forgets_issuer :
  let lib := recordedLibrary "\x7b\x7d" (policyConfigToJson tokenPolicy)
  ReadsBack lib (policyConfigToJson tokenPolicy) ∧
   decodedParameters lib (policyOfBody lib "tokens" tokenPolicy) =
    some (.jwt (configuredJwt {})) ∧
   decodedParameters lib (policyOfBody lib "tokens" tokenPolicy) ≠
    some (configuredParameters lib tokenPolicy) := by
 have hde : decodedParameters (recordedLibrary "\x7b\x7d" (policyConfigToJson tokenPolicy))
   (policyOfBody (recordedLibrary "\x7b\x7d" (policyConfigToJson tokenPolicy)) "tokens"
    tokenPolicy) = some (.jwt (configuredJwt {})) := rfl
 refine ⟨readsBack_recordedLibrary _ _,hde,?_⟩
 rw [hde]
 simp [configuredParameters,tokenPolicy,configuredJwt,unlessEmpty]

end Dataplane

end NovaEdge
