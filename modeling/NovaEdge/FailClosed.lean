import NovaEdge.AccessControl

/-! Whether the chain refuses requests when an authentication or access-control policy that it
names is not there, cannot be read or is of a kind that the chain has no branch for. -/
namespace NovaEdge.Dataplane
open List

section
variable (lib : AuthLibrary)

def accessControlTypes : List String := ["basic-auth","jwt","ip-filter","waf"]

/-- The configuration holds what a policy of the type decides by, in the form that the control
interface documents. -/
def wellConfigured (policyType : String) (config : JsonValue) : Bool :=
 match policyType with
 | "basic-auth" => (config.index "htpasswd").asStr.isSome
 | "jwt" => (config.index "secret").asStr.isSome
 | "ip-filter" => (config.index "action").asStr ∈ [some "allow",some "deny"] &&
   (config.index "cidrs").asArray.any fun items =>
    items.all fun v => (v.asStr.bind (CidrRange.parse lib)).isSome
 | "waf" => (config.index "enabled").asBool.isSome &&
   (config.index "mode").asStr ∈ [some "detection",some "prevention"]
 | _ => true

variable (policies : KeyedMap String PolicyState) (name : String)

/-- A reference to an access-control policy that the store does not configure. -/
inductive Unusable : Prop
 | absent (h : policies.find? name = none)
 | unimplemented {policy : PolicyState} (h : policies.find? name = some policy)
   (ht : dispatched policy.policyType = false)
 | unreadable {policy : PolicyState} (h : policies.find? name = some policy)
   (ht : policy.policyType ∈ accessControlTypes) (hj : lib.fromStr policy.configJson = none)
 | malformed {policy : PolicyState} {config : JsonValue}
   (h : policies.find? name = some policy) (ht : policy.policyType ∈ accessControlTypes)
   (hj : lib.fromStr policy.configJson = some config)
   (hc : wellConfigured lib policy.policyType config = false)

def FailsClosed (eng : PolicyEngines) : Prop :=
 ∀ refs, name ∈ refs → ∀ req req', (runPipeline eng policies refs req).2 ≠ .continueWith req'

def DeniesAll (config : JsonValue) : Prop := ipFilterAction config = "deny" ∧
  ∀ text ip, lib.parseIp text = some ip → ∃ r ∈ ipFilterRanges lib config, r.contains ip = true

/-- Unreadable configurations refuse for every access-control kind, readable ones for few. -/
def Refusing : Prop :=
 ∃ policy, policies.find? name = some policy ∧ policy.policyType ∈ accessControlTypes ∧
  match lib.fromStr policy.configJson with
  | none => True
  | some config => policy.policyType = "basic-auth" ∨ policy.policyType = "jwt" ∨
    policy.policyType = "ip-filter" ∧ DeniesAll lib config

end

def bareRequest (clientIp : String) : Request := ⟨"GET","","",[],none,clientIp⟩

lemma failsClosed_iff (eng : PolicyEngines) (pols : KeyedMap String PolicyState)
  (name : String) : FailsClosed pols name eng ↔ ∃ policy, pols.find? name = some policy ∧
    ∀ req, runPolicy eng name policy req ≠ .continueWith req := by
 constructor
 · intro h
   have hl := h [name] mem_cons_self
   cases hp : pols.find? name with
   | none =>
    have hpa := (runPipeline_continueWith_iff eng pols [name] (bareRequest "") (bareRequest "")).mpr
     ⟨rfl,by simp [hp]⟩
    exact absurd hpa (hl _ _)
   | some policy =>
    refine ⟨policy,rfl,fun req hr => hl req req ?_⟩
    rw [runPipeline_continueWith_iff]
    simp [hp,hr]
 · rintro ⟨policy,hp,ha⟩ refs hm req req' hu
   obtain ⟨-,hpa⟩ := (runPipeline_continueWith_iff eng pols refs req req').mp hu
   exact ha req (hpa name hm policy hp)

section
variable (lib : AuthLibrary) {config : JsonValue}

lemma basicAuthOf_users (h : (config.index "htpasswd").asStr = none) :
  (basicAuthOf lib config).users = ∅ := by
 simp only [basicAuthOf,h,BasicAuth.new]
 rfl

lemma basicAuthEngine_ne_none (h : (config.index "htpasswd").asStr = none) (name : String)
  (req : Request) : basicAuthEngine lib name config req ≠ none := by
 have hde : ∃ message, (basicAuthOf lib config).check lib req = .denied 401 message := by
  unfold BasicAuth.check
  rw [basicAuthOf_users lib h]
  split
  · exact ⟨_,rfl⟩
  · split
    · exact ⟨_,rfl⟩
    · simp
 obtain ⟨message,hm⟩ := hde
 simp [basicAuthEngine,hm]

lemma validate_without_secret {cfg : JwtConfig} (h : cfg.secret = none) (tok : String) :
  ∃ e, cfg.validate lib tok = .error e := by
 unfold JwtConfig.validate
 split
 · rename_i head pay signature hp
   by_cases ha : (headerAlg lib head).any (eqIgnoreAsciiCase · "none")
   · exact ⟨_,by simp only [ha,if_true]; rfl⟩
   · exact ⟨_,by simp only [ha,h,verifySignature]; rfl⟩
 · exact ⟨_,rfl⟩

lemma jwtEngine_ne_none (h : (config.index "secret").asStr = none) (name : String)
  (req : Request) : jwtEngine lib name config req ≠ none := by
 have hse : (jwtConfigOf config).secret = none := h
 have hde : ∃ message, (jwtConfigOf config).check lib req = .denied 401 message := by
  unfold JwtConfig.check
  split
  · exact ⟨_,rfl⟩
  · obtain ⟨e,he⟩ := validate_without_secret lib hse _
    rw [he]
    exact ⟨e,rfl⟩
 obtain ⟨message,hm⟩ := hde
 simp [jwtEngine,hm]

lemma wafEngine_bareRequest (name ci : String) :
  wafEngine lib name config (bareRequest ci) = none := by
 have hu : wafMatch lib defaultRules .uri (urlDecode "") = none := by
  have hr : (defaultRules.filter fun r => r.pattern ≠ "" ∧ r.target = .uri) =
    [⟨930100,"Path Traversal",.uri,pathTraversal⟩] := rfl
  have hb : "".toUTF8.toList = [] := by simp
  have hsi : String.ofList (urlDecodeSingle "".toUTF8.toList) = "" := by
   rw [hb]
   rfl
  have hde : urlDecode "" = "" := by simp only [urlDecode,urlDecodePasses,hsi,if_true]
  simp only [wafMatch,hr,hde,map_cons,map_nil]
  cases hse : lib.regexSet ["(?i)" ++ pathTraversal] with
  | none => rfl
  | some set => simp [lib.regexSet_traversal set hse]
 have hf : wafFind lib defaultRules (bareRequest ci) = none := by
  simp [wafFind,bareRequest,hu,header,splitOnce]
 simp [wafEngine,hf]

lemma ipFilter_check_bareRequest (fil : IpFilter) (text : String) :
  fil.check lib (bareRequest text) = (lib.parseIp text).any fil.permits := by
 simp [IpFilter.check,IpFilter.extractIp,bareRequest,header]

lemma exists_ipFilterEngine_eq_none (name : String) :
  (∃ req, ipFilterEngine lib name config req = none) ↔
   ∃ text ip, lib.parseIp text = some ip ∧ (ipFilterOf lib config).permits ip = true := by
 constructor
 · rintro ⟨req,hr⟩
   have hc : (ipFilterOf lib config).check lib req = true := by
    by_contra hn
    simp [ipFilterEngine,hn] at hr
   unfold IpFilter.check at hc
   cases hip : lib.parseIp ((ipFilterOf lib config).extractIp lib req) with
   | none => simp [hip] at hc
   | some ip => exact ⟨_,ip,hip,by simpa [hip] using hc⟩
 · rintro ⟨text,ip,hip,hp⟩
   refine ⟨bareRequest text,?_⟩
   simp [ipFilterEngine,ipFilter_check_bareRequest,hip,hp]

lemma CidrRange.contains_addr (r : CidrRange) : r.contains r.addr = true := by
 unfold CidrRange.contains
 cases r.addr <;> simp

lemma exists_parseIp_addr {s : String} {r : CidrRange} (h : CidrRange.parse lib s = some r) :
  ∃ text, lib.parseIp text = some r.addr := by
 unfold CidrRange.parse at h
 split at h
 · rename_i addr len hsp
   simp only [Option.bind_eq_bind,bind_eq_some_iff] at h
   obtain ⟨ip,hp,n,-,hr⟩ := h
   split at hr
   · cases hr
   · cases hr
     exact ⟨_,hp⟩
 · obtain ⟨ip,hp,rfl⟩ := map_eq_some_iff.mp h
   exact ⟨s,hp⟩

/-- An allow list permits the network addresses of its readable ranges, and every address if it
has none. -/
lemma exists_permits_of_ne_deny (h : ipFilterAction config ≠ "deny") :
  ∃ text ip, lib.parseIp text = some ip ∧ (ipFilterOf lib config).permits ip = true := by
 cases hr : ipFilterRanges lib config with
 | nil => exact ⟨_,_,lib.parseIp_loopback,by simp [IpFilter.permits,ipFilterOf,h,hr]⟩
 | cons r rest =>
  have hm : r ∈ ipFilterRanges lib config := by simp [hr]
  obtain ⟨s,-,hs⟩ := mem_filterMap.mp hm
  obtain ⟨text,hte⟩ := exists_parseIp_addr lib hs
  exact ⟨text,r.addr,hte,by simp [IpFilter.permits,ipFilterOf,h,hr,r.contains_addr]⟩

lemma ipFilterEngine_ne_none_iff (name : String) :
  (∀ req, ipFilterEngine lib name config req ≠ none) ↔ DeniesAll lib config := by
 rw [← not_iff_not]
 push Not
 rw [exists_ipFilterEngine_eq_none]
 by_cases hde : ipFilterAction config = "deny"
 · simp [DeniesAll,hde,IpFilter.permits,ipFilterOf]
 · simp only [DeniesAll,hde,false_and,not_false_eq_true,iff_true]
   exact exists_permits_of_ne_deny lib hde

lemma ofAnswer_eq_continueWith_iff {req : Request} {ans : Option Response} :
  MiddlewareResult.ofAnswer req ans = .continueWith req ↔ ans = none := by
 cases ans <;> simp [MiddlewareResult.ofAnswer]

section
variable {rl cors : String → JsonValue → Request → Option Response} {pol : PolicyState}

lemma dispatched_of_mem {t : String} (h : t ∈ accessControlTypes) : dispatched t = true := by
 simp only [accessControlTypes,mem_cons,not_mem_nil,or_false] at h
 rcases h with rfl | rfl | rfl | rfl <;> rfl

lemma runPolicy_undispatched (eng : PolicyEngines) (h : dispatched pol.policyType = false)
  (name : String) (req : Request) : runPolicy eng name pol req = .continueWith req := by
 unfold runPolicy
 split
 case h_7 => rfl
 all_goals
  rename_i hq
  simp [dispatched,hq] at h

variable (ht : pol.policyType ∈ accessControlTypes)
include ht

lemma runPolicy_unreadable (hj : lib.fromStr pol.configJson = none) (name : String)
  (req : Request) : runPolicy (chainEngines lib rl cors) name pol req ≠ .continueWith req := by
 simp only [accessControlTypes,mem_cons,not_mem_nil,or_false] at ht
 rcases ht with ht | ht | ht | ht <;>
  simp [runPolicy,ht,runBasicAuth,runJwt,runIpFilter,runWaf,runEngine,chainEngines,hj,
   failClosed,MiddlewareResult.ofAnswer]

/-- Basic authentication and JWT answer all requests, the IP filter those it denies. -/
lemma runPolicy_malformed_iff (hj : lib.fromStr pol.configJson = some config)
  (hc : wellConfigured lib pol.policyType config = false) (name : String) :
  (∀ req, runPolicy (chainEngines lib rl cors) name pol req ≠ .continueWith req) ↔
   pol.policyType = "basic-auth" ∨ pol.policyType = "jwt" ∨
    pol.policyType = "ip-filter" ∧ DeniesAll lib config := by
 simp only [accessControlTypes,mem_cons,not_mem_nil,or_false] at ht
 rcases ht with ht | ht | ht | ht
 · have hn : (config.index "htpasswd").asStr = none := by simpa [wellConfigured,ht] using hc
   simp only [runPolicy,ht,runBasicAuth,runEngine,chainEngines,hj,true_or,iff_true]
   intro req hr
   exact basicAuthEngine_ne_none lib hn name req (ofAnswer_eq_continueWith_iff.mp hr)
 · have hn : (config.index "secret").asStr = none := by simpa [wellConfigured,ht] using hc
   simp only [runPolicy,ht,runJwt,runEngine,chainEngines,hj,true_or,or_true,iff_true]
   intro req hr
   exact jwtEngine_ne_none lib hn name req (ofAnswer_eq_continueWith_iff.mp hr)
 · simp only [runPolicy,ht,runIpFilter,runEngine,chainEngines,hj,ne_eq,ofAnswer_eq_continueWith_iff]
   simpa using ipFilterEngine_ne_none_iff lib name
 · simp only [runPolicy,ht,runWaf,runEngine,chainEngines,hj,ne_eq, ofAnswer_eq_continueWith_iff]
   simp only [String.reduceEq,false_and,or_self,iff_false,not_forall,not_not]
   exact ⟨bareRequest "",wafEngine_bareRequest lib name ""⟩

end

end

theorem fails_closed_iff (lib : AuthLibrary)
  (rateLimit cors : String → JsonValue → Request → Option Response)
  (policies : KeyedMap String PolicyState) (name : String) :
  (Unusable lib policies name → FailsClosed policies name (chainEngines lib rateLimit cors)) ↔
   (Unusable lib policies name → Refusing lib policies name) := by
 refine forall_congr' fun hu => ?_
 rw [failsClosed_iff,Refusing]
 cases hu with
 | absent h => simp [h]
 | unimplemented h ht =>
  constructor
  · rintro ⟨policy,hp,ha⟩
    obtain rfl := mem_unique h hp
    exact absurd (runPolicy_undispatched _ ht name (bareRequest "")) (ha _)
  · rintro ⟨policy,hp,hm,-⟩
    obtain rfl := mem_unique h hp
    rw [dispatched_of_mem hm] at ht
    contradiction
 | unreadable h ht hj =>
  simp only [h,Option.some.injEq,exists_eq_left',ht,hj,and_self,iff_true]
  exact runPolicy_unreadable lib ht hj name
 | malformed h ht hj hc =>
  simp only [h,Option.some.injEq,exists_eq_left',ht,hj,true_and]
  exact runPolicy_malformed_iff lib ht hj hc name

/-- Libraries that read one text of JSON and no address but the loopback one. -/
def fixedLibrary (text : String) (json : JsonValue) : AuthLibrary where
 parseJson s := if s = text then .ok json else .error "unexpected text"
 fromSlice _ := none
 render _ := text
 asU64 _ := none
 isWhitespace _ := false
 decodeStandard _ := none
 decodeUrlSafe _ := .error ""
 fromUtf8 _ := .error ""
 fromUtf8Lossy _ := ""
 bcryptHash _ := none
 bcryptVerify _ _ := none
 hmacVerify _ _ _ := .error ""
 now := 0
 parseIp s := if s = "127.0.0.1" then some (.v4 0x7F000001) else none
 parseU8 _ := none
 regexSet _ := none
 parseIp_loopback := rfl
 regexSet_traversal := by simp

def mistypedAllowList : Proto.PolicyBody := .ipFilter { action := "allow", cidrs := ["10.0.0.0/33"] }

def mistypedText : String :=
 "\x7b\"action\":\"allow\",\"cidrs\":[\"10.0.0.0/33\"],\"source_header\":\"\"\x7d"

def looseStore : KeyedMap String PolicyState :=
 (({} : RuntimeConfig).applyConfig (fun _ => mistypedText) 0
  { policies := [{ name := "sso", policyType := .oauth2, config := some (.oauth2 {}) },
     { name := "office", policyType := .ipFilter, config := some mistypedAllowList }] }).policies

/-- A missing policy, a kind that is not implemented, and ranges that cannot be read. -/
theorem loose_chain_continues :
  let lib := fixedLibrary mistypedText (policyConfigToJson mistypedAllowList)
  let eng := chainEngines lib (fun _ _ _ => none) fun _ _ _ => none
  (∀ name ∈ ["missing","sso","office"], Unusable lib looseStore name) ∧
   (runPipeline eng looseStore ["missing","sso","office"] (bareRequest "127.0.0.1")).2 =
    .continueWith (bareRequest "127.0.0.1") := by
 refine ⟨?_,by decide⟩
 simp only [forall_mem_cons]
 refine ⟨.absent (by decide),.unimplemented rfl (by decide),
  .malformed rfl (by decide) rfl (by decide),by simp⟩

end NovaEdge.Dataplane
