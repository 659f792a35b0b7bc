import NovaEdge.GatewayApiTypes

/-! The translation of Gateway API resources into the controller's own. -/
namespace NovaEdge.GatewayApi
open V1alpha1 (ProxyRoute ProxyGateway)

inductive TranslateError
 | gatewayClass (name : String)
 | unsupportedProtocol (protocol : ProtocolType)
 | noCertificateRefs (listener : String)
 | ruleHasNoBackendRefs
 | unsupportedPathMatchType
 | unsupportedHeaderMatchType
 | unsupportedQueryParamMatchType
 | filterHasNoConfiguration (type : HTTPRouteFilterType)
 | unsupportedFilterType (type : HTTPRouteFilterType)
 | grpcRuleHasNoBackendRefs
 | tcpRouteRule (ruleIdx : ℕ)
 | tlsRouteRule (ruleIdx : ℕ)
 | inListener (name : String) (e : TranslateError)
 | inRule (ruleIdx : ℕ) (e : TranslateError)
 | inMatch (e : TranslateError)
 | inFilter (e : TranslateError)
 | inBackendFilter (e : TranslateError)

abbrev Translated (α : Type) := Except TranslateError α

def novaEdgeGatewayClassName : String := "novaedge"

def translateProtocol : ProtocolType → Translated V1alpha1.ProtocolType
 | .http => .ok .http
 | .https => .ok .https
 | .tls => .ok .tls
 | .tcp => .ok .tcp
 | p => .error (.unsupportedProtocol p)

def translateListener (ns : String) (lis : GatewayListener) : Translated V1alpha1.Listener := do
 let protocol ← translateProtocol lis.protocol
 let tls ← match lis.certificateRefs with
  | none => pure none
  | some [] => throw (.noCertificateRefs lis.name)
  | some (ref::_) => pure (some { secretRef := some { name := ref.name, ns := ref.ns.getD ns } })
 return { name := lis.name, port := lis.port, port_valid := lis.port.2, protocol := protocol
          hostnames := lis.hostname.toList, tls := tls }

def translateGatewayToProxyGateway (gw : Gateway) : Translated (Written ProxyGateway) := do
 if gw.gatewayClassName ≠ novaEdgeGatewayClassName then
  throw (.gatewayClass gw.gatewayClassName)
 let listeners ← gw.listeners.mapM fun lis =>
  (translateListener gw.ns lis).mapError (.inListener lis.name)
 return { spec := { name := gw.name, ns := gw.ns, listeners := listeners }
          labels := gw.labels
          annotations := (∅ : KeyedMap String String).set ownerAnnotation (gw.ownerText "Gateway")
          owners := [gw.ownerRef "Gateway"] }

def translatePathMatch (path : HTTPPathMatch) : Translated V1alpha1.HTTPPathMatch :=
 match path.type.getD .pathPrefix with
 | .exact => .ok ⟨.exact,path.value⟩
 | .pathPrefix => .ok ⟨.pathPrefix,path.value⟩
 | .regularExpression => .ok ⟨.regularExpression,path.value⟩
 | .other _ => .error .unsupportedPathMatchType

def translateValueMatchType (error : TranslateError) (type : Option ValueMatchType) :
  Translated V1alpha1.HeaderMatchType :=
 match type.getD .exact with
 | .exact => .ok .exact
 | .regularExpression => .ok .regularExpression
 | .other _ => .error error

def translateHTTPRouteMatch (m : HTTPRouteMatch) : Translated V1alpha1.HTTPRouteMatch := do
 let path ← m.path.mapM translatePathMatch
 let headers ← m.headers.mapM fun h => do
  return { type := ← translateValueMatchType .unsupportedHeaderMatchType h.type
           name := h.name, value := h.value : V1alpha1.HTTPHeaderMatch }
 let queryParams ← m.queryParams.mapM fun q => do
  return { type := ← translateValueMatchType .unsupportedQueryParamMatchType q.type
           name := q.name, value := q.value : V1alpha1.HTTPQueryParamMatch }
 return { path := path, headers := headers, queryParams := queryParams, method := m.method }

/-- Headers to set are added. The type is that of an addition unless headers are only removed. -/
def translateRequestHeaderModifierFilter (f : HTTPHeaderFilter) : V1alpha1.HTTPRouteFilter where
 type := if f.add = [] ∧ f.set = [] ∧ f.removed ≠ [] then .removeHeader else .addHeader
 add := f.add ++ f.set
 removed := f.removed

def translateResponseHeaderModifierFilter (f : HTTPHeaderFilter) : V1alpha1.HTTPRouteFilter where
 type := .responseAddHeader
 responseAdd := f.add
 responseSet := f.set
 responseRemove := f.removed

def resolvePathModifier (pathMod : Option HTTPPathModifier) : Option String :=
 pathMod.bind fun m => match m.type with
  | .replaceFullPath => m.replaceFullPath
  | .replacePrefixMatch => m.replacePrefixMatch
  | .other _ => none

def portText (port : PortNumber) : String := toString port.1.toInt

def translateRequestRedirectFilter (f : HTTPRequestRedirectFilter) : V1alpha1.HTTPRouteFilter where
 type := .requestRedirect
 redirectURL := if f.scheme = none ∧ f.hostname = none ∧ f.port = none then none
  else some (f.scheme.getD "http" ++ "://" ++ f.hostname.getD "" ++
   (f.port.map fun port => ":" ++ portText port).getD "")
 rewritePath := resolvePathModifier f.path

def translateURLRewriteFilter (f : HTTPURLRewriteFilter) : V1alpha1.HTTPRouteFilter where
 type := .urlRewrite
 add := f.hostname.toList.map fun hostname => ⟨"Host",hostname⟩
 rewritePath := resolvePathModifier f.path

/-- A namespace that is not given is empty, and not that of the route. -/
def translateRequestMirrorFilter (f : HTTPRequestMirrorFilter) : V1alpha1.HTTPRouteFilter where
 type := .requestMirror
 mirrorBackend := some { name := f.backendRef.name, ns := some (f.backendRef.ns.getD "") }
 mirrorPercent := f.percent

def translateHTTPRouteFilter (f : HTTPRouteFilter) : Translated V1alpha1.HTTPRouteFilter :=
 let configured {β : Type} (translate : β → V1alpha1.HTTPRouteFilter) (config : Option β) :=
  match config with
  | some c => Except.ok (translate c)
  | none => Except.error (TranslateError.filterHasNoConfiguration f.type)
 match f.type with
 | .requestHeaderModifier =>
  configured translateRequestHeaderModifierFilter f.requestHeaderModifier
 | .responseHeaderModifier =>
  configured translateResponseHeaderModifierFilter f.responseHeaderModifier
 | .requestRedirect => configured translateRequestRedirectFilter f.requestRedirect
 | .urlRewrite => configured translateURLRewriteFilter f.urlRewrite
 | .requestMirror => configured translateRequestMirrorFilter f.requestMirror
 | .other _ => .error (.unsupportedFilterType f.type)

def BackendRef.namespaceIn (b : BackendRef) (routeNs : String) : String := b.ns.getD routeNs

/-- The reference as it stands, with the namespace of the route and weight 1 as defaults. -/
def translateBackendRef (routeNs : String) (b : BackendRef) : V1alpha1.BackendRef where
 name := b.name
 ns := some (b.namespaceIn routeNs)
 weight := some (b.weight.getD 1)

def BackendRef.portNumber (b : BackendRef) : PortNumber := b.port.getD ⟨80,by decide⟩

def generateProxyBackendName (serviceName ns : String) (port : PortNumber) : String :=
 ns ++ "-" ++ serviceName ++ "-" ++ portText port

def BackendRef.proxyBackendName (b : BackendRef) (routeNs : String) : String :=
 generateProxyBackendName b.name (b.namespaceIn routeNs) b.portNumber

/-- A gRPC rule refers to the backend that is generated for the service. -/
def translateGRPCBackendRef (routeNs : String) (b : BackendRef) : V1alpha1.BackendRef :=
 { translateBackendRef routeNs b with name := b.proxyBackendName routeNs }

/-- The filters of the backends become filters of the rule. -/
def translateHTTPRouteRule (ns : String) (rule : HTTPRouteRule) :
  Translated V1alpha1.HTTPRouteRule := do
 let routeMatches ← rule.routeMatches.mapM fun m =>
  (translateHTTPRouteMatch m).mapError .inMatch
 let filters ← rule.filters.mapM fun f => (translateHTTPRouteFilter f).mapError .inFilter
 if rule.backendRefs.isEmpty then throw .ruleHasNoBackendRefs
 let backendFilters ← (rule.backendRefs.flatMap HTTPBackendRef.filters).mapM fun f =>
  (translateHTTPRouteFilter f).mapError .inBackendFilter
 return { routeMatches := routeMatches, filters := filters ++ backendFilters
          backendRefs := rule.backendRefs.map fun b => translateBackendRef ns b.toBackendRef }

def translateRules {ρ : Type} (translate : ρ → Translated V1alpha1.HTTPRouteRule)
  (rules : List ρ) : Translated (List V1alpha1.HTTPRouteRule) :=
 rules.zipIdx.mapM fun p => (translate p.1).mapError (.inRule p.2)

def proxyRouteOf (m : ObjectMeta) (kind name : String) (hostnames : List String)
  (rules : List V1alpha1.HTTPRouteRule) (marks : KeyedMap String String) :
  Written ProxyRoute where
 spec := { name := name, ns := m.ns, hostnames := hostnames, rules := rules }
 labels := m.labels
 annotations := marks.set ownerAnnotation (m.ownerText kind)
 owners := [m.ownerRef kind]

def translateHTTPRouteToProxyRoute (route : HTTPRoute) :
  Translated (Written ProxyRoute) := do
 let rules ← translateRules (translateHTTPRouteRule route.ns) route.rules
 return proxyRouteOf route.toObjectMeta "HTTPRoute" route.name route.hostnames rules ∅

def grpcContentType : V1alpha1.HTTPHeaderMatch := ⟨.exact,"Content-Type","application/grpc"⟩

def translateGRPCMethod (m : GRPCMethodMatch) : V1alpha1.HTTPPathMatch where
 type := if m.type = some .regularExpression then .regularExpression else .exact
 value := "/" ++ m.service.getD "" ++ (m.method.map fun method => "/" ++ method).getD ""

/-- A type that is not known counts as an exact match. -/
def translateGRPCHeader (h : ValueMatch) : V1alpha1.HTTPHeaderMatch where
 type := if h.type = some .regularExpression then .regularExpression else .exact
 name := h.name
 value := h.value

/-- A call is a POST of the gRPC content type. -/
def translateGRPCRouteMatch (m : GRPCRouteMatch) : V1alpha1.HTTPRouteMatch where
 path := m.method.map translateGRPCMethod
 headers := m.headers.map translateGRPCHeader ++ [grpcContentType]
 method := some "POST"

def translateGRPCRouteRule (ns : String) (rule : GRPCRouteRule) :
  Translated V1alpha1.HTTPRouteRule :=
 if rule.backendRefs.isEmpty then .error .grpcRuleHasNoBackendRefs
 else .ok
  { routeMatches := if rule.routeMatches.isEmpty then [translateGRPCRouteMatch {}]
     else rule.routeMatches.map translateGRPCRouteMatch
    backendRefs := rule.backendRefs.map (translateGRPCBackendRef ns) }

def GRPCRoute.proxyName (route : GRPCRoute) : String := "grpc-" ++ route.name

def translateGRPCRouteToProxyRoute (route : GRPCRoute) :
  Translated (Written ProxyRoute) := do
 let rules ← translateRules (translateGRPCRouteRule route.ns) route.rules
 return proxyRouteOf route.toObjectMeta "GRPCRoute" route.proxyName route.hostnames rules
  ((∅ : KeyedMap String String).set "novaedge.io/route-type" "grpc")

def translateL4Rules (error : ℕ → TranslateError) (ns : String) (rules : List L4RouteRule) :
  Translated (List V1alpha1.HTTPRouteRule) :=
 rules.zipIdx.mapM fun p =>
  if p.1.backendRefs.isEmpty then .error (error p.2)
  else .ok { backendRefs := p.1.backendRefs.map (translateBackendRef ns) }

def l4ProtocolAnnotation : String := "novaedge.io/l4-protocol"

def translateTCPRouteToProxyRoute (route : TCPRoute) :
  Translated (Written ProxyRoute) := do
 let rules ← translateL4Rules .tcpRouteRule route.ns route.rules
 return proxyRouteOf route.toObjectMeta "TCPRoute" route.name [] rules
  ((∅ : KeyedMap String String).set l4ProtocolAnnotation "TCP")

def translateTLSRouteToProxyRoute (route : TLSRoute) :
  Translated (Written ProxyRoute) := do
 let rules ← translateL4Rules .tlsRouteRule route.ns route.rules
 return proxyRouteOf route.toObjectMeta "TLSRoute" route.name route.hostnames rules
  ((∅ : KeyedMap String String).set l4ProtocolAnnotation "TLS")

attribute [local simp] Except.bind bind

lemma forall₂_of_mapM {α β : Type} {f : α → Translated β} {l : List α} {r : List β}
  (h : l.mapM f = .ok r) : List.Forall₂ (fun a b => f a = .ok b) l r := by
 induction l generalizing r with
 | nil =>
  cases h
  exact .nil
 | cons a l ih =>
  rw [List.mapM_cons] at h
  cases ha : f a with
  | error e => simp [ha] at h
  | ok b =>
   cases hl : l.mapM f with
   | error e => simp [ha,hl] at h
   | ok rest =>
    simp only [ha,hl,bind,Except.bind] at h
    cases h
    exact .cons ha (ih hl)

lemma eq_ok_of_mapError {α : Type} {t : Translated α} {wrap : TranslateError → TranslateError}
  {a : α} (h : t.mapError wrap = .ok a) : t = .ok a := by
 cases t with
 | error e => simp [Except.mapError] at h
 | ok b => exact h

lemma forall₂_of_translateRules {ρ : Type} {tra : ρ → Translated V1alpha1.HTTPRouteRule}
  {rls : List ρ} {r : List V1alpha1.HTTPRouteRule} (h : translateRules tra rls = .ok r) :
  List.Forall₂ (fun a b => tra a = .ok b) rls r := by
 have ha := (forall₂_of_mapM h).imp fun p b hp => eq_ok_of_mapError hp
 rwa [← List.forall₂_map_left_iff (R := fun a b => tra a = .ok b) (f := Prod.fst),
  List.zipIdx_map_fst] at ha

lemma backendRefs_translateHTTPRouteRule {ns : String} {rule : HTTPRouteRule}
  {r : V1alpha1.HTTPRouteRule} (h : translateHTTPRouteRule ns rule = .ok r) :
  r.backendRefs = rule.backendRefs.map fun b => translateBackendRef ns b.toBackendRef := by
 simp only [translateHTTPRouteRule,bind,Except.bind] at h
 split at h
 · simp at h
 · split at h
   · simp at h
   · split_ifs at h
     split at h
     · simp at h
     · cases h
       rfl

lemma backendRefs_translateGRPCRouteRule {ns : String} {rule : GRPCRouteRule}
  {r : V1alpha1.HTTPRouteRule} (h : translateGRPCRouteRule ns rule = .ok r) :
  r.backendRefs = rule.backendRefs.map (translateGRPCBackendRef ns) := by
 unfold translateGRPCRouteRule at h
 by_cases hr : rule.backendRefs.isEmpty = true
 · simp [hr] at h
 · rw [if_neg hr] at h
   cases h
   rfl

lemma exists_rules_of_translateHTTPRoute {rt : HTTPRoute} {w : Written ProxyRoute}
  (h : translateHTTPRouteToProxyRoute rt = .ok w) :
  ∃ rls, List.Forall₂ (fun a b => translateHTTPRouteRule rt.ns a = .ok b) rt.rules rls ∧
   w = proxyRouteOf rt.toObjectMeta "HTTPRoute" rt.name rt.hostnames rls ∅ := by
 cases hr : translateRules (translateHTTPRouteRule rt.ns) rt.rules with
 | error e => simp [translateHTTPRouteToProxyRoute,hr] at h
 | ok rls =>
  simp only [translateHTTPRouteToProxyRoute,hr,bind,Except.bind] at h
  exact ⟨rls,forall₂_of_translateRules hr,(Except.ok.inj h).symm⟩

lemma exists_rules_of_translateGRPCRoute {rt : GRPCRoute} {w : Written ProxyRoute}
  (h : translateGRPCRouteToProxyRoute rt = .ok w) :
  ∃ rls, List.Forall₂ (fun a b => translateGRPCRouteRule rt.ns a = .ok b) rt.rules rls ∧
   w = proxyRouteOf rt.toObjectMeta "GRPCRoute" rt.proxyName rt.hostnames rls
    ((∅ : KeyedMap String String).set "novaedge.io/route-type" "grpc") := by
 cases hr : translateRules (translateGRPCRouteRule rt.ns) rt.rules with
 | error e => simp [translateGRPCRouteToProxyRoute,hr] at h
 | ok rls =>
  simp only [translateGRPCRouteToProxyRoute,hr,bind,Except.bind] at h
  exact ⟨rls,forall₂_of_translateRules hr,(Except.ok.inj h).symm⟩

end NovaEdge.GatewayApi
