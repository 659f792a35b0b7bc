import NovaEdge.ResourceTypes

/-! The resources of the Gateway API that the controller translates. The API server has filled in
the defaults and has checked the ports. Enumerations are strings: a value that the translation
does not know is `other`. -/
namespace NovaEdge.GatewayApi

abbrev ObjectKey := String × String

structure ObjectMeta where
 (name ns : String)
 uid : String := ""
 labels : KeyedMap String String := ∅

def ObjectMeta.key (m : ObjectMeta) : ObjectKey := (m.ns,m.name)

abbrev PortNumber := { port : Int32 // 1 ≤ port ∧ port ≤ 65535 }

inductive ProtocolType
 | http
 | https
 | tls
 | tcp
 | udp
 | other (name : String)

structure SecretObjectReference where
 name : String
 ns : Option String := none

structure GatewayListener where
 name : String
 port : PortNumber
 protocol : ProtocolType
 hostname : Option String := none
 certificateRefs : Option (List SecretObjectReference) := none

structure Gateway extends ObjectMeta where
 gatewayClassName : String
 listeners : List GatewayListener := []

structure ParentReference where
 name : String
 (kind ns sectionName : Option String := none)

structure BackendRef where
 name : String
 (kind ns : Option String := none)
 port : Option PortNumber := none
 weight : Option Int32 := none

inductive PathMatchType
 | exact
 | pathPrefix
 | regularExpression
 | other (name : String)

inductive ValueMatchType
 | exact
 | regularExpression
 | other (name : String)
 deriving DecidableEq

structure HTTPPathMatch where
 type : Option PathMatchType := none
 value : String

structure ValueMatch where
 type : Option ValueMatchType := none
 (name value : String)

structure HTTPRouteMatch where
 path : Option HTTPPathMatch := none
 (headers queryParams : List ValueMatch := [])
 method : Option String := none

structure HTTPHeaderFilter where
 (set add : List V1alpha1.HTTPHeader := [])
 removed : List String := []

inductive PathModifierType
 | replaceFullPath
 | replacePrefixMatch
 | other (name : String)

structure HTTPPathModifier where
 type : PathModifierType
 (replaceFullPath replacePrefixMatch : Option String := none)

structure HTTPRequestRedirectFilter where
 (scheme hostname : Option String := none)
 path : Option HTTPPathModifier := none
 port : Option PortNumber := none

structure HTTPURLRewriteFilter where
 hostname : Option String := none
 path : Option HTTPPathModifier := none

structure HTTPRequestMirrorFilter where
 backendRef : BackendRef
 percent : Option Int32 := none

inductive HTTPRouteFilterType
 | requestHeaderModifier
 | responseHeaderModifier
 | requestRedirect
 | urlRewrite
 | requestMirror
 | other (name : String)

structure HTTPRouteFilter where
 type : HTTPRouteFilterType
 (requestHeaderModifier responseHeaderModifier : Option HTTPHeaderFilter := none)
 requestRedirect : Option HTTPRequestRedirectFilter := none
 urlRewrite : Option HTTPURLRewriteFilter := none
 requestMirror : Option HTTPRequestMirrorFilter := none

structure HTTPBackendRef extends BackendRef where
 filters : List HTTPRouteFilter := []

structure HTTPRouteRule where
 routeMatches : List HTTPRouteMatch := []
 filters : List HTTPRouteFilter := []
 backendRefs : List HTTPBackendRef := []

structure HTTPRoute extends ObjectMeta where
 parentRefs : List ParentReference := []
 hostnames : List String := []
 rules : List HTTPRouteRule := []

structure GRPCMethodMatch where
 type : Option ValueMatchType := none
 (service method : Option String := none)

structure GRPCRouteMatch where
 method : Option GRPCMethodMatch := none
 headers : List ValueMatch := []

structure GRPCRouteRule where
 routeMatches : List GRPCRouteMatch := []
 backendRefs : List BackendRef := []

structure GRPCRoute extends ObjectMeta where
 parentRefs : List ParentReference := []
 hostnames : List String := []
 rules : List GRPCRouteRule := []

structure L4RouteRule where
 backendRefs : List BackendRef := []

structure TCPRoute extends ObjectMeta where
 rules : List L4RouteRule := []

structure TLSRoute extends ObjectMeta where
 hostnames : List String := []
 rules : List L4RouteRule := []

structure OwnerReference where
 (kind name uid : String)
 deriving DecidableEq

structure Written (α : Type) where
 spec : α
 (labels annotations : KeyedMap String String := ∅)
 owners : List OwnerReference := []

def ownerAnnotation : String := "novaedge.io/gateway-api-owner"

def ObjectMeta.ownerRef (m : ObjectMeta) (kind : String) : OwnerReference := ⟨kind,m.name,m.uid⟩

def ObjectMeta.ownerText (m : ObjectMeta) (kind : String) : String :=
 kind ++ "/" ++ m.ns ++ "/" ++ m.name

end NovaEdge.GatewayApi
