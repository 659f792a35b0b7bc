import Mathlib.Data.Prod.Lex
import NovaEdge.L4Builder
import NovaEdge.MeshAuthorization

/-! The whole content of a snapshot, and what the controller's builder may return for the objects
of a cluster. Sorting leaves the order of equal keys open, and so does the iteration over a map. -/
namespace NovaEdge.Snapshot
open V1alpha1 List

/-- White space, as Unicode has it. -/
def isSpace (c : Char) : Bool :=
 let n := c.toNat
 9 ≤ n && n ≤ 13 || n = 32 || n = 0x85 || n = 0xA0 || n = 0x1680 || 0x2000 ≤ n && n ≤ 0x200A ||
  n = 0x2028 || n = 0x2029 || n = 0x202F || n = 0x205F || n = 0x3000

def trimSpace (line : List Char) : List Char :=
 ((line.dropWhile isSpace).reverse.dropWhile isSpace).reverse

/-- A backslash continues a line; an empty line or a comment ends the rule. -/
def parseRuleLines : List (List Char) → List Char → List (List Char)
 | [], current => if current.isEmpty then [] else [current]
 | line::lines, current =>
  let trimmed := trimSpace line
  if trimmed.isEmpty || trimmed.head? = some '#' then
   if current.isEmpty then parseRuleLines lines [] else current::parseRuleLines lines []
  else if trimmed.getLast? = some '\\' then
   parseRuleLines lines (current ++ trimmed.dropLast ++ [' '])
  else (current ++ trimmed)::parseRuleLines lines []

def parseConfigMapRules (content : String) : List String :=
 (parseRuleLines (content.toList.splitOn '\n') []).map String.ofList

structure PolicyMessage extends Config.Policy where
 customRules : List String := []

section
variable (lib : BuilderLibrary) (objs : ClusterObjects)

def ruleTexts (p : ProxyPolicy) : List String :=
 match p.waf.bind WAFConfig.rulesConfigMap with
 | none => []
 | some name =>
  if p.ns = "" then []
  else match objs.configMaps.find? (objectKey p.ns name) with
   | none => []
   | some data => data.values

def policyMessage (p : ProxyPolicy) (texts : List String) : PolicyMessage where
 toPolicy := buildPolicy lib.toGoLibrary objs.toBuildContext p
 customRules := ((p.waf.map WAFConfig.customRules).getD []) ++ texts.flatMap parseConfigMapRules

def IsPolicyMessage (p : ProxyPolicy) (msg : PolicyMessage) : Prop :=
 ∃ texts : List String, texts.Perm (ruleTexts objs p) ∧ msg = policyMessage lib objs p texts

/-- A mesh service with the labels of its endpoints, which the agent's table does not read. -/
structure ServiceMessage where
 (name ns clusterIp : String := "")
 ports : List Mesh.ServicePort := []
 endpoints : List LabelledEndpoint := []
 lbPolicy : Config.LoadBalancingPolicy := .roundRobin
 meshEnabled : Bool := true
 mtlsMode : String := "permissive"

def meshEndpointLabels (es : Mesh.EndpointSlice) (ep : Mesh.SliceEndpoint) : Labels := fun label =>
 if label = "kubernetes.io/namespace" then some es.ns
 else if label = "kubernetes.io/name" then ep.targetName.filter (· ≠ "")
 else if label = "topology.kubernetes.io/node" then ep.nodeName.filter (· ≠ "")
 else none

def meshSliceEndpoints (es : Mesh.EndpointSlice) : List LabelledEndpoint :=
 es.endpoints.flatMap fun ep => (es.ports.filterMap Mesh.EndpointPort.port).flatMap fun port =>
   ep.addresses.map fun addr =>
    { address := addr, port := port, ready := ep.isReady, labels := meshEndpointLabels es ep }

/-- The number of a port, as the conversion to 32 bits leaves it. -/
def BuilderLibrary.atoi32 (text : String) : Option Int32 := (lib.atoi text).map Int32.ofInt

def serviceMessage (svc : Mesh.K8sService) : ServiceMessage where
 name := svc.name
 ns := svc.ns
 clusterIp := svc.clusterIP
 ports := svc.ports.map fun sp => ⟨sp.name,sp.port,sp.targetPort.intValue lib.atoi32,sp.protocol⟩
 endpoints := (objs.getEndpointSlices svc.ns svc.name).flatMap meshSliceEndpoints
 mtlsMode := (svc.annotations.find? "novaedge.io/mesh-mtls").getD "permissive"

def serviceMessages : List ServiceMessage :=
 (objs.services.filter Mesh.K8sService.inMesh).map (serviceMessage lib objs)

def ServiceMessage.key (m : ServiceMessage) : String ×ₗ String := toLex (m.ns,m.name)

def convertMeshAuthzRules (rules : List MeshAuthorizationRule) : List Mesh.MeshAuthorizationRule :=
 rules.map fun r =>
  { sources := r.sources.map fun s => ⟨s.namespaces,s.serviceAccounts,s.spiffeIDs⟩
    destinations := r.destinations.map fun d => ⟨d.methods,d.paths⟩ }

/-- The namespace of the target is taken as it is, also if it is empty. -/
def buildMeshAuthorizationPolicy (p : ProxyPolicy) : Option Mesh.MeshAuthorizationPolicy :=
 if p.type = .meshAuthorization then
  p.meshAuthorization.map fun config =>
   { name := p.name, targetService := p.targetRef.name
     targetNamespace := p.targetRef.ns.getD p.ns
     action := config.action, rules := convertMeshAuthzRules config.rules }
 else none

structure LinkSLA where
 (maxLatencyMs maxJitterMs : Int64 := 0)
 maxPacketLoss : Float := 0

structure LinkMessage where
 (name ns site iface provider bandwidth : String := "")
 cost : Int32 := 0
 role : String := ""
 sla : Option LinkSLA := none
 tunnelEndpoint : Option WANTunnelEndpoint := none

def buildWANLink (link : ProxyWANLink) : LinkMessage where
 name := link.name
 ns := link.ns
 site := link.site
 iface := link.iface
 provider := link.provider
 bandwidth := link.bandwidth
 cost := link.cost
 role := link.role
 sla := link.sla.map fun sla =>
  { maxLatencyMs := (sla.maxLatency.map Duration.milliseconds).getD 0
    maxJitterMs := (sla.maxJitter.map Duration.milliseconds).getD 0
    maxPacketLoss := sla.maxPacketLoss.getD 0 }
 tunnelEndpoint := link.tunnelEndpoint

structure WANPolicyMessage where
 (name ns : String := "")
 policyMatch : Option WANPolicyMatch := none
 pathSelection : WANPathSelection

def buildWANPolicy (p : ProxyWANPolicy) : WANPolicyMessage where
 name := p.name
 ns := p.ns
 policyMatch := if p.policyMatch.hosts.isEmpty && p.policyMatch.paths.isEmpty &&
  p.policyMatch.headers.pairs.isEmpty then none else some p.policyMatch
 pathSelection := p.pathSelection

/-- The generation time and the federation metadata are left out, and `endpoints` is known by its
lookups. -/
@[ext] structure SnapshotContent where
 gateways : List Config.Gateway
 routes : List Config.Route
 clusters : List Config.Cluster
 endpoints : String → Option (List LabelledEndpoint)
 policies : List PolicyMessage
 l4Listeners : List L4Listener
 internalServices : List ServiceMessage
 meshAuthzPolicies : List Mesh.MeshAuthorizationPolicy
 wanLinks : List LinkMessage
 wanPolicies : List WANPolicyMessage

/-- The parts of the content that the builder sorts as it lists them. -/
structure IsSortedContent (c : SnapshotContent) : Prop where
 gateways : IsGatewaysOf objs.toGatewayContext c.gateways
 routes : SortedByName Config.Route.name (buildRoutes lib.toGoLibrary objs.toBuildContext) c.routes
 clusters : SortedByName Config.Cluster.name (buildClusters lib objs) c.clusters
 endpoints : ∀ key, Option.Rel (SortedByName (·.address)) (buildEndpoints lib objs key)
  (c.endpoints key)
 policies : ∃ built, List.Forall₂ (IsPolicyMessage lib objs) objs.policies built ∧
  SortedByName (·.name) built c.policies
 meshAuthzPolicies : SortedByName Mesh.MeshAuthorizationPolicy.name
  (objs.policies.filterMap buildMeshAuthorizationPolicy) c.meshAuthzPolicies
 wanLinks : SortedByName LinkMessage.name (objs.wanLinks.map buildWANLink) c.wanLinks
 wanPolicies : SortedByName WANPolicyMessage.name (objs.wanPolicies.map buildWANPolicy)
  c.wanPolicies

/-- L4 listeners share the lists of `endpoints`, which are sorted in place. -/
structure IsContent (c : SnapshotContent) : Prop extends IsSortedContent lib objs c where
 l4Listeners : ∃ gateways, buildGateways objs.toGatewayContext = some gateways ∧
  SortedByName L4Listener.name (buildL4Listeners gateways c.endpoints objs.routes) c.l4Listeners
 internalServices : SortOrder.SortedBy ServiceMessage.key (serviceMessages lib objs)
  c.internalServices

def credentialTexts (bc : BuildContext) (p : ProxyPolicy) : List Bytes :=
 let htpasswd := p.basicAuth.bind fun spec => loadSecretBytes bc p.ns spec.secretRef "htpasswd"
 let clientSecret := p.oidc.bind fun spec =>
  (loadSecretBytes bc p.ns spec.sessionSecretRef "session-secret").bind fun _ =>
   loadSecretBytes bc p.ns spec.clientSecretRef "client-secret"
 htpasswd.toList ++ clientSecret.toList

def ValidUtf8 (bytes : Bytes) : Prop := ByteArray.IsValidUTF8 ⟨bytes.toArray⟩

/-- Texts from secrets need not be UTF-8; the API server sees to the others. -/
def Marshals : Prop :=
 ∀ p ∈ objs.policies, ∀ text ∈ credentialTexts objs.toBuildContext p, ValidUtf8 text

@[ext] structure BuiltSnapshot where
 version : String
 content : SnapshotContent

/-- The version is a hash, or the time if the snapshot does not marshal. -/
def IsBuild (hash : SnapshotContent → String) (now : ℤ) (s : BuiltSnapshot) : Prop :=
 IsContent lib objs s.content ∧ (Marshals objs → s.version = hash s.content) ∧
  (¬ Marshals objs → s.version = "err-" ++ toString now)

end

end NovaEdge.Snapshot
