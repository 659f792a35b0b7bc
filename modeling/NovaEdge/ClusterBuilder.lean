import NovaEdge.GatewayBuilder
import NovaEdge.MeshServices

/-! The controller's snapshot builder, for clusters and their endpoints. -/
namespace NovaEdge.Snapshot
open V1alpha1 List

/-- A map of texts, of which only the lookups can be told. -/
abbrev Labels := String → Option String

structure LabelledEndpoint extends Config.Endpoint where
 labels : Labels := fun _ => none

structure ServiceEndpoints where
 (clusterName region zone : String := "")
 endpoints : List LabelledEndpoint := []

def objectKey (ns name : String) : String := ns ++ "/" ++ name

/-- Listed in this order; neither namespaces nor names have a slash, so that keys are distinct. -/
structure ClusterObjects extends GatewayContext, Mesh.MeshObjects where
 backends : List ProxyBackend := []
 wanLinks : List ProxyWANLink := []
 wanPolicies : List ProxyWANPolicy := []
 (nodes configMaps : KeyedMap String (KeyedMap String String) := ∅)
 remoteEndpoints : String → String → List ServiceEndpoints := fun _ _ => []
 gateways_nodup : (gateways.map fun o => objectKey o.ns o.name).Nodup
 routes_nodup : (routes.map fun o => objectKey o.ns o.name).Nodup
 backends_nodup : (backends.map fun o => objectKey o.ns o.name).Nodup
 policies_nodup : (policies.map fun o => objectKey o.ns o.name).Nodup
 service_keys_nodup : (services.map fun o => objectKey o.ns o.name).Nodup
 wanLinks_nodup : (wanLinks.map fun o => objectKey o.ns o.name).Nodup
 wanPolicies_nodup : (wanPolicies.map fun o => objectKey o.ns o.name).Nodup

structure BuilderLibrary extends GoLibrary where
 parseFloat : String → Option Float
 atoi : String → Option ℤ

def convertLBPolicy : LoadBalancingPolicy → Config.LoadBalancingPolicy
 | .roundRobin => .roundRobin
 | .p2c => .p2c
 | .ewma => .ewma
 | .ringHash => .ringHash
 | .maglev => .maglev
 | .leastConn => .leastConn
 | .sourceHash => .sourceHash
 | .sticky => .sticky
 | .other _ => .unspecified

def convertCircuitBreaker (cb : CircuitBreaker) : Config.CircuitBreaker where
 maxConnections := getInt32 cb.maxConnections
 maxPendingRequests := getInt32 cb.maxPendingRequests
 maxRequests := getInt32 cb.maxRequests
 maxRetries := getInt32 cb.maxRetries

def convertHealthCheck (hc : HealthCheck) : Config.HealthCheck where
 intervalMs := hc.interval.milliseconds
 timeoutMs := hc.timeout.milliseconds
 healthyThreshold := getInt32 hc.healthyThreshold
 unhealthyThreshold := getInt32 hc.unhealthyThreshold
 httpPath := getString hc.httpPath

def parseFloatOr (lib : BuilderLibrary) (default : Float) (text : String) : Float :=
 if text = "" then default else (lib.parseFloat text).getD default

def convertOutlierDetection (lib : BuilderLibrary) (od : OutlierDetectionConfig) :
  Config.OutlierDetection where
 intervalMs := od.interval.milliseconds
 consecutive5xxThreshold := getInt32 od.consecutive5xxThreshold
 baseEjectionDurationMs := od.baseEjectionDuration.milliseconds
 maxEjectionPercent := getInt32 od.maxEjectionPercent
 successRateMinHosts := getInt32 od.successRateMinHosts
 successRateMinRequests := getInt32 od.successRateMinRequests
 successRateStdevFactor := parseFloatOr lib 1.9 od.successRateStdevFactor

def convertSlowStart (lib : BuilderLibrary) (ss : SlowStartConfig) : Config.SlowStart where
 windowMs := ss.window.milliseconds
 aggression := parseFloatOr lib 1.0 ss.aggression

def convertSessionAffinity (sa : SessionAffinityConfig) : Config.SessionAffinityConfig where
 type := match sa.type with
  | .cookie => "cookie"
  | .header => "header"
  | .sourceIP => "source_ip"
  | .other _ => "cookie"
 cookieName := if sa.cookieName = "" then "NOVAEDGE_AFFINITY" else sa.cookieName
 cookieTtlSeconds := sa.cookieTTL.seconds.toInt64
 cookiePath := if sa.cookiePath = "" then "/" else sa.cookiePath
 cookieSecure := sa.secure
 cookieSameSite := sa.sameSite
 headerName := sa.headerName

/-- The CA certificate is the first of the usual keys that the secret has. -/
def convertBackendTLS (bc : BuildContext) (ns : String) (tls : BackendTLSConfig) :
  Config.BackendTLS where
 enabled := tls.enabled
 insecureSkipVerify := tls.insecureSkipVerify
 caCert := match tls.caCertSecretRef with
  | none => []
  | some secretName =>
   if secretName = "" then []
   else match bc.getSecret ns secretName with
    | none => []
    | some data => (["ca.crt","tls.crt","ca-bundle.crt"].findSome? data.find?).getD []

def buildCluster (lib : BuilderLibrary) (bc : BuildContext) (b : ProxyBackend) :
  Config.Cluster where
 name := b.name
 ns := b.ns
 lbPolicy := convertLBPolicy b.lbPolicy
 connectTimeoutMs := b.connectTimeout.milliseconds
 circuitBreaker := b.circuitBreaker.map convertCircuitBreaker
 healthCheck := b.healthCheck.map convertHealthCheck
 outlierDetection := b.outlierDetection.map (convertOutlierDetection lib)
 slowStart := b.slowStart.map (convertSlowStart lib)
 tls := b.tls.map (convertBackendTLS bc b.ns)
 sessionAffinity := b.sessionAffinity.map convertSessionAffinity
 connectionPool := b.connectionPool.map fun p =>
  ⟨getInt32 p.maxIdleConnsPerHost,getInt32 p.maxConnsPerHost,p.idleConnTimeout.milliseconds⟩
 upstreamProxyProtocol := b.upstreamProxyProtocol.map fun p => ⟨p.enabled,p.version⟩
 protocol := b.protocol

def buildClusters (lib : BuilderLibrary) (objs : ClusterObjects) : List Config.Cluster :=
 objs.backends.map (buildCluster lib objs.toBuildContext)

def topologyZoneLabel : String := "topology.kubernetes.io/zone"

def topologyRegionLabel : String := "topology.kubernetes.io/region"

def federationClusterLabel : String := "novaedge.io/cluster"

def federationRegionLabel : String := "novaedge.io/region"

def federationZoneLabel : String := "novaedge.io/zone"

def federationRemoteLabel : String := "novaedge.io/remote"

/-- By port name, target port or service port number; a single port needs no match. 0: no match. -/
def matchEndpointSlicePort (esPorts : List Mesh.EndpointPort) (targetPortName : String)
  (targetPortNumber servicePort : Int32) : Int32 :=
 let found := esPorts.findSome? fun p => p.port.bind fun port =>
  if targetPortName ≠ "" ∧ p.name = some targetPortName ∨
   0 < targetPortNumber ∧ port = targetPortNumber ∨
   targetPortName = "" ∧ targetPortNumber = 0 ∧ port = servicePort then some port
  else none
 match found with
 | some port => port
 | none => match esPorts with
  | [p] => p.port.getD 0
  | _ => 0

def resolveEndpointTopologyLabels (nodes : KeyedMap String (KeyedMap String String))
  (ep : Mesh.SliceEndpoint) : Labels :=
 let node := (ep.nodeName.filter (· ≠ "")).bind nodes.find?
 let zone := (ep.zone.filter (· ≠ "")).or (ep.hintZones.find? (· ≠ ""))
 fun label =>
  if label = topologyZoneLabel then zone.or (node.bind fun n => n.find? topologyZoneLabel)
  else if label = topologyRegionLabel then node.bind fun n => n.find? topologyRegionLabel
  else none

def Labels.setUnlessEmpty (labels : Labels) (label value : String) : Labels :=
 if value = "" then labels else Function.update labels label (some value)

def mergeRemoteEndpointLabels (existing : Labels) (remote : ServiceEndpoints) : Labels :=
 let labels : Labels := Function.update existing federationRemoteLabel (some "true")
 let labels := labels.setUnlessEmpty federationClusterLabel remote.clusterName
 let labels := labels.setUnlessEmpty federationRegionLabel remote.region
 labels.setUnlessEmpty federationZoneLabel remote.zone

section
variable (lib : BuilderLibrary) (objs : ClusterObjects)

def ClusterObjects.getService (ns name : String) : Option Mesh.K8sService :=
 objs.services.reverse.find? fun svc => objectKey svc.ns svc.name = objectKey ns name

def targetPortOf (svc : Mesh.K8sService) (servicePort : Int32) : String × Int32 :=
 match svc.ports.find? fun sp => sp.port = servicePort with
 | none => ("",0)
 | some sp =>
  let value := match sp.targetPort with
   | .int value => value.toInt
   | .str text => (lib.atoi text).getD 0
  (sp.name,if 0 < value ∧ value ≤ 2147483647 then Int32.ofInt value else 0)

def sliceEndpoints (target : String × Int32) (servicePort : Int32) (es : Mesh.EndpointSlice) :
  List LabelledEndpoint :=
 let port := matchEndpointSlicePort es.ports target.1 target.2 servicePort
 if port = 0 then []
 else es.endpoints.flatMap fun ep => ep.addresses.map fun addr =>
  { address := addr, port := port, ready := ep.isReady
    labels := resolveEndpointTopologyLabels objs.nodes ep }

def resolveServiceEndpoints (ref : ServiceReference) (defaultNs : String) :
  Option (List LabelledEndpoint) :=
 let ns := getNamespace ref.ns defaultNs
 (objs.getService ns ref.name).map fun svc => (objs.getEndpointSlices ns ref.name).flatMap
   (sliceEndpoints objs (targetPortOf lib svc ref.port) ref.port)

def remoteServiceEndpoints (ref : ServiceReference) (defaultNs : String) : List LabelledEndpoint :=
 (objs.remoteEndpoints (getNamespace ref.ns defaultNs) ref.name).flatMap fun remote =>
  remote.endpoints.map fun ep =>
   { address := ep.address, port := ep.port, ready := ep.ready
     labels := mergeRemoteEndpointLabels ep.labels remote }

def backendEndpoints (b : ProxyBackend) : Option (List LabelledEndpoint) :=
 b.serviceRef.bind fun ref => (resolveServiceEndpoints lib objs ref b.ns).map fun resolved =>
  resolved ++ remoteServiceEndpoints objs ref b.ns

def buildEndpoints (key : String) : Option (List LabelledEndpoint) :=
 objs.backends.reverse.findSome? fun b =>
  if objectKey b.ns b.name = key then backendEndpoints lib objs b else none

variable {lib objs}

lemma getService_eq_some_iff {ns name : String} {svc : Mesh.K8sService} :
  objs.getService ns name = some svc ↔
   svc ∈ objs.services ∧ objectKey svc.ns svc.name = objectKey ns name := by
 constructor
 · intro h
   have hk := find?_some h
   exact ⟨mem_reverse.mp (mem_of_find?_eq_some h),by simpa using hk⟩
 · rintro ⟨hm,hk⟩
   refine SortOrder.find?_of_unique (mem_reverse.mpr hm) (by simpa using hk) ?_
   intro oth ho hk'
   refine inj_on_of_nodup_map objs.service_keys_nodup (mem_reverse.mp ho) hm ?_
   simpa [hk] using hk'

lemma buildEndpoints_eq_some_iff {key : String} {eps : List LabelledEndpoint} :
  buildEndpoints lib objs key = some eps ↔ ∃ b ∈ objs.backends, objectKey b.ns b.name = key ∧
    backendEndpoints lib objs b = some eps := by
 have ho : ∀ {eps}, buildEndpoints lib objs key = some eps →
   ∃ b ∈ objs.backends, objectKey b.ns b.name = key ∧
    backendEndpoints lib objs b = some eps := by
  intro eps h
  obtain ⟨b,hb,hf⟩ := exists_of_findSome?_eq_some h
  split_ifs at hf with hk
  exact ⟨b,mem_reverse.mp hb,hk,hf⟩
 refine ⟨ho,?_⟩
 rintro ⟨b,hb,hk,hp⟩
 have hm : (buildEndpoints lib objs key).isSome := by
  refine findSome?_isSome_iff.mpr ⟨b,mem_reverse.mpr hb,?_⟩
  simp [hk,hp]
 obtain ⟨eps',he'⟩ := isSome_iff_exists.mp hm
 obtain ⟨b',hb',hk',hf⟩ := ho he'
 obtain rfl := inj_on_of_nodup_map objs.backends_nodup hb' hb (hk'.trans hk.symm)
 rw [he',← hf,hp]

end

end NovaEdge.Snapshot
