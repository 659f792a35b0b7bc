import NovaEdge.SnapshotBuilder

/-! The controller's snapshot builder, for gateways. -/
namespace NovaEdge.Snapshot
open V1alpha1
open Config (Gateway)

structure GatewayContext extends BuildContext where
 gateways : List ProxyGateway := []

inductive LoadError
 | secretNotFound
 | crtNotFound
 | keyNotFound

/-- A reference that is not set is dereferenced all the same. -/
inductive LoadResult
 | panic
 | error (e : LoadError)
 | ok (tls : Config.TLSConfig)

def LoadResult.panics : LoadResult → Bool
 | .panic => true
 | _ => false

def LoadResult.loaded? : LoadResult → Option Config.TLSConfig
 | .ok tls => some tls
 | _ => none

@[simp] lemma LoadResult.loaded?_eq_some {r : LoadResult} {tls : Config.TLSConfig} :
  r.loaded? = some tls ↔ r = .ok tls := by
 cases r <;> simp [LoadResult.loaded?]

def loadTLSConfig (bc : BuildContext) (defaultNs : String) (tls : TLSConfig) : LoadResult :=
 match tls.secretRef with
 | none => .panic
 | some ref =>
  match bc.getSecret (if ref.ns = "" then defaultNs else ref.ns) ref.name with
  | none => .error .secretNotFound
  | some data => match data.find? "tls.crt" with
   | none => .error .crtNotFound
   | some cert => match data.find? "tls.key" with
    | none => .error .keyNotFound
    | some key => .ok { cert := cert, key := key, minVersion := tls.minVersion }

def convertProtocol : ProtocolType → Config.Protocol
 | .http => .http
 | .https => .https
 | .http3 => .http3
 | .tcp => .tcp
 | .tls => .tls
 | .udp => .udp
 | .other _ => .unspecified

section
variable (bc : BuildContext) (ns : String)

def loadCertificates (certs : KeyedMap String TLSConfig) : KeyedMap String Config.TLSConfig :=
 certs.pairs.foldl (fun acc p => match (loadTLSConfig bc ns p.2).loaded? with
  | some tls => acc.set p.1 tls
  | none => acc) ∅

def convertListener (lis : Listener) (tls : Option Config.TLSConfig) : Config.Listener where
 name := lis.name
 port := lis.port
 protocol := convertProtocol lis.protocol
 tls := tls
 hostnames := lis.hostnames
 tlsCertificates := loadCertificates bc ns lis.tlsCertificates
 sslRedirect := lis.sslRedirect
 allowedSourceRanges := lis.allowedSourceRanges

def buildListener (lis : Listener) : Option Config.Listener :=
 match lis.tls with
 | none => some (convertListener bc ns lis none)
 | some tls => (loadTLSConfig bc ns tls).loaded?.map fun c => convertListener bc ns lis (some c)

/-- The certificates are loaded only for a listener that is not skipped. -/
def listenerPanics (lis : Listener) : Bool :=
 lis.tls.any (fun tls => (loadTLSConfig bc ns tls).panics) || ((buildListener bc ns lis).isSome &&
   lis.tlsCertificates.values.any fun tls => (loadTLSConfig bc ns tls).panics)

end

def buildGateway (bc : BuildContext) (gw : ProxyGateway) : Gateway where
 name := gw.name
 ns := gw.ns
 listeners := gw.listeners.filterMap (buildListener bc gw.ns)

def buildGateways (bc : GatewayContext) : Option (List Gateway) :=
 if bc.gateways.any fun gw => gw.listeners.any (listenerPanics bc.toBuildContext gw.ns) then none
 else some (bc.gateways.map (buildGateway bc.toBuildContext))

lemma buildGateways_eq_none_iff {bc : GatewayContext} : buildGateways bc = none ↔
  ∃ gw ∈ bc.gateways, ∃ lis ∈ gw.listeners, listenerPanics bc.toBuildContext gw.ns lis = true := by
 simp [buildGateways]

lemma eq_of_buildGateways {bc : GatewayContext} {gws : List Gateway}
  (h : buildGateways bc = some gws) : bc.gateways.map (buildGateway bc.toBuildContext) = gws := by
 unfold buildGateways at h
 split_ifs at h
 exact Option.some.inj h

def IsGatewaysOf (bc : GatewayContext) (gateways : List Gateway) : Prop :=
 ∃ built, buildGateways bc = some built ∧ SortedByName Gateway.name built gateways

lemma IsGatewaysOf.exists_listener {bc : GatewayContext} {gws : List Gateway}
  (h : IsGatewaysOf bc gws) {gw : Gateway} (hg : gw ∈ gws)
  {lis : Config.Listener} (hli : lis ∈ gw.listeners) :
  ∃ src ∈ bc.gateways, ∃ l ∈ src.listeners, gw = buildGateway bc.toBuildContext src ∧
   buildListener bc.toBuildContext src.ns l = some lis := by
 obtain ⟨built,hb,hp,-⟩ := h
 obtain rfl := eq_of_buildGateways hb
 obtain ⟨src,hr,rfl⟩ := List.mem_map.mp (hp.mem_iff.mp hg)
 obtain ⟨l,hl,hbi⟩ := List.mem_filterMap.mp hli
 exact ⟨src,hr,l,hl,rfl,hbi⟩

lemma buildListener_eq_some {bc : BuildContext} {ns : String} {l : Listener} {lis : Config.Listener}
  (h : buildListener bc ns l = some lis) :
  lis = convertListener bc ns l (l.tls.bind fun tls => (loadTLSConfig bc ns tls).loaded?) := by
 unfold buildListener at h
 split at h
 · rename_i ht
   rw [← Option.some.inj h,ht]
   rfl
 · rename_i tls ht
   obtain ⟨c,hc,rfl⟩ := map_eq_some_iff.mp h
   rw [ht,Option.bind_some,hc]

end NovaEdge.Snapshot
