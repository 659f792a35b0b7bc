import NovaEdge.ListenerManager

/-! The TLS listeners of the gateways: whether their ports are served with TLS, and which
certificate a handshake presents. -/
namespace NovaEdge.Dataplane
open List Snapshot

open Config (Bytes)

def TlsState.presents (tls : TlsState) (_serverName : String) : Bytes := tls.certPem

def wildcardOf (serverName : String) : Option String :=
 (splitOnce '.' serverName.toList).map fun p => "*." ++ String.ofList p.2

def defaultTls (bc : BuildContext) (ns : String) (lis : V1alpha1.Listener) :
  Option Config.TLSConfig :=
 lis.tls.bind fun tls => (loadTLSConfig bc ns tls).loaded?

def certificateFor (bc : BuildContext) (ns : String) (lis : V1alpha1.Listener)
  (serverName : String) : Option Bytes :=
 let certs := loadCertificates bc ns lis.tlsCertificates
 ((certs.find? serverName).or
  (((wildcardOf serverName).bind certs.find?).or (defaultTls bc ns lis))).map (·.cert)

/-- Not plaintext for a listener of protocol HTTPS or TLS, and the right certificate for HTTPS. -/
structure ServesAsConfigured (bc : BuildContext) (ns : String) (lis : V1alpha1.Listener)
  (service : Service) : Prop where
 not_plaintext : lis.protocol = .https ∨ lis.protocol = .tls → service ≠ .http none
 certificate : lis.protocol = .https → ∀ tls, service = .http (some tls) → ∀ serverName,
  certificateFor bc ns lis serverName = some (tls.presents serverName)

def DistinctPorts (bc : GatewayContext) : Prop :=
 (bc.gateways.flatMap fun gw => gw.listeners.map (·.port)).Nodup

section
variable (lib : ListenerLibrary) (s : EdgeState) (bc : GatewayContext)
 (gateways : List Config.Gateway)

/-- Once a snapshot with the gateways is applied, every port of a listener is served as the
listener is configured. -/
def ServesPorts (text : TextLibrary) (render : JsonValue → String) : Prop :=
 ∀ snapshot : Config.ConfigSnapshot, snapshot.gateways = gateways →
 ∀ t, HasReconciled lib text render s snapshot t →
 ∀ name port service, t.listeners.find? name = some ⟨port,some service⟩ →
 ∀ gw ∈ bc.gateways, ∀ lis ∈ gw.listeners, lis.port.toUInt32 = port →
  ServesAsConfigured bc.toBuildContext gw.ns lis service

def Starts (gw : V1alpha1.ProxyGateway) (lis : V1alpha1.Listener) : Prop :=
 configured gateways (gw.name ++ "/" ++ lis.name) = some (listenerState bc.toBuildContext gw lis) ∧
  Vacant s.listeners (gw.name ++ "/" ++ lis.name) lis.port.toUInt32

/-- No listener of protocol TLS is started, and those of HTTPS have one certificate each. -/
structure TlsPortsReady : Prop where
 kept : ∀ gw ∈ bc.gateways, ∀ lis ∈ gw.listeners, ∀ name service,
  Kept s gateways name ⟨lis.port.toUInt32,some service⟩ →
   ServesAsConfigured bc.toBuildContext gw.ns lis service
 tls : ∀ gw ∈ bc.gateways, ∀ lis ∈ gw.listeners, lis.protocol = .tls → ¬ Starts s bc gateways gw lis
 https : ∀ gw ∈ bc.gateways, ∀ lis ∈ gw.listeners, lis.protocol = .https →
  Starts s bc gateways gw lis → ∀ d, defaultTls bc.toBuildContext gw.ns lis = some d →
   lib.buildsTls ⟨d.cert,d.key,none⟩ = true → ∀ host c,
    (loadCertificates bc.toBuildContext gw.ns lis.tlsCertificates).find? host = some c →
     c.cert = d.cert

end

lemma DistinctPorts.eq_of_port {bc : GatewayContext} (h : DistinctPorts bc)
  {gw gw' : V1alpha1.ProxyGateway} {lis lis' : V1alpha1.Listener} (hg : gw ∈ bc.gateways)
  (hl : lis ∈ gw.listeners) (hg' : gw' ∈ bc.gateways) (hl' : lis' ∈ gw'.listeners)
  (hp : lis.port.toUInt32 = lis'.port.toUInt32) : gw = gw' ∧ lis = lis' := by
 let pairs := bc.gateways.flatMap fun gw => gw.listeners.map fun lis => (gw,lis)
 have hn : (pairs.map fun p => p.2.port).Nodup := by
  simpa [pairs,DistinctPorts,map_flatMap,Function.comp_def] using h
 have hm : ∀ {gw lis}, gw ∈ bc.gateways → lis ∈ gw.listeners → (gw,lis) ∈ pairs :=
  fun hg hl => mem_flatMap.mpr ⟨_,hg,mem_map_of_mem hl⟩
 have ha : lis.port = lis'.port := by simpa using congrArg UInt32.toInt32 hp
 exact Prod.mk.inj (inj_on_of_nodup_map hn (hm hg hl) (hm hg' hl') ha)

lemma certificateFor_of_same {bc : BuildContext} {ns : String} {lis : V1alpha1.Listener}
  {d : Config.TLSConfig} (hde : defaultTls bc ns lis = some d)
  (ha : ∀ ho c, (loadCertificates bc ns lis.tlsCertificates).find? ho = some c →
   c.cert = d.cert) (sn : String) : certificateFor bc ns lis sn = some d.cert := by
 unfold certificateFor
 cases hx : (loadCertificates bc ns lis.tlsCertificates).find? sn with
 | some c => simpa [hx] using ha _ _ hx
 | none =>
  cases hw : (wildcardOf sn).bind (loadCertificates bc ns lis.tlsCertificates).find? with
  | some c =>
   obtain ⟨pattern,-,hf⟩ := bind_eq_some_iff.mp hw
   simpa [hx,hw] using ha _ _ hf
  | none => simp [hx,hw,hde]

section
variable {lib : ListenerLibrary} {bc : BuildContext} {gw : V1alpha1.ProxyGateway}
 {lis : V1alpha1.Listener} {name : String}

/-- A listener of protocol TLS reaches the dataplane without a protocol, which stands for HTTP. -/
lemma serviceOf_tls (h : lis.protocol = .tls) :
  serviceOf lib name (listenerState bc gw lis) = some (.http none) := by
 have hp : (listenerState bc gw lis).protocol = "HTTP" := by
  rw [listenerState,h]
  rfl
 simp [serviceOf,hp]

lemma serviceOf_https (h : lis.protocol = .https) {svc : Service} :
  serviceOf lib name (listenerState bc gw lis) = some svc ↔
   ∃ d, defaultTls bc gw.ns lis = some d ∧ lib.buildsTls ⟨d.cert,d.key,none⟩ = true ∧
    svc = .http (some ⟨d.cert,d.key,none⟩) := by
 have hp : (listenerState bc gw lis).protocol = "HTTPS" := by
  rw [listenerState,h]
  rfl
 have ht : (listenerState bc gw lis).tls =
   (defaultTls bc gw.ns lis).map fun d => ⟨d.cert,d.key,none⟩ := rfl
 have hn : ("HTTPS" : String) ≠ "HTTP" := by decide
 rw [serviceOf,hp,if_neg hn,if_pos rfl,ht]
 constructor
 · intro hse
   obtain ⟨tls,hf,rfl⟩ := map_eq_some_iff.mp hse
   obtain ⟨hm,hb⟩ := filter_eq_some_iff.mp hf
   obtain ⟨d,hd,rfl⟩ := map_eq_some_iff.mp hm
   exact ⟨d,hd,hb,rfl⟩
 · rintro ⟨d,hd,hb,rfl⟩
   simp [hd,hb]

end

section
variable {lib : ListenerLibrary} {text : TextLibrary} {rd : JsonValue → String} {s : EdgeState}
 {bc : GatewayContext} {gws : List Config.Gateway}

lemma ServesPorts.of_mayRun (hse : ServesPorts lib s bc gws text rd)
  (hg : IsGatewaysOf bc gws) {gw : V1alpha1.ProxyGateway}
  (hw : gw ∈ bc.gateways) {lis : V1alpha1.Listener} (hl : lis ∈ gw.listeners) {name : String}
  {svc : Service} (hm : MayRun lib s gws name lis.port.toUInt32 svc) :
  ServesAsConfigured bc.toBuildContext gw.ns lis svc := by
 let snapshot : Config.ConfigSnapshot := { gateways := gws }
 obtain ⟨u,ha⟩ := exists_apply lib text rd s snapshot 0
 obtain ⟨t,ht,-,hr⟩ := exists_hasReconciled ha (bind_of_isGatewaysOf hg) hm
 exact hse snapshot rfl t ht name _ svc hr gw hw lis hl rfl

lemma TlsPortsReady.of_started (hr : TlsPortsReady lib s bc gws)
  {gw : V1alpha1.ProxyGateway} (hg : gw ∈ bc.gateways) {lis : V1alpha1.Listener}
  (hl : lis ∈ gw.listeners) (hst : Starts s bc gws gw lis) {name : String} {svc : Service}
  (hse : serviceOf lib name (listenerState bc.toBuildContext gw lis) = some svc) :
  ServesAsConfigured bc.toBuildContext gw.ns lis svc := by
 constructor
 · rintro (hh | ht)
   · obtain ⟨d,-,-,rfl⟩ := (serviceOf_https hh).mp hse
     simp
   · exact absurd hst (hr.tls gw hg lis hl ht)
 · rintro hh tls rfl serverName
   obtain ⟨d,hd,hb,hq⟩ := (serviceOf_https hh).mp hse
   cases hq
   exact certificateFor_of_same hd (hr.https gw hg lis hl hh hst d hd hb) _

end

/-- The TLS ports of gateways are served as configured exactly if the dataplane is ready for
them. -/
theorem tls_ports_served_iff (lib : ListenerLibrary) (text : TextLibrary)
  (render : JsonValue → String) (s : EdgeState) {bc : GatewayContext}
  {gateways : List Config.Gateway} (hgateways : IsGatewaysOf bc gateways)
  (hports : DistinctPorts bc) :
  ServesPorts lib s bc gateways text render ↔ TlsPortsReady lib s bc gateways := by
 constructor
 · intro hse
   constructor
   · intro gw hw lis hl name service hk
     exact hse.of_mayRun hgateways hw hl (.kept hk)
   · intro gw hw lis hl htl hst
     have hsee := hse.of_mayRun hgateways hw hl (.started hst.1 hst.2 rfl (serviceOf_tls htl))
     exact hsee.not_plaintext (.inr htl) rfl
   · intro gw hw lis hl hh hst d hd hb host c hc
     have hsee := hse.of_mayRun hgateways hw hl
      (.started hst.1 hst.2 rfl ((serviceOf_https hh).mpr ⟨d,hd,hb,rfl⟩))
     have hp := hsee.certificate hh _ rfl host
     simpa [certificateFor,hc,TlsState.presents] using hp
 · rintro hre snapshot rfl t ht name port service hr gw hw lis hl rfl
   have hbi := bind_of_isGatewaysOf hgateways
   cases ht.mayRun (fun name g hg => (hbi name g hg).2.1) hr with
   | kept hk => exact hre.kept gw hw lis hl name service hk
   | @started g ho hv hpr hsr =>
    -- The ports are distinct, so the gateway that starts on the port is that of the listener.
    obtain ⟨hn,gw',hg',lis',hl',rfl⟩ := exists_listenerState hgateways ho
    obtain ⟨rfl,rfl⟩ := hports.eq_of_port hw hl hg' hl' hpr
    obtain rfl : gw.name ++ "/" ++ lis.name = name := hn
    exact hre.of_started hw hl ⟨ho,hv⟩ hsr

def certSecret (cert : Bytes) : KeyedMap String Bytes :=
 ((∅ : KeyedMap String Bytes).set "tls.crt" cert).set "tls.key" [0]

def secretTls (name : String) : V1alpha1.TLSConfig := { secretRef := some { name := name } }

def singleCertGateways : GatewayContext where
 gateways := [{ name := "edge", ns := "shop"
                listeners := [{ name := "web", port := 443, protocol := .https
                                port_valid := V1alpha1.httpsPort_valid
                                tls := some (secretTls "web-cert") }] }]
 secrets := (∅ : KeyedMap String (KeyedMap String Bytes)).set "shop/web-cert" (certSecret [1])

theorem single_certificate_served : IsGatewaysOf singleCertGateways
        ((buildGateways singleCertGateways).getD []) ∧ DistinctPorts singleCertGateways ∧
      ServesPorts anyLibrary {} singleCertGateways
       ((buildGateways singleCertGateways).getD []) noRegex fun _ => "" := by
 have hb : IsGatewaysOf singleCertGateways
   ((buildGateways singleCertGateways).getD []) :=
  ⟨_,rfl,List.Perm.refl _,pairwise_singleton _ _⟩
 have hp : DistinctPorts singleCertGateways := nodup_singleton _
 refine ⟨hb,hp,(tls_ports_served_iff _ _ _ _ hb hp).mpr ?_⟩
 constructor
 · rintro gw _ lis _ name svc ⟨hf,-⟩
   cases hf
 · intro gw hg lis hl ht
   obtain rfl := mem_singleton.mp hg
   obtain rfl := mem_singleton.mp hl
   cases ht
 · intro gw hg lis hl _ _ d _ _ ho c hc
   obtain rfl := mem_singleton.mp hg
   obtain rfl := mem_singleton.mp hl
   cases hc

/-- One listener of protocol TLS, and one of HTTPS with a certificate of its own for a name. -/
def secureGateways : GatewayContext where
 gateways := [{ name := "edge", ns := "shop"
                listeners := [{ name := "secure", port := 8443, protocol := .tls
                                tls := some (secretTls "web-cert") },
                              { name := "web", port := 443, protocol := .https
                                port_valid := V1alpha1.httpsPort_valid
                                tls := some (secretTls "web-cert")
                                tlsCertificates := (∅ : KeyedMap String V1alpha1.TLSConfig).set
                                 "api.example.com" (secretTls "api-cert") }] }]
 secrets := ((∅ : KeyedMap String (KeyedMap String Bytes)).set "shop/web-cert"
  (certSecret [1])).set "shop/api-cert" (certSecret [2])

def secureEdge : EdgeState :=
 let config := ({} : RuntimeConfig).applyConfig (fun _ => "") 0 (Translator.translateSnapshot
  { gateways := (buildGateways secureGateways).getD [] })
 { routing := ⟨config,({} : Router).setRoutes (config.routes.values.map (compileRoute noRegex))⟩
   listeners := reconcileListeners anyLibrary openHost config.gateways.pairs ∅ }

/-- The first is plaintext HTTP, the second presents its default certificate. -/
theorem tls_port_served_in_the_clear :
  IsGatewaysOf secureGateways ((buildGateways secureGateways).getD []) ∧
   DistinctPorts secureGateways ∧
   HasReconciled anyLibrary noRegex (fun _ => "") {}
    { gateways := (buildGateways secureGateways).getD [] } secureEdge ∧
   secureEdge.listeners.find? "edge/secure" = some ⟨8443,some (.http none)⟩ ∧
   ∃ tls, secureEdge.listeners.find? "edge/web" = some ⟨443,some (.http (some tls))⟩ ∧
    tls.presents "api.example.com" = [1] ∧
    ∃ gw ∈ secureGateways.gateways, ∃ lis ∈ gw.listeners, lis.port = 443 ∧
     certificateFor secureGateways.toBuildContext gw.ns lis "api.example.com" = some [2] := by
 refine ⟨⟨_,rfl,List.Perm.refl _,pairwise_singleton _ _⟩,by unfold DistinctPorts; decide,
  ?_,rfl,_,rfl,rfl,_,mem_cons_self,_,mem_cons_of_mem _ mem_cons_self,rfl,
  rfl⟩
 exact ⟨0,⟨secureEdge.routing,∅⟩,openHost,_,⟨⟨rfl,_,List.Perm.refl _,rfl⟩,rfl⟩,
  List.Perm.refl _,rfl⟩

end NovaEdge.Dataplane
