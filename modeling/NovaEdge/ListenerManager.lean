import NovaEdge.GatewayBuilder
import NovaEdge.ProxyHandler
import NovaEdge.RouteSelection
import NovaEdge.Translator

/-! The listener manager of the dataplane: how it reconciles the running listeners with the gateways
of the configuration. A running listener keeps the settings it was started with. -/
namespace NovaEdge.Dataplane
open KeyedMap List Snapshot Translator Config

open Config (Bytes)

/-- What the task of a listener does with its connections. Copies of raw bytes go to the backend
of the named gateway. -/
inductive Service
 | http (acceptor : Option TlsState)
 | http3 (tls : TlsState)
 | l4 (gateway : String)

/-- The task of an HTTP/3 listener may have ended, and then there is no service. -/
structure ListenerHandle where
 port : UInt32
 service : Option Service

/-- Socket addresses and the hosts in them, and whether the TLS library builds a server
configuration from the PEM texts. -/
structure ListenerLibrary where
 parseAddr : String → Option SocketAddr
 parseHost : String → Option String
 parseHost_any : parseHost "0.0.0.0" = some "0.0.0.0"
 (buildsTls buildsQuic : TlsState → Bool)

structure Host where
 (bindsTcp bindsUdp : SocketAddr → Bool)
 freePort : SocketAddr → UInt16

def Host.localPort (host : Host) (addr : SocketAddr) (port : UInt32) : UInt32 :=
 if port = 0 then (host.freePort addr).toUInt32 else port

abbrev Listeners := KeyedMap String ListenerHandle

section
variable (lib : ListenerLibrary) (host : Host)

/-- The port is written after the host, so its text parses if it has 16 bits. -/
def bindAddr (gw : GatewayState) : Option SocketAddr :=
 if gw.port.toNat < 65536 then
  (lib.parseHost (if gw.bindAddress = "" then "::" else gw.bindAddress)).map (·,gw.port.toNat)
 else none

def startHttpListener (addr : SocketAddr) (gw : GatewayState) : Option ListenerHandle :=
 if host.bindsTcp addr = false then none
 else if gw.protocol = "HTTPS" then
  match gw.tls with
  | none => none
  | some tls =>
   if lib.buildsTls tls then some ⟨host.localPort addr gw.port,some (.http (some tls))⟩ else none
 else some ⟨host.localPort addr gw.port,some (.http none)⟩

/-- The server starts inside the task, after the handle is there. -/
def startH3Listener (addr : SocketAddr) (gw : GatewayState) : Option ListenerHandle :=
 gw.tls.map fun tls =>
  ⟨gw.port,if lib.buildsQuic tls && host.bindsUdp addr then some (.http3 tls) else none⟩

def startL4Listener (addr : SocketAddr) (name : String) (gw : GatewayState) :
  Option ListenerHandle :=
 if host.bindsTcp addr then some ⟨host.localPort addr gw.port,some (.l4 name)⟩ else none

def startListener (name : String) (gw : GatewayState) : Option ListenerHandle :=
 (bindAddr lib gw).bind fun addr =>
  if gw.protocol = "HTTP" ∨ gw.protocol = "HTTPS" then startHttpListener lib host addr gw
  else if gw.protocol = "HTTP3" then startH3Listener lib host addr gw
  else if gw.protocol = "TCP" ∨ gw.protocol = "UDP" then startL4Listener host addr name gw
  else none

def startMissing (listeners : Listeners) (e : String × GatewayState) : Listeners :=
 if (listeners.find? e.1).isSome then listeners
 else if listeners.values.any fun h => h.port = e.2.port then listeners
 else match startListener lib host e.1 e.2 with
  | some h => listeners.set e.1 h
  | none => listeners

/-- A listener whose gateway is gone stops unless some gateway has its port. -/
def reconcileListeners (gateways : List (String × GatewayState)) (listeners : Listeners) :
  Listeners :=
 (gateways.foldl (startMissing lib host) listeners).deleteIf fun e =>
  e.1 ∉ gateways.map Prod.fst && !gateways.any fun g => g.2.port = e.2.port

end

def serviceOf (lib : ListenerLibrary) (name : String) (gw : GatewayState) : Option Service :=
 if gw.protocol = "HTTP" then some (.http none)
 else if gw.protocol = "HTTPS" then
  (gw.tls.filter fun tls => lib.buildsTls tls).map fun tls => .http (some tls)
 else if gw.protocol = "HTTP3" then (gw.tls.filter fun tls => lib.buildsQuic tls).map .http3
 else if gw.protocol = "TCP" ∨ gw.protocol = "UDP" then some (.l4 name)
 else none

def Vacant (listeners : Listeners) (name : String) (port : UInt32) : Prop :=
 listeners.find? name = none ∧ ∀ name' h, listeners.find? name' = some h → h.port ≠ port

section
variable {lib : ListenerLibrary} {host : Host} {name : String} {gw : GatewayState}

lemma serviceOf_of_startListener {h : ListenerHandle} {svc : Service}
  (hst : startListener lib host name gw = some h) (hse : h.service = some svc) :
  serviceOf lib name gw = some svc := by
 obtain ⟨addr,-,hst⟩ := bind_eq_some_iff.mp hst
 unfold serviceOf
 split_ifs at hst with hp h3 hl
 · unfold startHttpListener at hst
   split_ifs at hst with hn hh
   · split at hst
     · simp at hst
     · rename_i tls ht
       split_ifs at hst with hb
       cases hst
       simpa [hh,ht,hb] using hse
   · cases hst
     simpa [hp.resolve_right hh] using hse
 · obtain ⟨tls,ht,rfl⟩ := map_eq_some_iff.mp hst
   split_ifs at hse with ho
   have hb : lib.buildsQuic tls = true := (Bool.and_eq_true_iff.mp ho).1
   simpa [h3,ht,hb] using hse
 · unfold startL4Listener at hst
   split_ifs at hst with hn
   cases hst
   rcases hl with hl | hl <;> simpa [hl] using hse

lemma port_of_startListener {h : ListenerHandle} (hp : gw.port ≠ 0)
  (ht : startListener lib host name gw = some h) : h.port = gw.port := by
 have hl : ∀ addr, host.localPort addr gw.port = gw.port := fun addr => if_neg hp
 obtain ⟨addr,-,ht⟩ := bind_eq_some_iff.mp ht
 split_ifs at ht
 · unfold startHttpListener at ht
   split_ifs at ht
   · split at ht
     · simp at ht
     · split_ifs at ht
       exact (congrArg ListenerHandle.port (Option.some.inj ht)).symm.trans (hl addr)
   · exact (congrArg ListenerHandle.port (Option.some.inj ht)).symm.trans (hl addr)
 · obtain ⟨tls,-,rfl⟩ := map_eq_some_iff.mp ht
   rfl
 · unfold startL4Listener at ht
   split_ifs at ht
   exact (congrArg ListenerHandle.port (Option.some.inj ht)).symm.trans (hl addr)

end

def openHost : Host := ⟨fun _ => true,fun _ => true,fun _ => 1⟩

def anyLibrary : ListenerLibrary where
 parseAddr _ := none
 parseHost host := some host
 parseHost_any := rfl
 buildsTls _ := true
 buildsQuic _ := true

variable {name : String}

lemma startListener_openHost {lib : ListenerLibrary} {gw : GatewayState} {svc : Service}
  (hbi : gw.bindAddress = "0.0.0.0") (hp : gw.port ≠ 0) (hr : gw.port.toNat < 65536)
  (hse : serviceOf lib name gw = some svc) :
  startListener lib openHost name gw = some ⟨gw.port,some svc⟩ := by
 have ha : bindAddr lib gw = some ("0.0.0.0",gw.port.toNat) := by
  simp [bindAddr,hr,hbi,lib.parseHost_any]
 unfold serviceOf at hse
 rw [startListener,ha,Option.bind_some]
 split_ifs at hse with hh hht h3 hl
 · cases hse
   simp [hh,startHttpListener,openHost,Host.localPort,hp]
 · obtain ⟨tls,ht,rfl⟩ := map_eq_some_iff.mp hse
   obtain ⟨ht,hb⟩ := filter_eq_some_iff.mp ht
   simp [hht,startHttpListener,openHost,Host.localPort,hp,ht,hb]
 · obtain ⟨tls,ht,rfl⟩ := map_eq_some_iff.mp hse
   obtain ⟨ht,hb⟩ := filter_eq_some_iff.mp ht
   simp [h3,startH3Listener,openHost,ht,hb]
 · cases hse
   simp [hh,hht,h3,hl,startL4Listener,openHost,Host.localPort,hp]

section
variable {lib : ListenerLibrary} {host : Host}

variable {m : Listeners} {name : String} {h : ListenerHandle}

lemma startMissing_keeps (hm : m.find? name = some h) (e : String × GatewayState) :
  (startMissing lib host m e).find? name = some h := by
 unfold startMissing
 split_ifs with hr hb
 · exact hm
 · exact hm
 · have hn : name ≠ e.1 := by
    rintro rfl
    simp [hm] at hr
   split
   · rw [find?_set_ne _ _ hn]
     exact hm
   · exact hm

lemma startMissing_cases {e : String × GatewayState}
  (hm : (startMissing lib host m e).find? name = some h) : m.find? name = some h ∨
   name = e.1 ∧ Vacant m name e.2.port ∧ startListener lib host name e.2 = some h := by
 unfold startMissing at hm
 split_ifs at hm with hr hb
 · exact .inl hm
 · exact .inl hm
 · split at hm
   · rename_i h' ht
     rcases find?_set_eq_some_iff.mp hm with ⟨rfl,rfl⟩ | ⟨-,hm⟩
     · refine .inr ⟨rfl,⟨by simpa using hr,?_⟩,ht⟩
       intro name' h'' hf hp
       refine hb (any_eq_true.mpr ⟨h'',?_,by simpa using hp⟩)
       exact mem_values_iff.mpr ⟨name',hf⟩
     · exact .inl hm
   · exact .inl hm

lemma startMissing_vacant {e : String × GatewayState} (hv : Vacant m e.1 e.2.port)
  (ht : startListener lib host e.1 e.2 = some h) :
  (startMissing lib host m e).find? e.1 = some h := by
 have hb : ¬ (m.values.any fun h => h.port = e.2.port) = true := by
  rw [any_eq_true]
  rintro ⟨h',hm,hp⟩
  obtain ⟨name',hf⟩ := mem_values_iff.mp hm
  exact hv.2 name' h' hf (by simpa using hp)
 rw [startMissing,if_neg (by simp [hv.1]),if_neg hb,ht]
 exact find?_set_self _ _ _

lemma foldl_startMissing_keeps (hm : m.find? name = some h) (gws : List (String × GatewayState)) :
  (gws.foldl (startMissing lib host) m).find? name = some h := by
 induction gws generalizing m with
 | nil => exact hm
 | cons e rest ih => exact ih (startMissing_keeps hm e)

lemma Vacant.mono {m' : Listeners} {port : UInt32} (h : Vacant m' name port)
  (hu : ∀ name h, m.find? name = some h → m'.find? name = some h) : Vacant m name port := by
 refine ⟨?_,fun name' h' hf => h.2 name' h' (hu name' h' hf)⟩
 cases hm : m.find? name with
 | none => rfl
 | some h' => exact absurd ((hu name h' hm).symm.trans h.1) (by simp)

/-- A listener of the run ran before, or its gateway started it where nothing ran before. -/
lemma foldl_startMissing_cases {gws : List (String × GatewayState)}
  (hm : (gws.foldl (startMissing lib host) m).find? name = some h) :
  m.find? name = some h ∨ ∃ gw, (name,gw) ∈ gws ∧ Vacant m name gw.port ∧
   startListener lib host name gw = some h := by
 induction gws generalizing m with
 | nil => exact .inl hm
 | cons e rest ih =>
  rcases ih hm with hf | ⟨gw,hg,hv,ht⟩
  · rcases startMissing_cases hf with hf | ⟨rfl,hv,ht⟩
    · exact .inl hf
    · exact .inr ⟨e.2,mem_cons_self,hv,ht⟩
  · exact .inr ⟨gw,mem_cons_of_mem _ hg,hv.mono fun name h hf => startMissing_keeps hf e,ht⟩

/-- The listeners after a reconciliation are those that ran or were started and whose gateway or
port is configured. -/
lemma find?_reconcileListeners {gws : List (String × GatewayState)} :
  (reconcileListeners lib host gws m).find? name = some h ↔
   (gws.foldl (startMissing lib host) m).find? name = some h ∧
    ∃ g ∈ gws, g.1 = name ∨ g.2.port = h.port := by
 rw [reconcileListeners,find?_deleteIf,filter_eq_some_iff]
 refine and_congr_right fun _ => ?_
 simp only [mem_map,Bool.not_eq_true',Bool.and_eq_false_iff,decide_eq_false_iff_not,
  not_not,Bool.not_eq_false',any_eq_true,decide_eq_true_eq]
 constructor
 · rintro (⟨g,hg,hn⟩ | ⟨g,hg,hp⟩)
   · exact ⟨g,hg,.inl hn⟩
   · exact ⟨g,hg,.inr hp⟩
 · rintro ⟨g,hg,hn | hp⟩
   · exact .inl ⟨g,hg,hn⟩
   · exact .inr ⟨g,hg,hp⟩

end

structure EdgeState where
 routing : RoutingState := {}
 listeners : Listeners := ∅

/-- The manager reconciles some time after an update, in any order of the gateways. -/
inductive EdgeOp
 | apply (snapshot : ConfigSnapshot) (now : Instant)
 | reconcile (host : Host) (gateways : List (String × GatewayState))

section
variable (lib : ListenerLibrary) (text : TextLibrary) (render : JsonValue → String)

def edgeSystem : TransitionSystem EdgeState EdgeOp where
 init s := s = {}
 step s op t := match op with
  | .apply snapshot now =>
   (routingSystem text render).step s.routing
    (.applyConfig (translateSnapshot snapshot) now) t.routing ∧
     t.listeners = s.listeners
  | .reconcile host gateways =>
   gateways.Perm s.routing.config.gateways.pairs ∧
    t = { s with listeners := reconcileListeners lib host gateways s.listeners }

def HasReconciled (s : EdgeState) (snapshot : ConfigSnapshot) (t : EdgeState) : Prop :=
 ∃ now u host gateways, (edgeSystem lib text render).step s (.apply snapshot now) u ∧
  (edgeSystem lib text render).step u (.reconcile host gateways) t

lemma exists_apply (s : EdgeState) (snap : ConfigSnapshot) (now : Instant) :
  ∃ u, (edgeSystem lib text render).step s (.apply snap now) u := by
 let cfg := s.routing.config.applyConfig render now (translateSnapshot snap)
 let rr := s.routing.router.setRoutes (cfg.routes.values.map (compileRoute text))
 exact ⟨⟨⟨cfg,rr⟩,s.listeners⟩,⟨rfl,_,List.Perm.refl _,rfl⟩,rfl⟩

end

def configured (gateways : List Gateway) (name : String) : Option GatewayState :=
 (((translateGateways gateways).map gatewayFromProto).filter fun g =>
  g.name = name).getLast?

def Kept (s : EdgeState) (gateways : List Gateway) (name : String) (h : ListenerHandle) :
  Prop :=
 s.listeners.find? name = some h ∧
  ∃ name' g, configured gateways name' = some g ∧ (name' = name ∨ g.port = h.port)

inductive MayRun (lib : ListenerLibrary) (s : EdgeState) (gateways : List Gateway)
  (name : String) (port : UInt32) (service : Service) : Prop
 | kept (h : Kept s gateways name ⟨port,some service⟩)
 | started {g : GatewayState} (hconf : configured gateways name = some g)
   (hvacant : Vacant s.listeners name g.port) (hport : port = g.port)
   (hservice : serviceOf lib name g = some service)

variable {gateways : List Gateway} {g : GatewayState}

lemma configured_mem (h : configured gateways name = some g) :
  g.name = name ∧ ∃ gw ∈ gateways, ∃ lis ∈ gw.listeners,
   g = gatewayFromProto (translateListener gw lis) := by
 obtain ⟨hm,hn⟩ := mem_filter.mp (mem_of_getLast? h)
 obtain ⟨dp,hp,rfl⟩ := mem_map.mp hm
 obtain ⟨gw,hg,ha⟩ := mem_flatMap.mp hp
 obtain ⟨lis,hl,rfl⟩ := mem_map.mp ha
 exact ⟨by simpa using hn,gw,hg,lis,hl,rfl⟩

def listenerState (bc : Snapshot.BuildContext) (gw : V1alpha1.ProxyGateway)
  (lis : V1alpha1.Listener) : GatewayState where
 name := gw.name ++ "/" ++ lis.name
 bindAddress := "0.0.0.0"
 port := lis.port.toUInt32
 protocol := protocolStr (translateGatewayProtocol (Snapshot.convertProtocol lis.protocol))
 tls := (lis.tls.bind fun tls => (Snapshot.loadTLSConfig bc gw.ns tls).loaded?).map fun tls =>
  ⟨tls.cert,tls.key,none⟩
 hostnames := lis.hostnames

lemma toUInt32_port (lis : V1alpha1.Listener) :
  lis.port.toUInt32 ≠ 0 ∧ lis.port.toUInt32.toNat < 65536 := by
 obtain ⟨hp,hl⟩ := lis.port_valid
 have h1 : (1 : Int32).toInt = 1 := rfl
 have h2 : (65535 : Int32).toInt = 65535 := rfl
 have hin : lis.port.toInt = lis.port.toUInt32.toBitVec.toInt := rfl
 have hn : lis.port.toUInt32.toBitVec.toNat = lis.port.toUInt32.toNat := rfl
 rw [Int32.le_iff_toInt_le,h1,hin,BitVec.toInt_eq_toNat_cond,hn] at hp
 rw [Int32.le_iff_toInt_le,h2,hin,BitVec.toInt_eq_toNat_cond,hn] at hl
 have ht := lis.port.toUInt32.toNat_lt
 have hr : 0 < lis.port.toUInt32.toNat ∧ lis.port.toUInt32.toNat < 65536 := by
  split_ifs at hp hl <;> omega
 refine ⟨fun h0 => ?_,hr.2⟩
 rw [h0] at hr
 exact absurd hr.1 (by decide)

lemma loadTLSConfig_caCert {bc : BuildContext} {ns : String} {tls : V1alpha1.TLSConfig}
  {loa : TLSConfig} (h : loadTLSConfig bc ns tls = .ok loa) : loa.caCert = [] := by
 unfold loadTLSConfig at h
 split at h
 · simp at h
 · split at h
   · simp at h
   · split at h
     · simp at h
     · split at h
       · simp at h
       · rw [← LoadResult.ok.inj h]

attribute [local simp] translateListener gatewayName gatewayFromProto

lemma exists_listenerState {bc : GatewayContext} (h : IsGatewaysOf bc gateways)
  (hc : configured gateways name = some g) :
  g.name = name ∧ ∃ gw ∈ bc.gateways, ∃ lis ∈ gw.listeners,
   g = listenerState bc.toBuildContext gw lis := by
 obtain ⟨hn,dgw,hg,dlis,hdl,rfl⟩ := configured_mem hc
 obtain ⟨gw,hw,lis,hl,rfl,hb⟩ := h.exists_listener hg hdl
 obtain rfl := buildListener_eq_some hb
 refine ⟨hn,gw,hw,lis,hl,?_⟩
 cases ht : lis.tls.bind fun tls => (loadTLSConfig bc.toBuildContext gw.ns tls).loaded? with
 | none =>
  simp [listenerState,convertListener,buildGateway,
   defaultBindAddress,ht]
 | some loaded =>
  obtain ⟨tls,-,ha⟩ := bind_eq_some_iff.mp ht
  have hca := loadTLSConfig_caCert (LoadResult.loaded?_eq_some.mp ha)
  simp [listenerState,convertListener,buildGateway,
   defaultBindAddress,ht,translateTLS,hca]

lemma bind_of_isGatewaysOf {bc : GatewayContext} (h : IsGatewaysOf bc gateways)
  (name : String) (g : GatewayState) (hc : configured gateways name = some g) :
  g.bindAddress = "0.0.0.0" ∧ g.port ≠ 0 ∧ g.port.toNat < 65536 := by
 obtain ⟨-,gw,-,lis,-,rfl⟩ := exists_listenerState h hc
 exact ⟨rfl,toUInt32_port lis⟩

section
variable {lib : ListenerLibrary} {text : TextLibrary} {rd : JsonValue → String}
 {s t : EdgeState} {snap : ConfigSnapshot}

variable {now : Instant}

section
variable (h : (edgeSystem lib text rd).step s (.apply snap now) t)
include h

lemma find?_gateways_apply (name : String) :
  t.routing.config.gateways.find? name = configured snap.gateways name := by
 rw [h.1.1]
 exact find?_replaceAll_last GatewayState.name _ _ name

lemma mem_pairs_apply (e : String × GatewayState) :
  e ∈ t.routing.config.gateways.pairs ↔ configured snap.gateways e.1 = some e.2 := by
 rw [← find?_gateways_apply h]
 exact mem_pairs_iff

end

variable {name : String}

lemma HasReconciled.mayRun (h : HasReconciled lib text rd s snap t)
  (hp : ∀ name g, configured snap.gateways name = some g → g.port ≠ 0) {port : UInt32}
  {svc : Service} (hr : t.listeners.find? name = some ⟨port,some svc⟩) :
  MayRun lib s snap.gateways name port svc := by
 obtain ⟨now,u,host,gateways,ha,hpe,rfl⟩ := h
 have hm : ∀ e, e ∈ gateways → configured snap.gateways e.1 = some e.2 := fun e he =>
  (mem_pairs_apply ha e).mp (hpe.mem_iff.mp he)
 obtain ⟨hf,g,hg,hc⟩ := find?_reconcileListeners.mp hr
 rcases foldl_startMissing_cases hf with ho | ⟨gw,hw,hv,ht⟩
 · exact .kept ⟨ha.2 ▸ ho,g.1,g.2,hm g hg,hc⟩
 · have hl := hm (name,gw) hw
   exact .started hl (ha.2 ▸ hv) (port_of_startListener (hp name gw hl) ht)
    (serviceOf_of_startListener ht rfl)

/-- Every listener that can run does so for some order of the gateways, if nothing outside keeps
it from starting. -/
lemma exists_hasReconciled {u : EdgeState}
  (hp : (edgeSystem lib text rd).step s (.apply snap now) u)
  (hb : ∀ name g, configured snap.gateways name = some g →
   g.bindAddress = "0.0.0.0" ∧ g.port ≠ 0 ∧ g.port.toNat < 65536) {port : UInt32}
  {svc : Service} (hm : MayRun lib s snap.gateways name port svc) :
  ∃ t, HasReconciled lib text rd s snap t ∧ t.routing = u.routing ∧
   t.listeners.find? name = some ⟨port,some svc⟩ := by
 cases hm with
 | kept h =>
  obtain ⟨hf,name',g,hc,hsa⟩ := h
  refine ⟨_,⟨now,u,openHost,_,hp,List.Perm.refl _,rfl⟩,rfl,?_⟩
  refine find?_reconcileListeners.mpr ⟨foldl_startMissing_keeps (hp.2 ▸ hf) _,?_⟩
  exact ⟨(name',g),(mem_pairs_apply hp _).mpr hc,hsa⟩
 | @started g hc hv ho hse =>
  obtain ⟨ha,hn,hr⟩ := hb name g hc
  -- The gateway comes first in the iteration, so no other gateway of its port is before it.
  obtain ⟨pre,post,hpa⟩ := append_of_mem ((mem_pairs_apply hp (name,g)).mpr hc)
  have hpe : ((name,g)::(pre ++ post)).Perm u.routing.config.gateways.pairs := by
   rw [hpa]
   exact perm_middle.symm
  refine ⟨_,⟨now,u,openHost,_,hp,hpe,rfl⟩,rfl,?_⟩
  refine find?_reconcileListeners.mpr ⟨?_,(name,g),mem_cons_self,.inl rfl⟩
  rw [← hp.2] at hv
  rw [ho]
  exact foldl_startMissing_keeps (startMissing_vacant (e := (name,g)) hv
   (startListener_openHost ha hn hr hse)) _

lemma reachable_routing (h : (edgeSystem lib text rd).Reachable s) :
  (routingSystem text rd).Reachable s.routing := by
 induction h with
 | start hs =>
  rw [hs]
  exact .start rfl
 | @next s t op _ hse ih =>
  cases op with
  | apply snap now => exact .next ih hse.1
  | reconcile host gateways =>
   rw [hse.2]
   exact ih

lemma HasReconciled.hasApplied (h : HasReconciled lib text rd s snap t)
  (hs : (edgeSystem lib text rd).Reachable s) :
  HasApplied text rd (translateSnapshot snap) t.routing := by
 obtain ⟨now,u,host,gateways,ha,-,rfl⟩ := h
 exact ⟨s.routing,now,reachable_routing hs,ha.1⟩

structure Named (s : EdgeState) : Prop where
 gateways : ∀ name g, s.routing.config.gateways.find? name = some g → name ≠ ""
 l4 : ∀ name h gw, s.listeners.find? name = some h → h.service = some (.l4 gw) → gw ≠ ""

lemma name_of_serviceOf_l4 {gw : String}
  (h : serviceOf lib name g = some (.l4 gw)) : gw = name := by
 unfold serviceOf at h
 split_ifs at h
 · simp at h
 · simp [map_eq_some_iff] at h
 · simp [map_eq_some_iff] at h
 · exact (Service.l4.inj (Option.some.inj h)).symm

theorem reachable_named (h : (edgeSystem lib text rd).Reachable s) : Named s := by
 refine h.invariant ?_ ?_
 · rintro s rfl
   constructor
   · intro name g hg
     cases hg
   · intro name h gw hh
     cases hh
 · intro s op t hs hse
   cases op with
   | apply snap now =>
    constructor
    · intro name g hg
      rw [find?_gateways_apply hse] at hg
      obtain ⟨hn,gw,-,lis,-,rfl⟩ := configured_mem hg
      rw [← hn]
      simp
    · rw [hse.2]
      exact hs.l4
   | reconcile host gateways =>
    obtain ⟨hp,rfl⟩ := hse
    refine ⟨hs.gateways,?_⟩
    intro name h gw hf hl
    obtain ⟨hfo,-⟩ := find?_reconcileListeners.mp hf
    rcases foldl_startMissing_cases hfo with ho | ⟨g,hg,-,ht⟩
    · exact hs.l4 name h gw ho hl
    · rw [name_of_serviceOf_l4 (serviceOf_of_startListener ht hl)]
      exact hs.gateways name g (mem_pairs_iff.mp (hp.mem_iff.mp hg))

end

end NovaEdge.Dataplane
