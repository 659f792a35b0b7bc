import NovaEdge.ListenerManager

/-! The sockets of the listener manager after a reconciliation, and when they are those that the
current gateways ask for. -/
namespace NovaEdge.Dataplane
open List Option KeyedMap

/-- An IPv6 address stands without brackets, but as the host of a socket address in brackets. -/
structure AddressLibrary extends ListenerLibrary where
 parseIpv6 : String → Option String
 parseIpv6_any : parseIpv6 "::" = some "::"
 parseHost_of_ipv6 : ∀ text, (parseIpv6 text).isSome → parseHost text = none

def hostText (gw : GatewayState) : String := if gw.bindAddress = "" then "::" else gw.bindAddress

def AddressLibrary.wantedAddr (lib : AddressLibrary) (gw : GatewayState) : Option SocketAddr :=
 if gw.port.toNat < 65536 then
  ((lib.parseHost (hostText gw)).or (lib.parseIpv6 (hostText gw))).map (·,gw.port.toNat)
 else none

/-- `socket` has the address that the task of a running listener is bound to; for other names it
has no meaning. -/
structure ManagerState where
 listeners : Listeners := ∅
 socket : String → SocketAddr := fun _ => ("",0)

section
variable (lib : ListenerLibrary) (host : Host)

def localAddr (gw : GatewayState) : Option SocketAddr :=
 (bindAddr lib gw).map fun addr => (addr.1,(host.localPort addr gw.port).toNat)

/-- A listener that ran keeps its socket, another one was started for the gateway of its name. -/
def reconcile (gateways : KeyedMap String GatewayState) (order : List (String × GatewayState))
  (s : ManagerState) : ManagerState where
 listeners := reconcileListeners lib host order s.listeners
 socket name :=
  if (s.listeners.find? name).isSome then s.socket name
  else ((gateways.find? name).bind (localAddr lib host)).getD (s.socket name)

end

/-- Each step reconciles with some gateways, in any order of the map, on any host that never
picks port 0. -/
def managerSystem (lib : ListenerLibrary) :
  TransitionSystem ManagerState (KeyedMap String GatewayState) where
 init s := s = {}
 step s gateways t := ∃ host order, (∀ addr, host.freePort addr ≠ 0) ∧
  order.Perm gateways.pairs ∧ t = reconcile lib host gateways order s

structure Host.BindsAll (host : Host) : Prop where
 tcp : ∀ addr, host.bindsTcp addr = true
 udp : ∀ addr, host.bindsUdp addr = true
 freePort : ∀ addr, host.freePort addr ≠ 0

inductive ServesAs (gw : GatewayState) : Service → Prop
 | http (h : gw.protocol = "HTTP") : ServesAs gw (.http none)
 | https {tls : TlsState} (h : gw.protocol = "HTTPS") (htls : gw.tls = some tls) :
  ServesAs gw (.http (some tls))
 | http3 {tls : TlsState} (h : gw.protocol = "HTTP3") (htls : gw.tls = some tls) :
  ServesAs gw (.http3 tls)
 | tcp {name : String} (h : gw.protocol = "TCP") : ServesAs gw (.l4 name)

def ManagerState.Serves (s : ManagerState) (name : String) (service : Service)
  (addr : SocketAddr) : Prop :=
 ∃ h, s.listeners.find? name = some h ∧ h.service = some service ∧ s.socket name = addr

/-- The bound sockets are exactly those that the gateways ask for, and each listener serves as
some gateway on its port. -/
structure AtFixpoint (lib : AddressLibrary) (gateways : KeyedMap String GatewayState)
  (s : ManagerState) : Prop where
 bound : ∀ addr, (∃ name service, s.Serves name service addr) ↔
  ∃ name gw, gateways.find? name = some gw ∧ lib.wantedAddr gw = some addr
 serves : ∀ name service addr, s.Serves name service addr →
  ∃ name' gw, gateways.find? name' = some gw ∧ gw.port.toNat = addr.2 ∧ ServesAs gw service

/-- The listener of an HTTP/3 gateway may be there and serve nothing. -/
def startOutcome (lib : ListenerLibrary) (name : String) (gw : GatewayState) :
  Option (Option Service) :=
 (startListener lib openHost name gw).map ListenerHandle.service

def CanStart (lib : ListenerLibrary) (s : ManagerState) (gateways : KeyedMap String GatewayState)
  (name : String) (gw : GatewayState) : Prop :=
 gateways.find? name = some gw ∧ Vacant s.listeners name gw.port ∧
  (startOutcome lib name gw).isSome

def Remains (s : ManagerState) (gateways : KeyedMap String GatewayState) (name : String)
  (service : Service) (addr : SocketAddr) : Prop :=
 s.Serves name service addr ∧ ∃ h name' gw, s.listeners.find? name = some h ∧
  gateways.find? name' = some gw ∧ (name' = name ∨ gw.port = h.port)

/-- What stays is up to date, and what a gateway asks for is bound or its port is vacant. -/
structure Settles (lib : AddressLibrary) (s : ManagerState)
  (gateways : KeyedMap String GatewayState) : Prop where
 remains : ∀ name service addr, Remains s gateways name service addr →
  (∃ name' gw, gateways.find? name' = some gw ∧ lib.wantedAddr gw = some addr) ∧
   ∃ name' gw, gateways.find? name' = some gw ∧ gw.port.toNat = addr.2 ∧ ServesAs gw service
 wanted : ∀ name gw addr, gateways.find? name = some gw → lib.wantedAddr gw = some addr →
  (∃ name' service, Remains s gateways name' service addr) ∨
   gw.port ≠ 0 ∧
   (∃ name' gw', CanStart lib.toListenerLibrary s gateways name' gw' ∧ gw'.port = gw.port) ∧
   ∀ name' gw', CanStart lib.toListenerLibrary s gateways name' gw' → gw'.port = gw.port →
    bindAddr lib.toListenerLibrary gw' = some addr ∧
     ∃ service, startOutcome lib.toListenerLibrary name' gw' = some (some service)
 udp : ∀ name gw, CanStart lib.toListenerLibrary s gateways name gw → gw.protocol = "UDP" →
  ∃ name' gw', gateways.find? name' = some gw' ∧ gw'.port = gw.port ∧ gw'.protocol = "TCP"

variable {han : ListenerHandle}

section
variable {lib : ListenerLibrary} {host : Host} {name : String} {gw : GatewayState}

variable {addr : SocketAddr}

lemma bindAddr_eq_some_iff : bindAddr lib gw = some addr ↔
  gw.port.toNat < 65536 ∧ lib.parseHost (hostText gw) = some addr.1 ∧ addr.2 = gw.port.toNat := by
 change (if gw.port.toNat < 65536 then (lib.parseHost (hostText gw)).map (·,gw.port.toNat)
  else none) = some addr ↔ _
 split_ifs with hr
 · simp [hr,Prod.ext_iff,eq_comm]
 · simp [hr]

lemma bindAddr_port (h : bindAddr lib gw = some addr) : addr.2 = gw.port.toNat :=
 (bindAddr_eq_some_iff.mp h).2.2

lemma wantedAddr_of_bindAddr {lib : AddressLibrary}
  (h : bindAddr lib.toListenerLibrary gw = some addr) : lib.wantedAddr gw = some addr := by
 obtain ⟨hr,ht,hp⟩ := bindAddr_eq_some_iff.mp h
 rw [AddressLibrary.wantedAddr,if_pos hr,ht,← hp]
 rfl

lemma wantedAddr_port {lib : AddressLibrary} (h : lib.wantedAddr gw = some addr) :
  addr.2 = gw.port.toNat := by
 unfold AddressLibrary.wantedAddr at h
 split_ifs at h
 obtain ⟨text,-,rfl⟩ := map_eq_some_iff.mp h
 rfl

lemma localAddr_eq_bindAddr (hp : gw.port ≠ 0) : localAddr lib host gw = bindAddr lib gw := by
 cases ha : bindAddr lib gw with
 | none => simp [localAddr,ha]
 | some addr =>
  have hl : host.localPort addr gw.port = gw.port := if_neg hp
  simp [localAddr,ha,hl,← bindAddr_port ha]

lemma localAddr_port_ne_zero (hf : ∀ addr, host.freePort addr ≠ 0)
  (h : localAddr lib host gw = some addr) : addr.2 ≠ 0 := by
 obtain ⟨bound,-,rfl⟩ := map_eq_some_iff.mp h
 have hne : host.localPort bound gw.port ≠ 0 := by
  unfold Host.localPort
  split_ifs with hz
  · intro h0
    have hn : (host.freePort bound).toNat = 0 := by simpa using congrArg UInt32.toNat h0
    exact hf bound (UInt16.toNat_inj.mp (by simpa using hn))
  · exact hz
 intro h0
 exact hne (UInt32.toNat_inj.mp (by simpa using h0))

lemma exists_bindAddr_of_startListener {h : ListenerHandle}
  (ht : startListener lib host name gw = some h) : ∃ addr, bindAddr lib gw = some addr := by
 obtain ⟨addr,ha,-⟩ := bind_eq_some_iff.mp ht
 exact ⟨addr,ha⟩

lemma map_service_startListener (hb : host.BindsAll) :
  (startListener lib host name gw).map ListenerHandle.service = startOutcome lib name gw := by
 unfold startOutcome startListener
 cases ha : bindAddr lib gw with
 | none => rfl
 | some addr =>
  split_ifs
  · unfold startHttpListener
    simp only [hb.tcp,openHost,reduceCtorEq,if_false]
    split_ifs
    · split
      · rfl
      · split_ifs
        · rfl
        · rfl
    · rfl
  · simp [startH3Listener,hb.udp,openHost,Function.comp_def]
  · simp [startL4Listener,hb.tcp,openHost]
  · rfl

lemma exists_startListener_of_outcome (hb : host.BindsAll) {out : Option Service}
  (h : startOutcome lib name gw = some out) :
  ∃ han, startListener lib host name gw = some han ∧ han.service = out :=
 map_eq_some_iff.mp ((map_service_startListener hb).trans h)

lemma startOutcome_of_startListener (hb : host.BindsAll)
  (h : startListener lib host name gw = some han) :
  startOutcome lib name gw = some han.service := by
 rw [← map_service_startListener hb,h,map_some]

lemma ServesAs.of_serviceOf {svc : Service} (h : serviceOf lib name gw = some svc)
  (hu : gw.protocol ≠ "UDP") : ServesAs gw svc := by
 unfold serviceOf at h
 split_ifs at h with hh hht h3 hl
 · cases h
   exact .http hh
 · obtain ⟨tls,ht,rfl⟩ := map_eq_some_iff.mp h
   exact .https hht (filter_eq_some_iff.mp ht).1
 · obtain ⟨tls,ht,rfl⟩ := map_eq_some_iff.mp h
   exact .http3 h3 (filter_eq_some_iff.mp ht).1
 · cases h
   exact .tcp (hl.resolve_right hu)

end

section
variable {lib : ListenerLibrary} {host : Host} {gws : KeyedMap String GatewayState}
 {ord : List (String × GatewayState)} {s : ManagerState}

variable {name : String} {gw : GatewayState}

lemma mem_order_iff (hor : ord.Perm gws.pairs) : (name,gw) ∈ ord ↔ gws.find? name = some gw :=
 hor.mem_iff.trans mem_pairs_iff

lemma exists_port_foldl_startMissing {m : Listeners}
  (hm : (name,gw) ∈ ord) (hn : (ord.map Prod.fst).Nodup) (ho : gw.port ≠ 0)
  (hv : Vacant m name gw.port) (ht : startListener lib host name gw = some han) :
  ∃ name' h, (ord.foldl (startMissing lib host) m).find? name' = some h ∧ h.port = gw.port := by
 induction ord generalizing m with
 | nil => cases hm
 | cons e rest ih =>
  rw [map_cons,nodup_cons] at hn
  rcases mem_cons.mp hm with rfl | hr
  · exact ⟨name,han,foldl_startMissing_keeps (startMissing_vacant hv ht) rest,
     port_of_startListener ho ht⟩
  · have hne : name ≠ e.1 := fun hq => hn.1 (hq ▸ mem_map_of_mem hr)
    by_cases ha : ∃ name' h, (startMissing lib host m e).find? name' = some h ∧ h.port = gw.port
    · obtain ⟨name',h,hf,hp⟩ := ha
      exact ⟨name',h,foldl_startMissing_keeps hf rest,hp⟩
    · refine ih hr hn.2 ⟨?_,fun name' h hf hp => ha ⟨name',h,hf,hp⟩⟩
      -- the step for another name leaves the candidate's name free
      cases hf : (startMissing lib host m e).find? name with
      | none => rfl
      | some h =>
       rcases startMissing_cases hf with hf | ⟨hq,-,-⟩
       · exact absurd (hv.1.symm.trans hf) (by simp)
       · exact absurd hq hne

variable {svc : Service} {addr : SocketAddr}

variable (hor : ord.Perm gws.pairs)
include hor

lemma reconcile_serves_of_remains (h : Remains s gws name svc addr) :
  (reconcile lib host gws ord s).Serves name svc addr := by
 obtain ⟨⟨han,hf,hse,ho⟩,handle',name',gw,hf',hg,hk⟩ := h
 obtain rfl := mem_unique hf hf'
 refine ⟨han,find?_reconcileListeners.mpr ⟨foldl_startMissing_keeps hf _,?_⟩,hse,?_⟩
 · exact ⟨(name',gw),(mem_order_iff hor).mpr hg,hk⟩
 · simp [reconcile,hf,ho]

lemma reconcile_serves_of_started {h : ListenerHandle} (hg : gws.find? name = some gw)
  (hn : s.listeners.find? name = none)
  (hf : (ord.foldl (startMissing lib host) s.listeners).find? name = some h)
  (hse : h.service = some svc) (ha : localAddr lib host gw = some addr) :
  (reconcile lib host gws ord s).Serves name svc addr := by
 refine ⟨h,find?_reconcileListeners.mpr ⟨hf,?_⟩,hse,?_⟩
 · exact ⟨(name,gw),(mem_order_iff hor).mpr hg,.inl rfl⟩
 · simp [reconcile,hn,hg,ha]

lemma reconcile_serves_cases (h : (reconcile lib host gws ord s).Serves name svc addr) :
  Remains s gws name svc addr ∨
   ∃ gw han, gws.find? name = some gw ∧ Vacant s.listeners name gw.port ∧
    startListener lib host name gw = some han ∧ han.service = some svc ∧
    localAddr lib host gw = some addr := by
 obtain ⟨han,hfi,hse,hc⟩ := h
 obtain ⟨hfl,⟨name',gw'⟩,hm,hk⟩ := find?_reconcileListeners.mp hfi
 rcases foldl_startMissing_cases hfl with hr | ⟨gw,hg,hv,ht⟩
 · have ho : s.socket name = addr := by simpa [reconcile,hr] using hc
   exact .inl ⟨⟨han,hr,hse,ho⟩,han,name',gw',hr,(mem_order_iff hor).mp hm,hk⟩
 · have hf := (mem_order_iff hor).mp hg
   obtain ⟨bound,hb⟩ := exists_bindAddr_of_startListener ht
   have hl : localAddr lib host gw =
     some (bound.1,(host.localPort bound gw.port).toNat) := by simp [localAddr,hb]
   have ho : (bound.1,(host.localPort bound gw.port).toNat) = addr := by
    simpa [reconcile,hv.1,hf,hl] using hc
   exact .inr ⟨gw,han,hf,hv,ht,hse,ho ▸ hl⟩

end

lemma socket_port_ne_zero {lib : ListenerLibrary} {s : ManagerState}
  (hs : (managerSystem lib).Reachable s) :
  ∀ name service addr, s.Serves name service addr → addr.2 ≠ 0 := by
 induction hs with
 | start hn =>
  rintro name service addr ⟨h,hf,-⟩
  rw [show _ = _ from hn] at hf
  cases hf
 | next _ ht ih =>
  intro name service addr hse
  obtain ⟨host,order,hfe,horder,rfl⟩ := ht
  rcases reconcile_serves_cases horder hse with hr | ⟨gw,h,-,-,-,-,ha⟩
  · exact ih name service addr hr.1
  · exact localAddr_port_ne_zero hfe ha

variable {order : List (String × GatewayState)}

section
variable {lib : AddressLibrary} {s : ManagerState} {gws : KeyedMap String GatewayState}

variable {name : String} {gw : GatewayState}

lemma CanStart.exists_bindAddr (h : CanStart lib.toListenerLibrary s gws name gw) :
  ∃ addr, bindAddr lib.toListenerLibrary gw = some addr := by
 obtain ⟨out,ho⟩ := isSome_iff_exists.mp h.2.2
 obtain ⟨han,ht,-⟩ := map_eq_some_iff.mp ho
 exact exists_bindAddr_of_startListener ht

variable {addr : SocketAddr}

section
variable (hs : (managerSystem lib.toListenerLibrary).Reachable s)
include hs

/-- A gateway that asks for an address in use has a port. -/
lemma port_ne_zero_of_serves {svc : Service} (hse : s.Serves name svc addr)
  (ha : lib.wantedAddr gw = some addr) : gw.port ≠ 0 := by
 have hn := socket_port_ne_zero hs name svc addr hse
 rw [wantedAddr_port ha] at hn
 exact fun h0 => hn (by simp [h0])

variable (h : Settles lib s gws)
include h

lemma Settles.port_ne_zero (hg : gws.find? name = some gw)
  (ha : lib.wantedAddr gw = some addr) : gw.port ≠ 0 := by
 rcases h.wanted name gw addr hg ha with ⟨name',service,hr⟩ | ⟨hp,-⟩
 · exact port_ne_zero_of_serves hs hr.1 ha
 · exact hp

variable {host : Host}

lemma Settles.bindAddr_of_started (hg : gws.find? name = some gw)
  (ht : startListener lib.toListenerLibrary host name gw = some han)
  (ha : localAddr lib.toListenerLibrary host gw = some addr) :
  bindAddr lib.toListenerLibrary gw = some addr := by
 obtain ⟨bound,hb⟩ := exists_bindAddr_of_startListener ht
 have hp := h.port_ne_zero hs hg (wantedAddr_of_bindAddr hb)
 exact (localAddr_eq_bindAddr hp).symm.trans ha

lemma Settles.exists_serves_of_canStart
  (hb : host.BindsAll) (hor : order.Perm gws.pairs) (hpo : gw.port ≠ 0)
  (hc : CanStart lib.toListenerLibrary s gws name gw)
  (ha : ∀ name' gw', CanStart lib.toListenerLibrary s gws name' gw' →
   gw'.port = gw.port → bindAddr lib.toListenerLibrary gw' = some addr ∧
    ∃ service, startOutcome lib.toListenerLibrary name' gw' = some (some service)) :
  ∃ name' service,
   (reconcile lib.toListenerLibrary host gws order s).Serves name' service addr := by
 obtain ⟨hg,hv,ho⟩ := hc
 obtain ⟨outcome,ho⟩ := isSome_iff_exists.mp ho
 obtain ⟨han,ht,-⟩ := exists_startListener_of_outcome hb ho
 have hn : (order.map Prod.fst).Nodup :=
  (hor.map Prod.fst).nodup_iff.mpr gws.pairs_keys_nodup
 obtain ⟨first,h₁,hf,hp⟩ := exists_port_foldl_startMissing
  ((mem_order_iff hor).mpr hg) hn hpo hv ht
 -- the listener on the port did not run before, so it is one of those that can start
 rcases foldl_startMissing_cases hf with hr | ⟨gw₁,hm,hvacant₁,hstart₁⟩
 · exact absurd hp (hv.2 first h₁ hr)
 · have hgw₁ := (mem_order_iff hor).mp hm
   obtain ⟨bound,hbo⟩ := exists_bindAddr_of_startListener hstart₁
   have hport₁ := h.port_ne_zero hs hgw₁ (wantedAddr_of_bindAddr hbo)
   have hp₁ : gw₁.port = gw.port := (port_of_startListener hport₁ hstart₁).symm.trans hp
   have hout₁ := startOutcome_of_startListener hb hstart₁
   obtain ⟨haddr₁,service,hse⟩ := ha first gw₁ ⟨hgw₁,hvacant₁,by simp [hout₁]⟩ hp₁
   exact ⟨first,service,reconcile_serves_of_started hor hgw₁ hvacant₁.1 hf
    (mem_unique hout₁ hse) ((localAddr_eq_bindAddr hport₁).trans haddr₁)⟩

lemma atFixpoint_of_settles (hb : host.BindsAll) (hor : order.Perm gws.pairs) :
  AtFixpoint lib gws (reconcile lib.toListenerLibrary host gws order s) := by
 constructor
 · intro addr
   constructor
   · rintro ⟨name,service,hsr⟩
     rcases reconcile_serves_cases hor hsr with
      hr | ⟨gw,han,hg,-,hst,-,had⟩
     · exact (h.remains name service addr hr).1
     · exact ⟨name,gw,hg,wantedAddr_of_bindAddr (h.bindAddr_of_started hs hg hst had)⟩
   · rintro ⟨name,gw,hg,had⟩
     rcases h.wanted name gw addr hg had with
      ⟨name',service,hr⟩ | ⟨ho,⟨name',gw',hc,hq⟩,ha⟩
     · exact ⟨name',service,reconcile_serves_of_remains hor hr⟩
     · rw [← hq] at ho ha
       exact h.exists_serves_of_canStart hs hb hor ho hc ha
 · intro name service addr hsr
   rcases reconcile_serves_cases hor hsr with
    hr | ⟨gw,han,hg,hv,hst,hse,had⟩
   · exact (h.remains name service addr hr).2
   · have hp := bindAddr_port (h.bindAddr_of_started hs hg hst had)
     have hf := serviceOf_of_startListener hst hse
     by_cases hu : gw.protocol = "UDP"
     · have hc : CanStart lib.toListenerLibrary s gws name gw :=
        ⟨hg,hv,by simp [startOutcome_of_startListener hb hst]⟩
       obtain ⟨name',gw',hg',hp',ht⟩ := h.udp name gw hc hu
       have hl : service = .l4 name := by simpa [serviceOf,hu,eq_comm] using hf
       exact ⟨name',gw',hg',by rw [hp',hp],hl ▸ .tcp ht⟩
     · exact ⟨name,gw,hg,hp.symm,.of_serviceOf hf hu⟩

end

lemma openHost_bindsAll : openHost.BindsAll :=
 ⟨fun _ => rfl,fun _ => rfl,fun _ => (by decide : (1 : UInt16) ≠ 0)⟩

/-- A gateway that can start may come first, and then no other one starts on its port. -/
lemma CanStart.exists_order (h : CanStart lib.toListenerLibrary s gws name gw) (hpo : gw.port ≠ 0) :
  ∃ (order : List (String × GatewayState)) (han : ListenerHandle), order.Perm gws.pairs ∧
   startListener lib.toListenerLibrary openHost name gw = some han ∧
   (order.foldl (startMissing lib.toListenerLibrary openHost) s.listeners).find? name = some han ∧
   ∀ name' h' gw', gws.find? name' = some gw' → gw'.port = gw.port →
    s.listeners.find? name' = none →
    (order.foldl (startMissing lib.toListenerLibrary openHost) s.listeners).find? name' =
     some h' → name' = name := by
 obtain ⟨hg,hv,ho⟩ := h
 obtain ⟨out,ho⟩ := isSome_iff_exists.mp ho
 obtain ⟨han,ht,-⟩ := map_eq_some_iff.mp ho
 obtain ⟨pre,post,hsp⟩ := append_of_mem (mem_pairs_iff.mpr hg)
 have hp : ((name,gw)::(pre ++ post)).Perm gws.pairs := hsp ▸ perm_middle.symm
 have hf : (startMissing lib.toListenerLibrary openHost s.listeners (name,gw)).find? name =
   some han := startMissing_vacant hv ht
 refine ⟨_,han,hp,ht,foldl_startMissing_keeps hf _,?_⟩
 intro name' h' gw' hg' ha hn hfi
 rw [foldl_cons] at hfi
 rcases foldl_startMissing_cases hfi with
  hr | ⟨gw'',hm,hv',-⟩
 · rcases startMissing_cases hr with hr | ⟨hq,-,-⟩
   · exact absurd (hn.symm.trans hr) (by simp)
   · exact hq
 · have hg'' := (mem_order_iff hp).mp (mem_cons_of_mem _ hm)
   obtain rfl := mem_unique hg' hg''
   exact absurd ((port_of_startListener hpo ht).trans ha.symm) (hv'.2 name han hf)

section
variable (hs : (managerSystem lib.toListenerLibrary).Reachable s)
 (hfix : ∀ order, order.Perm gws.pairs →
  AtFixpoint lib gws (reconcile lib.toListenerLibrary openHost gws order s))
include hs hfix

variable {name : String} {gw : GatewayState} {addr : SocketAddr}

lemma port_ne_zero_of_atFixpoint (hg : gws.find? name = some gw)
  (ha : lib.wantedAddr gw = some addr) : gw.port ≠ 0 := by
 obtain ⟨name',service,hse⟩ := ((hfix _ (List.Perm.refl _)).bound addr).mpr ⟨name,gw,hg,ha⟩
 have hn : (managerSystem lib.toListenerLibrary).Reachable
   (reconcile lib.toListenerLibrary openHost gws gws.pairs s) :=
  hs.next (i := gws) ⟨openHost,_,openHost_bindsAll.freePort,List.Perm.refl _,rfl⟩
 exact port_ne_zero_of_serves hn hse ha

lemma exists_started_of_atFixpoint (hor : order.Perm gws.pairs) (hg : gws.find? name = some gw)
  (ha : lib.wantedAddr gw = some addr) (hr : ¬ ∃ name' service, Remains s gws name' service addr) :
  ∃ name' gw' service,
   (reconcile lib.toListenerLibrary openHost gws order s).Serves name' service addr ∧
   CanStart lib.toListenerLibrary s gws name' gw' ∧ gw'.port = gw.port ∧
   bindAddr lib.toListenerLibrary gw' = some addr ∧
   startOutcome lib.toListenerLibrary name' gw' = some (some service) := by
 obtain ⟨name',service,hsr⟩ := ((hfix order hor).bound addr).mpr ⟨name,gw,hg,ha⟩
 rcases reconcile_serves_cases hor hsr with
  h | ⟨gw',han,hg',hv,ht,hse,hl⟩
 · exact absurd ⟨name',service,h⟩ hr
 · obtain ⟨bound,hb⟩ := exists_bindAddr_of_startListener ht
   have hp := port_ne_zero_of_atFixpoint hs hfix hg' (wantedAddr_of_bindAddr hb)
   have ha' : bindAddr lib.toListenerLibrary gw' = some addr :=
    (localAddr_eq_bindAddr hp).symm.trans hl
   have hsa := (bindAddr_port ha').symm.trans (wantedAddr_port ha)
   exact ⟨name',gw',service,hsr,⟨hg',hv,by simp [startOutcome,ht]⟩,
    UInt32.toNat_inj.mp hsa,ha',by simp [startOutcome,ht,hse]⟩

lemma bindAddr_of_canStart {nam' : String} {gw' : GatewayState}
  (hg : gws.find? name = some gw) (ha : lib.wantedAddr gw = some addr)
  (hr : ¬ ∃ nam' service, Remains s gws nam' service addr)
  (hc : CanStart lib.toListenerLibrary s gws nam' gw') (hsa : gw'.port = gw.port) :
  bindAddr lib.toListenerLibrary gw' = some addr ∧
   ∃ service, startOutcome lib.toListenerLibrary nam' gw' = some (some service) := by
 have hp : gw'.port ≠ 0 := hsa ▸ port_ne_zero_of_atFixpoint hs hfix hg ha
 obtain ⟨order,han,horder,ht,-,ho⟩ := hc.exists_order hp
 obtain ⟨name₁,gw₁,service,hse,hcan₁,hsame₁,haddr₁,hout₁⟩ :=
  exists_started_of_atFixpoint hs hfix horder hg ha hr
 obtain ⟨h₁,hf,-⟩ := hse
 obtain rfl := ho name₁ h₁ gw₁ hcan₁.1 (hsame₁.trans hsa.symm) hcan₁.2.1.1
  (find?_reconcileListeners.mp hf).1
 obtain rfl := mem_unique hc.1 hcan₁.1
 exact ⟨haddr₁,service,hout₁⟩

lemma exists_tcp_of_atFixpoint (hc : CanStart lib.toListenerLibrary s gws name gw)
  (hu : gw.protocol = "UDP") :
  ∃ name' gw', gws.find? name' = some gw' ∧ gw'.port = gw.port ∧ gw'.protocol = "TCP" := by
 obtain ⟨addr,ha⟩ := hc.exists_bindAddr
 have hp := port_ne_zero_of_atFixpoint hs hfix hc.1 (wantedAddr_of_bindAddr ha)
 obtain ⟨order,han,horder,hst,hf,-⟩ := hc.exists_order hp
 have hse : han.service = some (.l4 name) := by
  obtain ⟨bound,-,hl⟩ := bind_eq_some_iff.mp hst
  simp [hu,startL4Listener,openHost] at hl
  simp [← hl]
 have hr := reconcile_serves_of_started horder hc.1 hc.2.1.1 hf hse
  ((localAddr_eq_bindAddr hp).trans ha)
 obtain ⟨name',gw',hg',hp',has⟩ := (hfix order horder).serves _ _ _ hr
 cases has with
 | tcp ht => exact ⟨name',gw',hg',UInt32.toNat_inj.mp (hp'.trans (bindAddr_port ha)),ht⟩

lemma settles_of_atFixpoint : Settles lib s gws := by
 have hf := hfix _ (List.Perm.refl _)
 constructor
 · intro name service addr hr
   have hse : (reconcile lib.toListenerLibrary openHost gws gws.pairs s).Serves
     name service addr := reconcile_serves_of_remains (List.Perm.refl _) hr
   exact ⟨(hf.bound addr).mp ⟨name,service,hse⟩,hf.serves name service addr hse⟩
 · intro name gw addr hg ha
   by_cases hr : ∃ name' service, Remains s gws name' service addr
   · exact .inl hr
   · obtain ⟨name',gw',-,-,hc,hsa,-,-⟩ :=
      exists_started_of_atFixpoint hs hfix (List.Perm.refl _) hg ha hr
     exact .inr ⟨port_ne_zero_of_atFixpoint hs hfix hg ha,⟨name',gw',hc,hsa⟩,
      fun _ _ => bindAddr_of_canStart hs hfix hg ha hr⟩
 · intro name gw hc hu
   exact exists_tcp_of_atFixpoint hs hfix hc hu

end

end

theorem reconcile_listeners_fixpoint_iff (lib : AddressLibrary) {s : ManagerState}
  (hs : (managerSystem lib.toListenerLibrary).Reachable s)
  (gateways : KeyedMap String GatewayState) :
  (∀ (host : Host) (order : List (String × GatewayState)), host.BindsAll →
   order.Perm gateways.pairs →
   AtFixpoint lib gateways (reconcile lib.toListenerLibrary host gateways order s)) ↔
  Settles lib s gateways :=
 ⟨fun h => settles_of_atFixpoint hs fun order => h openHost order openHost_bindsAll,
  fun h _ _ hb horder => atFixpoint_of_settles hs h hb horder⟩

def colonLibrary : AddressLibrary where
 parseAddr _ := none
 parseHost text := if ':' ∈ text.toList then none else some text
 parseHost_any := by decide
 buildsTls _ := true
 buildsQuic _ := true
 parseIpv6 text := if ':' ∈ text.toList then some text else none
 parseIpv6_any := by decide
 parseHost_of_ipv6 text h := by
  split_ifs at h ⊢
  · rfl
  · cases h

def httpGateway (name bindAddress : String) (port : UInt32) : GatewayState :=
 ⟨name,bindAddress,port,"HTTP",none,[]⟩

def gatewaysOf (gateways : List GatewayState) : KeyedMap String GatewayState :=
 gateways.foldl (fun m gw => m.set gw.name gw) ∅

theorem first_gateway_settles : (managerSystem colonLibrary.toListenerLibrary).Reachable {} ∧
      ∀ (host : Host) (order : List (String × GatewayState)), host.BindsAll →
       order.Perm (gatewaysOf [httpGateway "web" "0.0.0.0" 80]).pairs →
       AtFixpoint colonLibrary (gatewaysOf [httpGateway "web" "0.0.0.0" 80])
        (reconcile colonLibrary.toListenerLibrary host
         (gatewaysOf [httpGateway "web" "0.0.0.0" 80]) order {}) := by
 have hs : (managerSystem colonLibrary.toListenerLibrary).Reachable {} := .start rfl
 refine ⟨hs,(reconcile_listeners_fixpoint_iff colonLibrary hs _).mpr ?_⟩
 have hf : ∀ {name gw}, (gatewaysOf [httpGateway "web" "0.0.0.0" 80]).find? name = some gw →
   name = "web" ∧ gw = httpGateway "web" "0.0.0.0" 80 := by
  intro name gw h
  by_cases hn : name = "web"
  · subst hn
    exact ⟨rfl,(Option.some.inj h).symm⟩
  · have ho : (gatewaysOf [httpGateway "web" "0.0.0.0" 80]).find? name = none :=
     find?_set_ne ∅ _ hn
    exact absurd (ho.symm.trans h) (by simp)
 have hv : ∀ name port, Vacant (∅ : Listeners) name port :=
  fun name port => ⟨rfl,fun name' h hr => by cases hr⟩
 constructor
 · rintro name service addr ⟨⟨h,hr,-⟩,-⟩
   cases hr
 · intro name gw addr hg ha
   obtain ⟨rfl,rfl⟩ := hf hg
   have hb : bindAddr colonLibrary.toListenerLibrary (httpGateway "web" "0.0.0.0" 80) =
     some ("0.0.0.0",80) := by decide
   obtain rfl := mem_unique (wantedAddr_of_bindAddr hb) ha
   refine .inr ⟨by decide,⟨_,_,⟨hg,hv _ _,rfl⟩,rfl⟩,?_⟩
   intro name' gw' hc _
   obtain ⟨rfl,rfl⟩ := hf hc.1
   exact ⟨hb,_,rfl⟩
 · intro name gw hc hu
   obtain ⟨rfl,rfl⟩ := hf hc.1
   exact absurd hu (by decide)

def movedGateways : KeyedMap String GatewayState :=
 gatewaysOf [httpGateway "web" "0.0.0.0" 8080,httpGateway "all" "" 443]

def beforeMove : ManagerState :=
 reconcile colonLibrary.toListenerLibrary openHost (gatewaysOf [httpGateway "web" "0.0.0.0" 80])
  (gatewaysOf [httpGateway "web" "0.0.0.0" 80]).pairs {}

def afterMove : ManagerState :=
 reconcile colonLibrary.toListenerLibrary openHost movedGateways movedGateways.pairs beforeMove

/-- Nothing is bound but the socket of the old configuration. -/
theorem moved_gateway_keeps_old_socket :
  (managerSystem colonLibrary.toListenerLibrary).Reachable beforeMove ∧ openHost.BindsAll ∧
   afterMove.Serves "web" (.http none) ("0.0.0.0",80) ∧
   (∀ name service addr, afterMove.Serves name service addr → addr = ("0.0.0.0",80)) ∧
   colonLibrary.wantedAddr (httpGateway "web" "0.0.0.0" 8080) = some ("0.0.0.0",8080) ∧
   colonLibrary.wantedAddr (httpGateway "all" "" 443) = some ("::",443) ∧
   ¬ AtFixpoint colonLibrary movedGateways afterMove := by
 have hc : (managerSystem colonLibrary.toListenerLibrary).Reachable beforeMove :=
  .next (.start rfl) ⟨openHost,_,openHost_bindsAll.freePort,List.Perm.refl _,rfl⟩
 have hl : afterMove.listeners = (∅ : Listeners).set "web" ⟨80,some (.http none)⟩ := rfl
 have ho : ∀ name service addr, afterMove.Serves name service addr → addr = ("0.0.0.0",80) := by
  rintro name service addr ⟨h,hr,-,rfl⟩
  rcases find?_set_eq_some_iff.mp hr with ⟨rfl,-⟩ | ⟨-,hr⟩
  · rfl
  · cases hr
 have hw : colonLibrary.wantedAddr (httpGateway "all" "" 443) = some ("::",443) := by decide
 refine ⟨hc,openHost_bindsAll,⟨_,rfl,rfl,rfl⟩,ho,by decide,hw,fun hfix => ?_⟩
 obtain ⟨name,service,hse⟩ := (hfix.bound _).mpr ⟨"all",_,rfl,hw⟩
 exact absurd (ho name service _ hse) (by decide)

/-- A gateway without an address or with one of IPv6 is never served, as the manager writes no
brackets. -/
theorem ipv6_gateway_never_served (lib : AddressLibrary) (name : String) {s : ManagerState}
  (hs : ((managerSystem lib.toListenerLibrary).restrict fun _ gateways =>
   ∀ gw, gateways.find? name = some gw → (lib.parseIpv6 (hostText gw)).isSome).Reachable s)
  (service : Service) (addr : SocketAddr) : ¬ s.Serves name service addr := by
 induction hs with
 | start hn =>
  rintro ⟨h,hf,-⟩
  rw [show _ = _ from hn] at hf
  cases hf
 | next _ ht ih =>
  obtain ⟨⟨host,order,-,horder,rfl⟩,hv⟩ := ht
  intro hse
  rcases reconcile_serves_cases horder hse with hr | ⟨gw,-,hg,-,-,-,ha⟩
  · exact ih hr.1
  · obtain ⟨bound,hb,rfl⟩ := map_eq_some_iff.mp ha
    have hp := (bindAddr_eq_some_iff.mp hb).2.1
    simp [lib.parseHost_of_ipv6 _ (hv gw hg)] at hp

theorem unset_address_never_served : ¬ (reconcile colonLibrary.toListenerLibrary openHost
   movedGateways movedGateways.pairs {}).Serves "all" (.http none) ("::",443) :=
 ipv6_gateway_never_served colonLibrary "all" (.next (.start rfl)
  ⟨⟨openHost,_,openHost_bindsAll.freePort,.refl _,rfl⟩,fun _ h => by cases h; rfl⟩) _ _

end NovaEdge.Dataplane
