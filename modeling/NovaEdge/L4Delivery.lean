import NovaEdge.ListenerRestrictions

/-! The L4 listeners of a snapshot in the dataplane. The request that replaces the configuration
carries them, beside the gateways, and the control interface can also set them one by one. -/
namespace NovaEdge.Dataplane
open Translator KeyedMap List

def IsL4Listener (l : Config.L4Listener) : Prop :=
 l.protocol = .tcp ∨ l.protocol = .udp ∨ l.protocol = .tls

def l4Backends (l : Config.L4Listener) : List Config.Endpoint :=
 l.backends ++ l.tlsRoutes.flatMap Config.L4TLSRoute.backends ++
  l.defaultTlsBackend.toList.flatMap Config.L4TLSRoute.backends

namespace RuntimeConfig

def upsertGateway (cfg : RuntimeConfig) (gw : GatewayState) : RuntimeConfig :=
 { cfg with gateways := cfg.gateways.set gw.name gw }

/-- Whatever the protocol of the listener is, its gateway is one for TCP. -/
def upsertL4Listener (cfg : RuntimeConfig) (l : Proto.L4ListenerConfig) : RuntimeConfig :=
 cfg.upsertGateway
  { name := l.name, bindAddress := l.bindAddress, port := l.port, protocol := "TCP"
    tls := none, hostnames := [] }

end RuntimeConfig

/-- A gateway on its port that stays, and its backends in whatever order routes are iterated. -/
structure L4Delivered (lib : ListenerLibrary) (before after : RuntimeConfig)
  (l : Config.L4Listener) : Prop where
 present : ∃ gw, after.gateways.find? l.name = some gw ∧ gw.port = l.port.toUInt32
 resolves : ∀ routes : List RouteState, routes.Perm after.routes.values →
  ∃ ep ∈ l4Backends l, ∃ addr,
   lib.parseAddr (ep.address ++ ":" ++ toString ep.port.toUInt32) = some addr ∧
    resolveL4Backend lib routes after.clusters l.name = some addr
 kept : (before.gateways.find? l.name).isSome = true → (after.gateways.find? l.name).isSome = true

section
variable {ren : JsonValue → String} {cfg : RuntimeConfig} {now : Instant}
 {snap : Config.ConfigSnapshot}

lemma isSome_find?_gateways_applied_iff {name : String} :
  ((applied ren cfg now snap).gateways.find? name).isSome = true ↔
   ∃ p ∈ listenerKeys snap.gateways, p.1 ++ "/" ++ p.2 = name := by
 have hn : ((translateSnapshot snap).gateways.map gatewayFromProto).map (·.name) =
   (listenerKeys snap.gateways).map fun p => p.1 ++ "/" ++ p.2 := by
  rw [map_map,← names_translateGateways]
  rfl
 rw [← mem_keys_iff]
 change name ∈ (replaceAll (fun gw : GatewayState => gw.name) _ cfg.gateways _).keys ↔ _
 rw [mem_keys_replaceAll,hn,mem_map]

lemma find?_gateways_applied_eq_none {name : String}
  (h : ∀ p ∈ listenerKeys snap.gateways, p.1 ++ "/" ++ p.2 ≠ name) :
  (applied ren cfg now snap).gateways.find? name = none := by
 rw [← not_isSome_iff_eq_none,isSome_find?_gateways_applied_iff]
 intro hx
 obtain ⟨p,hp,hn⟩ := hx
 exact h p hp hn

lemma gatewayRef_of_mem_translateRoutes {dp : Proto.RouteConfig} {rts : List Config.Route}
  (h : dp ∈ translateRoutes rts) : dp.gatewayRef = "" := by
 obtain ⟨rt,-,hr⟩ := mem_flatMap.mp h
 obtain ⟨⟨rule,i⟩,-,hp⟩ := mem_flatMap.mp hr
 obtain ⟨name,m,-,rfl⟩ := mem_translateRouteRule hp
 obtain ⟨_,_,_,_,hf⟩ := translateRouteMatch_frame rt name rule (middlewareNames rt) m
 rw [hf,matchedRoute]

lemma gatewayRef_of_mem_applied {r : RouteState}
  (h : r ∈ (applied ren cfg now snap).routes.values) : r.gatewayRef = "" := by
 obtain ⟨name,hn⟩ := mem_values_iff.mp h
 change (replaceAll (fun r : RouteState => r.name) (fun _ r => r) cfg.routes _).find? name
  = some r at hn
 rw [find?_replaceAll_last] at hn
 obtain ⟨hm,-⟩ := mem_filter.mp (mem_of_getLast? hn)
 obtain ⟨dp,hp,rfl⟩ := mem_map.mp hm
 exact gatewayRef_of_mem_translateRoutes hp

lemma name_eq_of_resolveL4Backend {lib : ListenerLibrary} {rts : List RouteState}
  (hr : rts.Perm (applied ren cfg now snap).routes.values)
  {cls : KeyedMap String ClusterState} {name : String} {addr : SocketAddr}
  (h : resolveL4Backend lib rts cls name = some addr) : name = "" := by
 obtain ⟨rt,ho,-⟩ := bind_eq_some_iff.mp h
 have hm := hr.mem_iff.mp (mem_of_find?_eq_some ho)
 have hn : rt.gatewayRef = name := by simpa using find?_some ho
 rw [← hn,gatewayRef_of_mem_applied hm]

/-- Names of gateways have a slash, and routes are found for the empty name only. -/
lemma not_l4Delivered (lib : ListenerLibrary) (l : Config.L4Listener) :
  ¬ L4Delivered lib cfg (applied ren cfg now snap) l := by
 intro h
 obtain ⟨gw,hg,-⟩ := h.present
 obtain ⟨ep,-,addr,-,ha⟩ := h.resolves _ (.refl _)
 have hn := name_eq_of_resolveL4Backend (.refl _) ha
 obtain ⟨p,-,hp⟩ := isSome_find?_gateways_applied_iff.mp (isSome_of_eq_some hg)
 have hl : '/' ∈ (p.1 ++ "/" ++ p.2).toList := by simp
 rw [hp,hn] at hl
 simp at hl

end

theorem l4_listeners_delivered_iff (lib : ListenerLibrary) (render : JsonValue → String)
  (cfg : RuntimeConfig) (now : Instant) (snap : Config.ConfigSnapshot) :
  (∀ l ∈ snap.l4Listeners, IsL4Listener l → L4Delivered lib cfg (applied render cfg now snap) l) ↔
    ∀ l ∈ snap.l4Listeners, ¬ IsL4Listener l := by
 constructor
 · intro h l hl h4
   exact not_l4Delivered lib l (h l hl h4)
 · intro h l hl h4
   exact absurd h4 (h l hl)

def dbEndpoint : Config.Endpoint where
 address := "10.0.0.7"
 port := 5432
 ready := true

def dbListener : Config.L4Listener where
 name := "shop-edge-db"
 port := 5432
 protocol := .tcp
 backendName := "db"
 backends := [dbEndpoint]

def dbSnapshot : Config.ConfigSnapshot where
 gateways := [{ name := "edge",ns := "shop"
                listeners := [{ name := "db",port := 5432,protocol := .tcp }] }]
 routes := [{ name := "db",ns := "shop",rules := [{ backendRefs := [{ name := "db" }] }] }]
 clusters := [{ name := "db",ns := "shop" }]
 endpoints := (∅ : KeyedMap String (List Config.Endpoint)).set "shop/db" [dbEndpoint]
 l4Listeners := [dbListener]

/-- The listener can be set by itself, but a request leaves no gateway of its name. -/
theorem l4_listener_is_dropped :
  (translateSnapshot dbSnapshot).l4Listeners.map (fun l => (l.name,l.port)) =
    [("shop-edge-db",5432)] ∧
   (({} : RuntimeConfig).upsertL4Listener (translateL4Listener dbListener)).gateways.find?
    "shop-edge-db" ≠ none ∧
   ∀ lib render now cfg,
    (applied render cfg now dbSnapshot).gateways.find? "shop-edge-db" = none ∧
     ∀ name ∈ ["shop-edge-db","edge/db"],
      resolveL4Backend lib (applied render cfg now dbSnapshot).routes.values
       (applied render cfg now dbSnapshot).clusters name = none := by
 refine ⟨rfl,?_,?_⟩
 · have hse : (({} : RuntimeConfig).upsertL4Listener
     (translateL4Listener dbListener)).gateways.find? "shop-edge-db" = some _ :=
    find?_set_self _ _ _
   exact some_ne_none _
 · intro lib render now cfg
   refine ⟨find?_gateways_applied_eq_none (by decide),?_⟩
   intro name hn
   have hne : name ≠ "" := by
    intro hm
    subst hm
    simp at hn
   rw [Option.eq_none_iff_forall_ne_some]
   intro addr ha
   exact hne (name_eq_of_resolveL4Backend (.refl _) ha)

/-- One to three digits, without a zero in front, for a number of one byte. -/
def isOctet (digits : List Char) : Bool :=
 digits.all Char.isDigit && digits ∈ (range 256).map (Nat.toDigits 10)

def isIpv4Text (host : List Char) : Bool :=
 (host.splitOn '.').length = 4 && (host.splitOn '.').all isOctet

section
variable (ipv6 : String → Option String)

/-- Before a port stands an IPv4 text, or an IPv6 text in brackets. -/
def bracketedHost (host : List Char) : Option String :=
 if isIpv4Text host then some (String.ofList host)
 else match host with
 | '[' :: rest => if rest.getLast? = some ']' then ipv6 (String.ofList rest.dropLast) else none
 | _ => none

/-- The standard library's parser for socket addresses, with its reader for IPv6 texts. -/
def parseSocketAddr (text : String) : Option SocketAddr :=
 match text.toList.reverse.dropWhile Char.isDigit with
 | ':' :: host =>
  let digits := (text.toList.reverse.takeWhile Char.isDigit).reverse
  let port := Nat.ofDigitChars 10 digits 0
  if digits ≠ [] ∧ port < 65536 then (bracketedHost ipv6 host.reverse).map (·,port) else none
 | _ => none

def ListenerLibrary.withSockets (lib : ListenerLibrary) : ListenerLibrary :=
 { lib with parseAddr := parseSocketAddr ipv6 }

def EndpointState.socketAddr (ep : EndpointState) : Option SocketAddr :=
 if ep.port.toNat < 65536 then
  (if isIpv4Text ep.address.toList then some ep.address else ipv6 ep.address).map (·,ep.port.toNat)
 else none

variable (cfg : RuntimeConfig) (gateway : String)

/-- The address of an endpoint in service, of a cluster that a route of the gateway refers to. -/
def InService (addr : SocketAddr) : Prop :=
 ∃ route ∈ cfg.routes.values, route.gatewayRef = gateway ∧ ∃ ref ∈ route.backendRefs,
  ∃ cluster, cfg.clusters.find? ref.1 = some cluster ∧ ∃ ep ∈ cluster.endpoints,
   ep.healthy = true ∧ ep.draining = false ∧ ep.socketAddr ipv6 = some addr

def ResolvesLive (lib : ListenerLibrary) : Prop :=
 ∀ routes : List RouteState, routes.Perm cfg.routes.values →
  (∃ addr, InService ipv6 cfg gateway addr) →
  ∃ addr, resolveL4Backend (lib.withSockets ipv6) routes cfg.clusters gateway = some addr ∧
   InService ipv6 cfg gateway addr

def FirstEndpoint (route : RouteState) (ep : EndpointState) : Prop :=
 ∃ ref cluster, route.backendRefs.head? = some ref ∧ cfg.clusters.find? ref.1 = some cluster ∧
  cluster.endpoints.head? = some ep

def EndpointState.LiveIpv4 (ep : EndpointState) : Prop :=
 ep.healthy = true ∧ ep.draining = false ∧ isIpv4Text ep.address.toList = true ∧
  ep.port.toNat < 65536

/-- Not live itself, but written like another endpoint that is in service. -/
def EndpointState.StandsFor (ep : EndpointState) : Prop :=
 ∃ host, bracketedHost ipv6 ep.address.toList = some host ∧ ep.port.toNat < 65536 ∧
  InService ipv6 cfg gateway (host,ep.port.toNat)

variable {ipv6 cfg gateway}

lemma parseSocketAddr_join (address : String) (port : UInt32) :
  parseSocketAddr ipv6 (address ++ ":" ++ toString port) =
   if port.toNat < 65536 then (bracketedHost ipv6 address.toList).map (·,port.toNat) else none := by
 have hdigits : ∀ c ∈ (Nat.toDigits 10 port.toNat).reverse, c.isDigit = true := fun c hc =>
  Nat.isDigit_of_mem_toDigits (by decide) (by decide) (mem_reverse.mp hc)
 have htext : (address ++ ":" ++ toString port).toList.reverse =
   (Nat.toDigits 10 port.toNat).reverse ++ ':' :: address.toList.reverse := by
  have hp : (toString port).toList = Nat.toDigits 10 port.toNat := by
   change (toString port.toNat).toList = _
   simp [Nat.repr_eq_ofList_toDigits]
  simp [hp]
 have hdrop : ((Nat.toDigits 10 port.toNat).reverse ++ ':' :: address.toList.reverse).dropWhile
   Char.isDigit = ':' :: address.toList.reverse := by
  rw [dropWhile_append_of_pos hdigits,dropWhile_cons_of_neg (by decide)]
 have htake : ((Nat.toDigits 10 port.toNat).reverse ++ ':' :: address.toList.reverse).takeWhile
   Char.isDigit = (Nat.toDigits 10 port.toNat).reverse := by
  rw [takeWhile_append_of_pos hdigits,takeWhile_cons_of_neg (by decide),append_nil]
 simp only [parseSocketAddr,htext,hdrop,htake,reverse_reverse,Nat.ofDigitChars_ten_toDigits,
  ne_eq, Nat.toDigits_ne_nil, not_false_eq_true, true_and]

lemma resolveL4Backend_eq_some_iff {lib : ListenerLibrary} {routes : List RouteState}
  {addr : SocketAddr} :
  resolveL4Backend (lib.withSockets ipv6) routes cfg.clusters gateway = some addr ↔
   ∃ route ep, (routes.find? fun r => r.gatewayRef = gateway) = some route ∧
    FirstEndpoint cfg route ep ∧ ep.port.toNat < 65536 ∧
     ∃ host, bracketedHost ipv6 ep.address.toList = some host ∧ (host,ep.port.toNat) = addr := by
 simp only [resolveL4Backend,ListenerLibrary.withSockets,parseSocketAddr_join,FirstEndpoint,
  Option.bind_eq_bind, bind_eq_some_iff, Option.ite_none_right_eq_some,
  map_eq_some_iff]
 aesop

lemma EndpointState.LiveIpv4.standsFor {route : RouteState} {ep : EndpointState}
  (h : ep.LiveIpv4) (hr : route ∈ cfg.routes.values) (hg : route.gatewayRef = gateway)
  (hf : FirstEndpoint cfg route ep) : ep.StandsFor ipv6 cfg gateway := by
 obtain ⟨ref,cluster,href,hc,hep⟩ := hf
 obtain ⟨hh,hd,hv,hp⟩ := h
 refine ⟨ep.address,by simp [bracketedHost,hv],hp,?_⟩
 exact ⟨route,hr,hg,ref,mem_of_mem_head? href,cluster,hc,ep,mem_of_mem_head? hep,hh,hd,
  by simp [socketAddr,hv,hp]⟩

end

/-- An endpoint in service is found exactly if the first one of every route of the gateway is live and
has an IPv4 address, or is written like one that is live. -/
theorem resolves_live_iff (lib : ListenerLibrary) (ipv6 : String → Option String)
  (cfg : RuntimeConfig) (gateway : String) :
  ResolvesLive ipv6 cfg gateway lib ↔ ((∃ addr, InService ipv6 cfg gateway addr) →
    ∀ route ∈ cfg.routes.values, route.gatewayRef = gateway →
     ∃ ep, FirstEndpoint cfg route ep ∧ (ep.LiveIpv4 ∨ ep.StandsFor ipv6 cfg gateway)) := by
 constructor
 · intro h hl route hr hg
   -- the iteration may begin with this route
   obtain ⟨s,t,ht⟩ := append_of_mem hr
   have hp : (route::(s ++ t)).Perm cfg.routes.values := ht ▸ perm_middle.symm
   obtain ⟨addr,ha,hs⟩ := h _ hp hl
   obtain ⟨route',ep,hf,hfirst,hport,host,hhost,rfl⟩ := resolveL4Backend_eq_some_iff.mp ha
   rw [find?_cons_of_pos (by simpa using hg),Option.some.injEq] at hf
   exact ⟨ep,hf ▸ hfirst,.inr ⟨host,hhost,hport,hs⟩⟩
 · rintro h routes hp ⟨addr,hs⟩
   obtain ⟨route,hr,hg,-⟩ := id hs
   have hi : (routes.find? fun r => r.gatewayRef = gateway).isSome :=
    find?_isSome.mpr ⟨route,hp.mem_iff.mpr hr,by simpa using hg⟩
   obtain ⟨first,hf⟩ := isSome_iff_exists.mp hi
   have hr' : first ∈ cfg.routes.values := hp.mem_iff.mp (mem_of_find?_eq_some hf)
   have hg' : first.gatewayRef = gateway := by simpa using find?_some hf
   obtain ⟨ep,hfirst,hlive⟩ := h ⟨addr,hs⟩ first hr' hg'
   obtain ⟨host,hhost,hport,hs'⟩ : ep.StandsFor ipv6 cfg gateway := by
    rcases hlive with hlive | hlive
    · exact hlive.standsFor hr' hg' hfirst
    · exact hlive
   exact ⟨_,resolveL4Backend_eq_some_iff.mpr ⟨first,ep,hf,hfirst,hport,host,hhost,rfl⟩,hs'⟩

def uniqueLocal (text : String) : Option String := if text = "fd00::1" then some text else none

/-- A healthy endpoint with an IPv6 address is the only one, and it is not found. -/
theorem six_backend_not_resolved :
  let cfg := ({} : RuntimeConfig).applyConfig (fun _ => "") 0
   { routes := [{ name := "db",gatewayRef := "edge",backendRefs := [{ clusterName := "db" }] }]
     clusters := [{ name := "db",endpoints := [{ ip := "fd00::1",port := 5432,healthy := true }] }] }
  InService uniqueLocal cfg "edge" ("fd00::1",5432) ∧
   resolveL4Backend (anyLibrary.withSockets uniqueLocal) cfg.routes.values cfg.clusters "edge" =
    none ∧
   ¬ ResolvesLive uniqueLocal cfg "edge" anyLibrary := by
 intro cfg
 have hs : InService uniqueLocal cfg "edge" ("fd00::1",5432) :=
  ⟨_,mem_values_iff.mpr ⟨"db",rfl⟩,rfl,_,mem_singleton_self _,_,rfl,_,
   mem_singleton_self _,rfl,rfl,by decide +kernel⟩
 have hn : resolveL4Backend (anyLibrary.withSockets uniqueLocal) cfg.routes.values cfg.clusters
   "edge" = none := by
  decide +kernel
 refine ⟨hs,hn,fun h => ?_⟩
 obtain ⟨addr,ha,-⟩ := h _ (.refl _) ⟨_,hs⟩
 contradiction

end NovaEdge.Dataplane
