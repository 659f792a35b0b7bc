import NovaEdge.MeshServiceTable
import NovaEdge.TransitionSystem

/-! The two ways in which the mesh agent proxies a connection, tunnel requests of peers and
connections intercepted on the node, and the authorization that is to precede them. -/
namespace NovaEdge.Mesh
open List

structure Url where
 (scheme host path : String)

/-- Library functions of the agent: URL parsing, glob matching (which can fail on the pattern) and
comparison up to case. -/
structure MeshLibrary where
 parseUrl : String → Option Url
 pathMatch : String → String → Option Bool
 equalFold : String → String → Bool

structure SourceIdentity where
 (spiffeID trustDomain ns serviceAccount federationID clusterName nodeName : String := "")

def pathSegments (path : String) : List String :=
 let chars := match path.toList with
  | '/' :: rest => rest
  | chars => chars
 (chars.splitOn '/').map String.ofList

/-- The empty identity if the text is not a SPIFFE ID; an unknown path keeps the trust domain. -/
def parseSPIFFEID (lib : MeshLibrary) (spiffeID : String) : SourceIdentity :=
 match lib.parseUrl spiffeID with
 | none => {}
 | some u =>
  if u.scheme ≠ "spiffe" ∨ u.host = "" then {}
  else
   let identity : SourceIdentity := { spiffeID := spiffeID, trustDomain := u.host }
   match pathSegments u.path with
   | ["ns",ns,"sa",sa] => { identity with ns := ns, serviceAccount := sa }
   | ["cluster",cluster,"agent",node] =>
    { identity with federationID := u.host, clusterName := cluster, nodeName := node }
   | "agent" :: node::_ => { identity with nodeName := node }
   | _ => identity

def SourceIdentity.isFederated (si : SourceIdentity) : Bool :=
 si.federationID ≠ "" && si.clusterName ≠ ""

structure FederationConfig where
 (federationID clusterName : String := "")
 allowedClusters : List String := []

def FederationConfig.isActive (fc : FederationConfig) : Bool :=
 fc.federationID ≠ "" && fc.clusterName ≠ ""

def FederationConfig.isClusterAllowed (fc : FederationConfig) (clusterName : String) : Bool :=
 fc.isActive && fc.allowedClusters.contains clusterName

structure TLSProvider where
 trustDomain : String := "cluster.local"
 fedCfg : Option FederationConfig := none

def TLSProvider.validatePeerSPIFFEID (p : TLSProvider) (lib : MeshLibrary) (spiffeID : String) :
  Bool :=
 if spiffeID = "" then false
 else
  let identity := parseSPIFFEID lib spiffeID
  if identity.spiffeID = "" then false
  else if identity.isFederated then
   p.fedCfg.any fun fed => fed.isActive && identity.federationID = fed.federationID &&
    fed.isClusterAllowed identity.clusterName
  else identity.trustDomain = p.trustDomain

structure CertificateUri where
 (scheme text : String)

abbrev ConnectionState := List (List CertificateUri)

def peerSPIFFEID : Option ConnectionState → String
 | some (leaf::_) => ((leaf.find? fun uri => uri.scheme = "spiffe").map (·.text)).getD ""
 | _ => ""

structure MeshSource where
 (namespaces serviceAccounts spiffeIds : List String := [])

structure MeshDestination where
 (methods paths : List String := [])

structure MeshAuthorizationRule where
 sources : List MeshSource := []
 destinations : List MeshDestination := []

structure MeshAuthorizationPolicy where
 (name targetService targetNamespace : String := "")
 rules : List MeshAuthorizationRule := []
 action : String := ""

section
variable (lib : MeshLibrary)

def matchAnyPattern (patterns : List String) (s : String) : Bool :=
 patterns.any fun pattern => lib.pathMatch pattern s = some true

def matchSource (src : MeshSource) (source : SourceIdentity) : Bool :=
 (src.namespaces.isEmpty || src.namespaces.contains source.ns) &&
 (src.serviceAccounts.isEmpty || src.serviceAccounts.contains source.serviceAccount) &&
 (src.spiffeIds.isEmpty || matchAnyPattern lib src.spiffeIds source.spiffeID)

/-- Opaque TCP, without method and path, does not match a destination with any of them. -/
def matchDestination (dst : MeshDestination) (method requestPath : String) : Bool :=
 if method = "" ∧ requestPath = "" ∧ (dst.methods ≠ [] ∨ dst.paths ≠ []) then false
 else (dst.methods.isEmpty || dst.methods.any fun m => lib.equalFold m method) &&
  (dst.paths.isEmpty || matchAnyPattern lib dst.paths requestPath)

def matchRule (rule : MeshAuthorizationRule) (source : SourceIdentity)
  (method requestPath : String) : Bool :=
 (rule.sources.isEmpty || rule.sources.any fun src => matchSource lib src source) &&
 (rule.destinations.isEmpty ||
  rule.destinations.any fun dst => matchDestination lib dst method requestPath)

abbrev Authorizer := KeyedMap String (List MeshAuthorizationPolicy)

def serviceKey (name ns : String) : String := name ++ "." ++ ns

def Authorizer.updatePolicies (policies : List MeshAuthorizationPolicy) : Authorizer :=
 policies.foldl (fun acc p =>
  let key := serviceKey p.targetService p.targetNamespace
  acc.set key (((KeyedMap.find? acc key).getD []) ++ [p])) ∅

/-- A matching deny rule comes first; once there are allow policies, one has to match. -/
def Authorizer.authorize (a : Authorizer) (source : SourceIdentity)
  (destService method requestPath : String) : Bool :=
 let policies := (KeyedMap.find? a destService).getD []
 let matched := fun action (p : MeshAuthorizationPolicy) =>
  lib.equalFold p.action action && p.rules.any fun r => matchRule lib r source method requestPath
 if policies = [] then true
 else if policies.any (matched "DENY") then false
 else if policies.any fun p => lib.equalFold p.action "ALLOW" then policies.any (matched "ALLOW")
 else true

end

abbrev Network := String → Option String

inductive MeshEvent
 | authorize (source : SourceIdentity) (destService method path : String) (allowed : Bool)
 | copy (addr : String)

def joinHostPort (host : String) (port : ℤ) : String :=
 if ':' ∈ host.toList then "[" ++ host ++ "]:" ++ toString port else host ++ ":" ++ toString port

structure ConnectRequest where
 method : String := "CONNECT"
 host : String
 path : String := ""
 tls : Option ConnectionState := none
 destService : String := ""

structure TunnelServer where
 authorizer : Option Authorizer
 tlsProvider : Option TLSProvider

def openTunnel (net : Network) (r : ConnectRequest) : List MeshEvent × ℕ :=
 match net r.host with
 | some addr => ([.copy addr],200)
 | none => ([],502)

def TunnelServer.handleConnect (ts : TunnelServer) (lib : MeshLibrary) (net : Network)
  (r : ConnectRequest) : List MeshEvent × ℕ :=
 if r.method ≠ "CONNECT" then ([],405)
 else
  let sourceID := peerSPIFFEID r.tls
  if ts.tlsProvider.any fun p => sourceID ≠ "" && !p.validatePeerSPIFFEID lib sourceID then
   ([],403)
  else match ts.authorizer with
   | none => openTunnel net r
   | some a =>
    let source := parseSPIFFEID lib sourceID
    let allowed := a.authorize lib source r.destService r.method r.path
    let asked := MeshEvent.authorize source r.destService r.method r.path allowed
    if allowed then (asked::(openTunnel net r).1,(openTunnel net r).2) else ([asked],403)

def proxyTCP (net : Network) (host : String) (port : ℤ) : List MeshEvent :=
 ((net (joinHostPort host port)).map MeshEvent.copy).toList

structure Agent where
 services : List InternalService := []
 table : ServiceTable := ∅
 authorizer : Authorizer := ∅
 tlsProvider : TLSProvider := {}

def Agent.dialled (a : Agent) (ip : String) (port : ℤ) : String × ℤ :=
 match (a.table.lookup ip port).1 with
 | some ep => (ep.address,ep.port.toInt)
 | none => (ip,port)

def Agent.handleConn (a : Agent) (net : Network) (ip : String) (port : ℤ) :
  List MeshEvent × Agent :=
 (proxyTCP net (a.dialled ip port).1 (a.dialled ip port).2,
  { a with table := (a.table.lookup ip port).2 })

/-- Policies that are not given stay, as do all of them if the interception rules cannot be
applied. -/
def Agent.applyConfig (a : Agent) (services : List InternalService)
  (policies : Option (List MeshAuthorizationPolicy)) (rulesApplied : Bool) : Agent :=
 { a with
   services := services
   table := ServiceTable.update services
   authorizer := match rulesApplied, policies with
    | true, some policies => Authorizer.updatePolicies policies
    | _, _ => a.authorizer }

inductive Connection
 | tunnel (r : ConnectRequest)
 | intercepted (ip : String) (port : ℤ)

def Agent.tunnelServer (a : Agent) : TunnelServer := ⟨some a.authorizer,some a.tlsProvider⟩

section
variable (lib : MeshLibrary) (a : Agent) (net : Network)

def Agent.events : Connection → List MeshEvent
 | .tunnel r => (a.tunnelServer.handleConnect lib net r).1
 | .intercepted ip port => (a.handleConn net ip port).1

/-- The SPIFFE ID of the peer's certificate, if the agent accepts it. An intercepted connection
has no peer certificate. -/
def Agent.verifiedPeer : Connection → Option String
 | .tunnel r =>
  if a.tlsProvider.validatePeerSPIFFEID lib (peerSPIFFEID r.tls) then some (peerSPIFFEID r.tls)
  else none
 | .intercepted _ _ => none

def InternalService.hasEndpoint (svc : InternalService) (addr : String) : Bool :=
 svc.endpoints.any fun ep => joinHostPort ep.address ep.port.toInt = addr

def Agent.AuthorizesCopies (c : Connection) : Prop :=
 ∀ before addr after, a.events lib net c = before ++ MeshEvent.copy addr::after →
  ∀ svc ∈ a.services, svc.hasEndpoint addr = true →
   ∃ id method path, a.verifiedPeer lib c = some id ∧
    MeshEvent.authorize (parseSPIFFEID lib id) (serviceKey svc.name svc.ns) method path true ∈
     before

def Agent.admits (r : ConnectRequest) : Bool := r.method = "CONNECT" &&
 (peerSPIFFEID r.tls = "" || a.tlsProvider.validatePeerSPIFFEID lib (peerSPIFFEID r.tls)) &&
 a.authorizer.authorize lib (parseSPIFFEID lib (peerSPIFFEID r.tls)) r.destService r.method r.path

/-- The tunnel names every service of its endpoint; an interception reaches no endpoint of one. -/
def Agent.NamesServices : Connection → Prop
 | .tunnel r => a.admits lib r = true → ∀ addr, net r.host = some addr →
   ∀ svc ∈ a.services, svc.hasEndpoint addr = true →
    a.tlsProvider.validatePeerSPIFFEID lib (peerSPIFFEID r.tls) = true ∧
     r.destService = serviceKey svc.name svc.ns
 | .intercepted ip port => ∀ addr,
   net (joinHostPort (a.dialled ip port).1 (a.dialled ip port).2) = some addr →
    ∀ svc ∈ a.services, svc.hasEndpoint addr = false

end

attribute [local simp] Agent.tunnelServer

section
variable {lib : MeshLibrary} {a : Agent} {net : Network}

lemma events_tunnel (r : ConnectRequest) : a.events lib net (.tunnel r) =
      if r.method = "CONNECT" ∧ (peerSPIFFEID r.tls = "" ∨
        a.tlsProvider.validatePeerSPIFFEID lib (peerSPIFFEID r.tls) = true) then
       .authorize (parseSPIFFEID lib (peerSPIFFEID r.tls)) r.destService r.method r.path
         (a.admits lib r)::if a.admits lib r then (openTunnel net r).1 else []
      else [] := by
 unfold Agent.events TunnelServer.handleConnect Agent.admits
 by_cases hm : r.method = "CONNECT"
 · by_cases hp : peerSPIFFEID r.tls = ""
   · by_cases ha : a.authorizer.authorize lib (parseSPIFFEID lib "") r.destService "CONNECT" r.path
     · simp [hm,hp,ha]
     · simp [hm,hp,ha]
   · by_cases hv : a.tlsProvider.validatePeerSPIFFEID lib (peerSPIFFEID r.tls)
     · by_cases ha : a.authorizer.authorize lib (parseSPIFFEID lib (peerSPIFFEID r.tls))
         r.destService "CONNECT" r.path
       · simp [hm,hp,hv,ha]
       · simp [hm,hp,hv,ha]
     · simp [hm,hp,hv]
 · simp [hm]

lemma events_tunnel_of_admits {r : ConnectRequest} (h : a.admits lib r = true) :
  a.events lib net (.tunnel r) =
   .authorize (parseSPIFFEID lib (peerSPIFFEID r.tls)) r.destService r.method r.path true ::
    (openTunnel net r).1 := by
 have hc : r.method = "CONNECT" ∧ (peerSPIFFEID r.tls = "" ∨
   a.tlsProvider.validatePeerSPIFFEID lib (peerSPIFFEID r.tls) = true) := by
  simp only [Agent.admits,Bool.and_eq_true,Bool.or_eq_true,decide_eq_true_eq] at h
  exact h.1
 rw [events_tunnel,if_pos hc,h,if_pos rfl]

lemma copy_mem_tunnel {r : ConnectRequest} {addr : String}
  (h : MeshEvent.copy addr ∈ a.events lib net (.tunnel r)) :
  a.admits lib r = true ∧ net r.host = some addr := by
 rw [events_tunnel] at h
 split_ifs at h with hc ha
 · refine ⟨ha,?_⟩
   have ho : MeshEvent.copy addr ∈ (openTunnel net r).1 := by simpa using h
   unfold openTunnel at ho
   split at ho
   · rename_i addr' hn
     simp only [mem_singleton,MeshEvent.copy.injEq] at ho
     rw [hn,ho]
   · simp at ho
 · simp at h
 · simp at h

lemma authorizesCopies_tunnel_iff (r : ConnectRequest) :
  a.AuthorizesCopies lib net (.tunnel r) ↔ a.NamesServices lib net (.tunnel r) := by
 constructor
 · intro h ha addr hn svc hsv hen
   have hv := @events_tunnel_of_admits lib a net r ha
   simp only [openTunnel,hn] at hv
   obtain ⟨id,method,path,hid,hm⟩ := h [_] addr [] hv svc hsv hen
   simp only [Agent.verifiedPeer] at hid
   split_ifs at hid with hva
   refine ⟨hva,?_⟩
   simp only [mem_singleton,MeshEvent.authorize.injEq] at hm
   exact hm.2.1.symm
 · intro h pre addr post hv svc hsv hen
   obtain ⟨ha,hn⟩ := @copy_mem_tunnel lib a net r addr (by simp [hv])
   obtain ⟨hva,hna⟩ := h ha addr hn svc hsv hen
   rw [events_tunnel_of_admits ha] at hv
   refine ⟨peerSPIFFEID r.tls,r.method,r.path,if_pos hva,?_⟩
   cases pre with
   | nil => simp at hv
   | cons e pre =>
    rw [← hna,← (List.cons.inj hv).1]
    exact mem_cons_self

lemma authorizesCopies_intercepted_iff (ip : String) (port : ℤ) :
  a.AuthorizesCopies lib net (.intercepted ip port) ↔
   a.NamesServices lib net (.intercepted ip port) := by
 constructor
 · intro h addr hn svc hv
   have hev : a.events lib net (.intercepted ip port) = [] ++ MeshEvent.copy addr::[] := by
    simp [Agent.events,Agent.handleConn,proxyTCP,hn]
   by_contra hen
   obtain ⟨id,_,_,hid,-⟩ := h [] addr [] hev svc hv (by simpa using hen)
   simp [Agent.verifiedPeer] at hid
 · intro h pre addr post hev svc hv hen
   have hm : MeshEvent.copy addr ∈ a.events lib net (.intercepted ip port) := by simp [hev]
   have hn : net (joinHostPort (a.dialled ip port).1 (a.dialled ip port).2) = some addr := by
    simpa [Agent.events,Agent.handleConn,proxyTCP] using hm
   rw [h addr hn svc hv] at hen
   contradiction

end

/-- A connection is authorized before anything is copied exactly if it names the services that it
reaches. -/
theorem mesh_copies_authorized_iff (lib : MeshLibrary) (a : Agent) (net : Network)
  (c : Connection) : a.AuthorizesCopies lib net c ↔ a.NamesServices lib net c := by
 cases c with
 | tunnel r => exact authorizesCopies_tunnel_iff r
 | intercepted ip port => exact authorizesCopies_intercepted_iff ip port

def testWorkload : MeshLibrary where
 parseUrl _ := some ⟨"spiffe","cluster.local","/ns/dev/sa/test"⟩
 pathMatch _ _ := none
 equalFold s t := s = t

def shopAgent : Agent := ({} : Agent).applyConfig
  [{ name := "web", ns := "shop", clusterIp := "10.96.0.10", ports := [{ port := 80 }]
     endpoints := [{ address := "10.0.0.4", port := 8080, ready := true }] },
   { name := "payments", ns := "shop", clusterIp := "10.96.0.20", ports := [{ port := 80 }]
     endpoints := [{ address := "10.0.0.5", port := 8080, ready := true }] }]
  (some [{ targetService := "payments", targetNamespace := "shop", action := "ALLOW"
           rules := [{ sources := [{ namespaces := ["billing"] }] }] }]) true

def mislabelledRequest : ConnectRequest where
 host := "10.0.0.5:8080"
 tls := some [[⟨"spiffe","spiffe://cluster.local/ns/dev/sa/test"⟩]]
 destService := "web.shop"

/-- By naming another service, and by an intercepted connection. -/
theorem payments_reached_without_authorization :
  let source := parseSPIFFEID testWorkload "spiffe://cluster.local/ns/dev/sa/test"
  shopAgent.authorizer.authorize testWorkload source "payments.shop" "CONNECT" "" = false ∧
   shopAgent.events testWorkload some (.tunnel mislabelledRequest) =
    [.authorize source "web.shop" "CONNECT" "" true,.copy "10.0.0.5:8080"] ∧
   shopAgent.events testWorkload some (.intercepted "10.96.0.20" 80) = [.copy "10.0.0.5:8080"] ∧
   (∃ svc ∈ shopAgent.services, svc.name = "payments" ∧
    svc.hasEndpoint "10.0.0.5:8080" = true) ∧
   ¬ shopAgent.AuthorizesCopies testWorkload some (.tunnel mislabelledRequest) ∧
   ¬ shopAgent.AuthorizesCopies testWorkload some (.intercepted "10.96.0.20" 80) := by
 refine ⟨by decide,by rfl,by rfl,⟨_,mem_cons_of_mem _ mem_cons_self,rfl,by decide⟩,fun h => ?_,
  fun h => ?_⟩
 · have hn := (authorizesCopies_tunnel_iff _).mp h (by decide) _ rfl _
    (mem_cons_of_mem _ mem_cons_self) (by decide)
   exact absurd hn.2 (by decide)
 · have hn := (authorizesCopies_intercepted_iff _ _).mp h "10.0.0.5:8080" (by rfl) _
    (mem_cons_of_mem _ mem_cons_self)
   exact absurd hn (by decide)

inductive AgentOp
 | applyConfig (services : List InternalService)
   (policies : Option (List MeshAuthorizationPolicy)) (rulesApplied : Bool)
 | connection (c : Connection)

def Agent.after (a : Agent) (net : Network) : AgentOp → Agent
 | .applyConfig services policies rulesApplied => a.applyConfig services policies rulesApplied
 | .connection (.tunnel _) => a
 | .connection (.intercepted ip port) => (a.handleConn net ip port).2

end NovaEdge.Mesh
