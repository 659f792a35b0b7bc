import NovaEdge.L4Delivery
import NovaEdge.MeshPolicySync
import NovaEdge.SdwanManager

/-! The agent applies a configuration snapshot: it is sent to the dataplane and then given to the
mesh manager and the SD-WAN manager, if the agent runs them. -/
namespace NovaEdge.Agent
open KeyedMap Dataplane Translator
open Translator (DistinctNames applied)

structure WANLinkSLA where
 (maxLatencyMs maxJitterMs : Int64)
 maxPacketLoss : Float

structure WANLink where
 name : String
 (ns site iface provider bandwidth : String := "")
 cost : Int32 := 0
 role : String := ""
 sla : Option WANLinkSLA := none
 tunnelEndpoint : Option Sdwan.TunnelEndpoint := none

structure WANPolicyMatch where
 (hosts paths : List String := [])
 headers : KeyedMap String String := ∅

structure WANPathSelection where
 strategy : String := ""
 failover : Bool := false
 dscpClass : String := ""

structure WANPolicy where
 name : String
 ns : String := ""
 policyMatch : Option WANPolicyMatch := none
 pathSelection : Option WANPathSelection := none

structure AgentSnapshot extends Config.ConfigSnapshot where
 internalServices : List Mesh.InternalService := []
 meshAuthzPolicies : List Mesh.MeshAuthorizationPolicy := []
 wanLinks : List WANLink := []
 wanPolicies : List WANPolicy := []

def convertWANLinks (wanLinks : List WANLink) : List Sdwan.LinkConfig := wanLinks.map fun wl =>
  { name := wl.name
    site := wl.site
    provider := wl.provider
    role := wl.role
    bandwidth := wl.bandwidth
    cost := wl.cost
    sla := wl.sla.map fun sla =>
     ⟨.ofInt sla.maxLatencyMs.toInt,.ofInt sla.maxJitterMs.toInt,sla.maxPacketLoss⟩
    tunnelEndpoint := wl.tunnelEndpoint }

def convertWANPolicies (wanPolicies : List WANPolicy) : List Sdwan.PolicyConfig :=
 wanPolicies.map fun wp =>
  let selection := wp.pathSelection.getD {}
  let conditions := wp.policyMatch.getD {}
  { name := wp.name
    strategy := selection.strategy
    failover := selection.failover
    dscpClass := selection.dscpClass
    matchHosts := conditions.hosts
    matchPaths := conditions.paths
    matchHeaders := conditions.headers }

structure InterceptTarget where
 clusterIP : String
 port : Int32

def InterceptTarget.key (t : InterceptTarget) : String := t.clusterIP ++ ":" ++ toString t.port.toInt

def interceptTargets (services : List Mesh.InternalService) : List InterceptTarget :=
 (services.filter (·.meshEnabled)).flatMap fun svc =>
  svc.ports.map fun port => ⟨svc.clusterIp,port.port⟩

abbrev Intercepted := KeyedMap String InterceptTarget

def interceptedBy (targets : List InterceptTarget) : Intercepted :=
 upsertAll InterceptTarget.key (fun _ t => t) ∅ targets

structure MeshManager extends Mesh.Manager where
 intercepted : Intercepted := ∅

def MeshManager.applyConfig (m : MeshManager) (call : Mesh.ConfigCall) :
  MeshManager × Option Mesh.ApplyError where
 fst :=
  { toManager := (m.toManager.applyConfig call).1
    intercepted :=
     if m.started && call.rulesApplied then interceptedBy (interceptTargets call.services)
     else m.intercepted }
 snd := (m.toManager.applyConfig call).2

def AgentSnapshot.meshCall (snapshot : AgentSnapshot) (rulesApplied : Bool) : Mesh.ConfigCall where
 services := snapshot.internalServices
 policies := match snapshot.meshAuthzPolicies with
  | [] => none
  | policies => some policies
 rulesApplied := rulesApplied

inductive SyncOutcome
 | unreached
 | answerLost
 | rejected (message : String)
 | applied

inductive SyncError
 | callFailed
 | rejected (message : String)

structure Outcome where
 sync : SyncOutcome
 now : Dataplane.Instant := 0
 rulesApplied : Bool := true

structure Components where
 dataplane : RuntimeConfig := {}
 mesh : Option MeshManager := none
 sdwan : Option Sdwan.Manager := none
 snapshotHolder : Option AgentSnapshot := none
 (healthReady adminReady : Bool := false)
 adminSnapshot : Option AgentSnapshot := none

section
variable (render : JsonValue → String)

def sync (dataplane : RuntimeConfig) (outcome : Outcome) (snapshot : AgentSnapshot) :
  RuntimeConfig × Option SyncError :=
 match outcome.sync with
 | .unreached => (dataplane,some .callFailed)
 | .answerLost => (applied render dataplane outcome.now snapshot.toConfigSnapshot,some .callFailed)
 | .rejected message => (dataplane,some (.rejected message))
 | .applied => (applied render dataplane outcome.now snapshot.toConfigSnapshot,none)

def applyAgentConfig (c : Components) (outcome : Outcome) (snapshot : AgentSnapshot) :
  Components × Option SyncError :=
 match sync render c.dataplane outcome snapshot with
 | (dataplane,some err) =>
  ({ c with
   snapshotHolder := some snapshot
   dataplane := dataplane
   healthReady := false
   adminReady := false },some err)
 | (dataplane,none) =>
  ({ c with
   snapshotHolder := some snapshot
   dataplane := dataplane
   mesh := c.mesh.map fun m => (m.applyConfig (snapshot.meshCall outcome.rulesApplied)).1
   sdwan := c.sdwan.map fun m =>
    m.applyConfig (convertWANLinks snapshot.wanLinks) (convertWANPolicies snapshot.wanPolicies)
   healthReady := true
   adminSnapshot := some snapshot
   adminReady := true },none)

/-- One entry for each listener, route, cluster and policy, and a gateway for each L4 listener. -/
structure DataplaneHolds (before : RuntimeConfig) (now : Dataplane.Instant) (after : RuntimeConfig)
  (snapshot : Config.ConfigSnapshot) : Prop where
 version : after.version = snapshot.version
 gateways : KeyedMap.HoldsEach (·.name) (fun _ g => g) before.gateways
  ((translateSnapshot snapshot).gateways.map Dataplane.gatewayFromProto) after.gateways
 routes : KeyedMap.HoldsEach (·.name) (fun _ r => r) before.routes
  ((translateSnapshot snapshot).routes.map Dataplane.routeFromProto) after.routes
 clusters : KeyedMap.HoldsEach (·.name) (Dataplane.drainReplaced now) before.clusters
  ((translateSnapshot snapshot).clusters.map Dataplane.clusterFromProto) after.clusters
 policies : KeyedMap.HoldsEach (·.name) (fun _ p => p) before.policies
  ((translateSnapshot snapshot).policies.map (Dataplane.policyFromProto render))
  after.policies
 l4Listeners : ∀ l ∈ snapshot.l4Listeners, (after.gateways.find? l.name).isSome

structure MeshHolds (m : MeshManager) (snapshot : AgentSnapshot) : Prop where
 table : m.table = Mesh.ServiceTable.update snapshot.internalServices
 rules : ∀ k, m.intercepted.find? k =
  (interceptedBy (interceptTargets snapshot.internalServices)).find? k
 policies : ∀ k, m.authorizer.find? k =
  (Mesh.Authorizer.updatePolicies snapshot.meshAuthzPolicies).find? k

/-- After a call that began in `before`, the components have the configuration of the snapshot. -/
structure InForce (before : Components) (now : Dataplane.Instant) (after : Components)
  (snapshot : AgentSnapshot) : Prop where
 dataplane : DataplaneHolds render before.dataplane now after.dataplane snapshot.toConfigSnapshot
 mesh : ∀ m, after.mesh = some m → MeshHolds m snapshot
 sdwan : ∀ m, after.sdwan = some m →
  m.Holds (convertWANLinks snapshot.wanLinks) (convertWANPolicies snapshot.wanPolicies)

end

/-- Every object has a dataplane name of its own, and L4 listeners have names of gateway listeners.
-/
structure DataplaneTakes (snapshot : Config.ConfigSnapshot) : Prop where
 names : DistinctNames (translateSnapshot snapshot)
 l4Listeners : ∀ l ∈ snapshot.l4Listeners, ∃ p ∈ listenerKeys snapshot.gateways,
  p.1 ++ "/" ++ p.2 = l.name

/-- The rules and policies are applied, or they are those that are there. -/
structure MeshTakes (m : MeshManager) (rulesApplied : Bool) (snapshot : AgentSnapshot) : Prop where
 rules : rulesApplied = true ∨ ∀ k, m.intercepted.find? k =
  (interceptedBy (interceptTargets snapshot.internalServices)).find? k
 policies : (rulesApplied = true ∧ snapshot.meshAuthzPolicies ≠ []) ∨ ∀ k, m.authorizer.find? k =
  (Mesh.Authorizer.updatePolicies snapshot.meshAuthzPolicies).find? k

structure Takes (c : Components) (rulesApplied : Bool) (snapshot : AgentSnapshot) : Prop where
 dataplane : DataplaneTakes snapshot.toConfigSnapshot
 mesh : ∀ m, c.mesh = some m → MeshTakes m rulesApplied snapshot
 sdwan : ∀ m, c.sdwan = some m → m.Takes (convertWANLinks snapshot.wanLinks)

structure Components.Running (c : Components) : Prop where
 mesh : ∀ m, c.mesh = some m → m.started = true
 sdwan : ∀ m, c.sdwan = some m → m.Named

attribute [local simp] MeshManager.applyConfig Mesh.Manager.applyConfig AgentSnapshot.meshCall
 Agent.applyAgentConfig applyAgentConfig Mesh.Agent.applyConfig sync

section
variable {rd : JsonValue → String}

lemma dataplaneHolds_applied_iff (pre : RuntimeConfig) (now : Dataplane.Instant)
  (snap : Config.ConfigSnapshot) : DataplaneHolds rd pre now (applied rd pre now snap) snap ↔
   DataplaneTakes snap := by
 have hg := holdsEach_replaceAll_iff (·.name) (fun _ g => g) pre.gateways
  ((translateSnapshot snap).gateways.map gatewayFromProto)
 have hr := holdsEach_replaceAll_iff (·.name) (fun _ r => r) pre.routes
  ((translateSnapshot snap).routes.map routeFromProto)
 have hc := holdsEach_replaceAll_iff (·.name) (drainReplaced now)
  pre.clusters ((translateSnapshot snap).clusters.map clusterFromProto)
 have hp := holdsEach_replaceAll_iff (·.name) (fun _ p => p) pre.policies
  ((translateSnapshot snap).policies.map (policyFromProto rd))
 simp only [List.map_map,Function.comp_def,gatewayFromProto,routeFromProto,
  clusterFromProto,policyFromProto] at hg hr hc hp
 constructor
 · intro h
   exact ⟨⟨hg.mp h.gateways,hr.mp h.routes,hc.mp h.clusters,hp.mp h.policies⟩,
    fun l hl => isSome_find?_gateways_applied_iff.mp (h.l4Listeners l hl)⟩
 · intro h
   exact ⟨rfl,hg.mpr h.names.gateways,hr.mpr h.names.routes,
    hc.mpr h.names.clusters,hp.mpr h.names.policies,
    fun l hl => isSome_find?_gateways_applied_iff.mpr (h.l4Listeners l hl)⟩

section
variable {m : MeshManager} (hsta : m.started = true) (ra : Bool)
 (snap : AgentSnapshot)
include hsta

lemma table_applyConfig : (m.applyConfig (snap.meshCall ra)).1.table =
  Mesh.ServiceTable.update snap.internalServices := by
 cases ra <;> simp [hsta]

lemma intercepted_applyConfig : (m.applyConfig (snap.meshCall ra)).1.intercepted =
  if ra = true then interceptedBy (interceptTargets snap.internalServices)
  else m.intercepted := by
 cases ra <;> simp [hsta]

/-- Policies are not given over when the rules fail, nor when there are none. -/
lemma authorizer_applyConfig : (m.applyConfig (snap.meshCall ra)).1.authorizer =
  if ra = true ∧ snap.meshAuthzPolicies ≠ [] then
   Mesh.Authorizer.updatePolicies snap.meshAuthzPolicies
  else m.authorizer := by
 cases ra with
 | false => simp [hsta]
 | true => cases hg : snap.meshAuthzPolicies <;> simp [hsta,hg]

lemma meshHolds_applyConfig_iff : MeshHolds (m.applyConfig (snap.meshCall ra)).1 snap ↔
   MeshTakes m ra snap := by
 have hr := intercepted_applyConfig hsta ra snap
 have hp := authorizer_applyConfig hsta ra snap
 constructor
 · intro h
   constructor
   · by_cases ha : ra = true
     · exact .inl ha
     · rw [if_neg ha] at hr
       exact .inr fun k => hr ▸ h.rules k
   · by_cases hg : ra = true ∧ snap.meshAuthzPolicies ≠ []
     · exact .inl hg
     · rw [if_neg hg] at hp
       exact .inr fun k => hp ▸ h.policies k
 · intro h
   refine ⟨table_applyConfig hsta ra snap,fun k => ?_,fun k => ?_⟩
   · rw [hr]
     split_ifs with ha
     · rfl
     · exact h.rules.resolve_left ha k
   · rw [hp]
     split_ifs with hg
     · rfl
     · exact h.policies.resolve_left hg k

end

variable (rd) in
lemma applyAgentConfig_eq_none_iff (c : Components) (out : Outcome) (snap : AgentSnapshot) :
  (applyAgentConfig rd c out snap).2 = none ↔ out.sync = .applied := by
 cases hy : out.sync <;> simp [hy]

variable (rd) in
lemma Components.Running.applyAgentConfig {c : Components} (h : c.Running) (out : Outcome)
  (snap : AgentSnapshot) : (applyAgentConfig rd c out snap).1.Running := by
 cases hy : out.sync with
 | applied =>
  constructor
  · intro m hm
    obtain ⟨m₀,hm₀,rfl⟩ : ∃ m₀, c.mesh = some m₀ ∧
      (m₀.applyConfig (snap.meshCall out.rulesApplied)).1 = m := by
     simpa [hy] using hm
    simp [h.mesh m₀ hm₀]
  · intro m hm
    obtain ⟨m₀,hm₀,rfl⟩ : ∃ m₀, c.sdwan = some m₀ ∧ m₀.applyConfig
      (convertWANLinks snap.wanLinks) (convertWANPolicies snap.wanPolicies) = m := by
     simpa [hy] using hm
    exact (h.sdwan m₀ hm₀).applyConfig
 | unreached | answerLost | rejected =>
  constructor
  · simpa [hy] using h.mesh
  · simpa [hy] using h.sdwan

/-- What was applied without an error is in force exactly if the components can take it over. -/
theorem inForce_applyAgentConfig_iff {c : Components} (h : c.Running) {out : Outcome}
  (ha : out.sync = .applied) (snap : AgentSnapshot) :
  InForce rd c out.now (applyAgentConfig rd c out snap).1 snap ↔ Takes c out.rulesApplied snap := by
 have hda : (applyAgentConfig rd c out snap).1.dataplane =
   applied rd c.dataplane out.now snap.toConfigSnapshot := by
  simp [ha]
 have hme : (applyAgentConfig rd c out snap).1.mesh = c.mesh.map fun m =>
   (m.applyConfig (snap.meshCall out.rulesApplied)).1 := by
  simp [ha]
 have hsd : (applyAgentConfig rd c out snap).1.sdwan = c.sdwan.map fun m =>
   m.applyConfig (convertWANLinks snap.wanLinks)
    (convertWANPolicies snap.wanPolicies) := by
  simp [ha]
 constructor
 · intro hf
   refine ⟨?_,?_,?_⟩
   · exact (dataplaneHolds_applied_iff _ _ _).mp (hda ▸ hf.dataplane)
   · intro m hm
     refine (meshHolds_applyConfig_iff (h.mesh m hm) _ _).mp (hf.mesh _ ?_)
     rw [hme,hm,Option.map_some]
   · intro m hm
     refine (Sdwan.Manager.holds_applyConfig_iff (h.sdwan m hm)).mp (hf.sdwan _ ?_)
     rw [hsd,hm,Option.map_some]
 · intro ht
   refine ⟨?_,?_,?_⟩
   · rw [hda]
     exact (dataplaneHolds_applied_iff _ _ _).mpr ht.dataplane
   · intro m' hm'
     rw [hme] at hm'
     obtain ⟨m,hm,rfl⟩ := map_eq_some_iff.mp hm'
     exact (meshHolds_applyConfig_iff (h.mesh m hm) _ _).mpr (ht.mesh m hm)
   · intro m' hm'
     rw [hsd] at hm'
     obtain ⟨m,hm,rfl⟩ := map_eq_some_iff.mp hm'
     exact (Sdwan.Manager.holds_applyConfig_iff (h.sdwan m hm)).mpr (ht.sdwan m hm)

end

end NovaEdge.Agent
