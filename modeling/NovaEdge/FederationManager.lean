import Mathlib.Data.Finmap
import NovaEdge.FederationHub
import NovaEdge.FederationQuorum
import NovaEdge.KeyedMapPatch
import NovaEdge.KeyedMapReplace

/-! The federation manager: how it starts from a configuration, and how a running one takes over
another configuration by the difference between the two. -/
namespace NovaEdge.Federation
open KeyedMap Option

/-- `peerInfoEqual` compares every field, the labels and the certificates by content. -/
structure PeerInfo where
 name : String
 (endpoint region zone : String := "")
 priority : ℤ := 0
 labels : Finmap (fun _ : String => String) := ∅
 tlsEnabled : Bool := false
 tlsServerName : String := ""
 insecureSkipVerify : Bool := false
 (caCert clientCert clientKey : List UInt8 := [])
 deriving DecidableEq

deriving instance DecidableEq for SplitBrainConfig

/-- The split-brain configuration with the fields that only `splitBrainConfigEqual` and the
agent-assisted quorum read. -/
structure SplitBrainSettings extends SplitBrainConfig where
 healingGracePeriod : ℤ
 autoResolveOnHeal : Bool
 (agentQuorumWeight controllerQuorumWeight minAgentsForQuorum : ℤ)
 deriving DecidableEq

/-- The defaults are those of `DefaultConfig`. -/
structure SyncSettings where
 mode : Mode := .mesh
 federationID : String
 localMember : PeerInfo
 syncInterval : ℤ := 5000000000
 syncTimeout : ℤ := 30000000000
 batchSize : ℤ := 100
 compressionEnabled : Bool := true
 (resourceTypes excludeNamespaces : List String := [])
 conflictResolutionStrategy : ConflictStrategy := .lastWriterWins
 vectorClocksEnabled : Bool := true
 tombstoneTTL : ℤ := 86400000000000
 healthCheckInterval : ℤ := 10000000000
 healthCheckTimeout : ℤ := 5000000000
 failureThreshold : ℤ := 3
 successThreshold : ℤ := 1
 deriving DecidableEq

structure ManagerConfig extends SyncSettings where
 peers : List PeerInfo := []
 splitBrain : Option SplitBrainSettings := none

open ManagerConfig
def peerMap (peers : List PeerInfo) : KeyedMap String PeerInfo :=
 upsertAll PeerInfo.name (fun _ p => p) ∅ peers

def peersEqual (a b : List PeerInfo) : Bool :=
 a.length = b.length ∧ ∀ p ∈ b, (peerMap a).find? p.name = some p

namespace ManagerConfig

def equal (c other : ManagerConfig) : Bool :=
 c.toSyncSettings = other.toSyncSettings ∧ peersEqual c.peers other.peers ∧
  c.splitBrain = other.splitBrain

def detector (c : ManagerConfig) : Option SplitBrainDetector :=
 c.splitBrain.map fun sb => newSplitBrainDetector sb.toSplitBrainConfig c.peers.length

/-- `NewSplitBrainDetector` writes the default quorum into the configuration that all parts hold. -/
def quorumFilled (c : ManagerConfig) : ManagerConfig where
 toSyncSettings := c.toSyncSettings
 peers := c.peers
 splitBrain := c.splitBrain.map fun sb =>
  { sb with
    toSplitBrainConfig := (newSplitBrainDetector sb.toSplitBrainConfig c.peers.length).config }

end ManagerConfig

structure PeerClient where
 peer : PeerInfo
 config : ManagerConfig

inductive ManagerError
 | alreadyStarted
 | notStarted

structure Manager where
 started : Bool := false
 config : ManagerConfig
 server : Option ManagerConfig := none
 splitBrain : Option SplitBrainDetector := none
 clients : KeyedMap String PeerClient := ∅

def newManager (config : ManagerConfig) : Manager where
 config := config

namespace Manager

/-- What `Start` leaves behind. A client is put under its peer's name, over an earlier one. -/
def running (m : Manager) : Manager where
 started := true
 config := m.config.quorumFilled
 server := some m.config.quorumFilled
 splitBrain := m.config.detector
 clients := upsertAll (·.peer.name) (fun _ c => c) m.clients
  (m.config.peers.map fun p => ⟨p,m.config.quorumFilled⟩)

/-- The split-brain detector is not touched. -/
def takeOver (m : Manager) (newConfig : ManagerConfig) : Manager where
 started := m.started
 config := newConfig
 server := m.server.map fun _ => newConfig
 splitBrain := m.splitBrain
 clients := patch (fun p => ⟨p,newConfig⟩) (peerMap m.config.peers)
  (peerMap newConfig.peers) m.clients

def updateConfig (m : Manager) (newConfig : ManagerConfig) : Except ManagerError Manager :=
 if ¬ m.started then .error .notStarted
 else if m.config.equal newConfig then .ok m
 else .ok (m.takeOver newConfig)

end Manager

structure ClientView where
 peer : PeerInfo
 (federationID memberName region zone : String)
 compression : Bool

def SyncSettings.clientView (s : SyncSettings) (p : PeerInfo) : ClientView where
 peer := p
 federationID := s.federationID
 memberName := s.localMember.name
 region := s.localMember.region
 zone := s.localMember.zone
 compression := s.compressionEnabled

def PeerClient.view (c : PeerClient) : ClientView := c.config.clientView c.peer

def ManagerConfig.serverView (c : ManagerConfig) : SyncSettings × Multiset PeerInfo :=
 (c.toSyncSettings,c.peers)

def SplitBrainDetector.parameters (d : SplitBrainDetector) : ℕ × ℤ := (d.totalPeers,d.config.quorumSize)

open SplitBrainDetector (parameters)

def ManagerConfig.splitBrainParameters (c : ManagerConfig) : Option (ℕ × ℤ) :=
 c.detector.map parameters

/-- Two managers with the same clients, the same server configuration and the same split-brain
parameters. -/
structure Manager.Agrees (m m' : Manager) : Prop where
 clients : ∀ name, (m.clients.find? name).map PeerClient.view =
  (m'.clients.find? name).map PeerClient.view
 server : m.server.map ManagerConfig.serverView = m'.server.map ManagerConfig.serverView
 splitBrain : m.splitBrain.map parameters =
  m'.splitBrain.map parameters

structure Reconfigured where
 manager : Manager
 last : ManagerConfig

open Reconfigured
namespace Reconfigured

def initial (config : ManagerConfig) : Reconfigured := ⟨(newManager config).running,config⟩

def step (r : Reconfigured) (newConfig : ManagerConfig) : Reconfigured where
 manager := match r.manager.updateConfig newConfig with
  | .ok m => m
  | .error _ => r.manager
 last := newConfig

def LikeRestart (r : Reconfigured) : Prop := r.manager.Agrees (newManager r.last).running

/-- Kept clients, the detector and skipped calls must have what the new configuration says. -/
structure Keeps (r : Reconfigured) (newConfig : ManagerConfig) : Prop where
 clients : ∀ name p, (peerMap r.last.peers).find? name = some p →
  (peerMap newConfig.peers).find? name = some p → r.last.clientView p = newConfig.clientView p
 splitBrain : r.last.splitBrainParameters = newConfig.splitBrainParameters
 skipped : r.manager.config.equal newConfig → r.last.peers.Perm newConfig.peers

structure Consistent (r : Reconfigured) : Prop where
 started : r.manager.started
 server : r.manager.server = some r.manager.config
 clients : ∀ name, (r.manager.clients.find? name).map PeerClient.peer =
  (peerMap r.manager.config.peers).find? name
 settings : r.manager.config.toSyncSettings = r.last.toSyncSettings
 splitBrain : r.manager.config.splitBrainParameters = r.last.splitBrainParameters

end Reconfigured

lemma find?_peerMap (pee : List PeerInfo) (name : String) :
  (peerMap pee).find? name = (pee.filter fun p => p.name = name).getLast? := by
 rw [peerMap,find?_upsertAll_last]
 exact or_none

lemma find?_running_clients (cfg : ManagerConfig) (name : String) :
  (newManager cfg).running.clients.find? name =
   ((peerMap cfg.peers).find? name).map fun p => ⟨p,cfg.quorumFilled⟩ := by
 have hf := find?_upsertAll_last (fun c : PeerClient => c.peer.name) ∅
  (cfg.peers.map fun p => ⟨p,cfg.quorumFilled⟩) name
 rw [List.filter_map,List.getLast?_map] at hf
 rw [find?_peerMap]
 exact hf.trans or_none

lemma mem_of_find?_peerMap {pee : List PeerInfo} {name : String} {p : PeerInfo}
  (h : (peerMap pee).find? name = some p) : p ∈ pee ∧ p.name = name := by
 rw [find?_peerMap] at h
 simpa using List.mem_filter.mp (List.mem_of_getLast? h)

lemma find?_peerMap_eq_none_iff {pee : List PeerInfo} {name : String} :
  (peerMap pee).find? name = none ↔ ∀ p ∈ pee, p.name ≠ name := by
 rw [find?_peerMap,List.getLast?_eq_none_iff,List.filter_eq_nil_iff]
 simp

lemma peerMap_eq_of_peersEqual {a b : List PeerInfo} (h : peersEqual a b) (hpe : a.Perm b)
  (name : String) : (peerMap a).find? name = (peerMap b).find? name := by
 have hm : ∀ p ∈ b, (peerMap a).find? p.name = some p := (of_decide_eq_true h).2
 cases hb : (peerMap b).find? name with
 | none =>
  rw [find?_peerMap_eq_none_iff] at hb ⊢
  exact fun p hp => hb p (hpe.subset hp)
 | some p =>
  obtain ⟨hp,rfl⟩ := mem_of_find?_peerMap hb
  exact hm p hp

lemma newSplitBrainDetector_quorumSize_idem (sb : SplitBrainConfig) (n : ℕ) :
  (newSplitBrainDetector (newSplitBrainDetector sb n).config n).config.quorumSize =
   (newSplitBrainDetector sb n).config.quorumSize := by
 by_cases hsi : sb.quorumSize ≤ 0
 · by_cases hm : sb.quorumMode = .agentAssisted
   · simp [newSplitBrainDetector,hsi,hm]
   · simp [newSplitBrainDetector,hsi,hm]
 · simp [newSplitBrainDetector,hsi]

lemma splitBrainParameters_quorumFilled (c : ManagerConfig) :
  c.quorumFilled.splitBrainParameters = c.splitBrainParameters := by
 cases hb : c.splitBrain with
 | none =>
  simp [splitBrainParameters,detector,quorumFilled,hb]
 | some sb =>
  simp [splitBrainParameters,detector,quorumFilled,hb,
   parameters,newSplitBrainDetector_quorumSize_idem]
  rfl

lemma splitBrainParameters_of_equal {c c' : ManagerConfig} (h : c.equal c') :
  c.splitBrainParameters = c'.splitBrainParameters := by
 obtain ⟨-,hp,hb⟩ := of_decide_eq_true h
 have hl : c.peers.length = c'.peers.length := (of_decide_eq_true hp).1
 rw [splitBrainParameters,splitBrainParameters,detector,
  detector,hb,hl]

variable {ncfg : ManagerConfig}

namespace Reconfigured

lemma likeRestart_iff (r : Reconfigured) : r.LikeRestart ↔
      (∀ name, (r.manager.clients.find? name).map PeerClient.view =
       ((peerMap r.last.peers).find? name).map r.last.clientView) ∧
      r.manager.server.map serverView = some r.last.serverView ∧
      r.manager.splitBrain.map parameters = r.last.splitBrainParameters := by
 have hl : ∀ name, ((newManager r.last).running.clients.find? name).map PeerClient.view =
   ((peerMap r.last.peers).find? name).map r.last.clientView := by
  intro name
  rw [find?_running_clients,map_map]
  rfl
 constructor
 · intro h
   exact ⟨fun name => (h.clients name).trans (hl name),h.server,h.splitBrain⟩
 · intro ⟨hc,hse,hp⟩
   exact ⟨fun name => (hc name).trans (hl name).symm,hse,hp⟩

lemma consistent_initial (cfg : ManagerConfig) : (initial cfg).Consistent where
 started := rfl
 server := rfl
 clients name := by
  rw [initial,find?_running_clients,map_map]
  exact map_id'
 settings := rfl
 splitBrain := splitBrainParameters_quorumFilled cfg

lemma likeRestart_initial (cfg : ManagerConfig) : (initial cfg).LikeRestart :=
 ⟨fun _ => rfl,rfl,rfl⟩

lemma step_of_equal {r : Reconfigured} (ht : r.manager.started)
  (h : r.manager.config.equal ncfg) : r.step ncfg = ⟨r.manager,ncfg⟩ := by
 simp [step,Manager.updateConfig,ht,h]

lemma step_of_not_equal {r : Reconfigured}
  (ht : r.manager.started) (h : ¬ r.manager.config.equal ncfg) :
  r.step ncfg = ⟨r.manager.takeOver ncfg,ncfg⟩ := by
 simp [step,Manager.updateConfig,ht,h]

namespace Consistent

variable {r : Reconfigured} (h : r.Consistent)
include h

lemma find?_clients_eq_none {name : String}
  (hn : (peerMap r.manager.config.peers).find? name = none) :
  r.manager.clients.find? name = none := by
 rw [← h.clients,map_eq_none_iff] at hn
 exact hn

lemma find?_takeOver (ncfg : ManagerConfig) (name : String) :
  (r.manager.takeOver ncfg).clients.find? name = ((peerMap ncfg.peers).find? name).bind fun p =>
    if (peerMap r.manager.config.peers).find? name = some p then r.manager.clients.find? name
    else some ⟨p,ncfg⟩ :=
 find?_patch _ _ _ _ (fun _ => h.find?_clients_eq_none) name

lemma step (ncfg : ManagerConfig) : (r.step ncfg).Consistent := by
 by_cases hq : r.manager.config.equal ncfg
 · rw [step_of_equal h.started hq]
   exact ⟨h.started,h.server,h.clients,(of_decide_eq_true hq).1, splitBrainParameters_of_equal hq⟩
 · rw [step_of_not_equal h.started hq]
   refine ⟨h.started,?_,?_,rfl,rfl⟩
   · exact congrArg (Option.map fun _ => ncfg) h.server
   · intro name
     change ((r.manager.takeOver ncfg).clients.find? name).map _ = (peerMap ncfg.peers).find? name
     rw [h.find?_takeOver]
     cases (peerMap ncfg.peers).find? name with
     | none => rfl
     | some p =>
      rw [bind_some]
      split_ifs with ho
      · rw [h.clients,ho]
      · rfl

variable (hli : r.LikeRestart)
include hli

lemma peerMap_last (name : String) :
  (peerMap r.manager.config.peers).find? name = (peerMap r.last.peers).find? name := by
 have hv := congrArg (Option.map ClientView.peer) ((likeRestart_iff r).mp hli |>.1 name)
 rw [map_map,map_map] at hv
 rw [← h.clients]
 refine Eq.trans ?_ (hv.trans map_id')
 rfl

lemma perm_last : r.manager.config.peers.Perm r.last.peers := by
 have hse := ((likeRestart_iff r).mp hli).2.1
 rw [h.server,map_some,Option.some.injEq] at hse
 exact Multiset.coe_eq_coe.mp (congrArg Prod.snd hse)

lemma likeRestart_skipped_iff (hq : r.manager.config.equal ncfg) :
  (⟨r.manager,ncfg⟩ : Reconfigured).LikeRestart ↔ r.last.peers.Perm ncfg.peers := by
 obtain ⟨hse,hp,-⟩ := of_decide_eq_true hq
 obtain ⟨hl,-,hsp⟩ := (likeRestart_iff r).mp hli
 have ha : r.last.toSyncSettings = ncfg.toSyncSettings := h.settings.symm.trans hse
 rw [likeRestart_iff]
 constructor
 · intro ⟨_,hr,_⟩
   rw [h.server,map_some,Option.some.injEq] at hr
   exact (h.perm_last hli).symm.trans (Multiset.coe_eq_coe.mp (congrArg Prod.snd hr))
 · intro hpe
   have hc := (h.perm_last hli).trans hpe
   refine ⟨?_,?_,?_⟩
   · intro name
     rw [hl name,← h.peerMap_last hli,peerMap_eq_of_peersEqual hp hc,ha]
   · rw [h.server,map_some,serverView,serverView,hse,
      Multiset.coe_eq_coe.mpr hc]
   · rw [hsp,← h.splitBrain]
     exact splitBrainParameters_of_equal hq

lemma likeRestart_takeOver_iff (ncfg : ManagerConfig) :
  (⟨r.manager.takeOver ncfg,ncfg⟩ : Reconfigured).LikeRestart ↔
   (∀ name p, (peerMap r.last.peers).find? name = some p →
    (peerMap ncfg.peers).find? name = some p → r.last.clientView p = ncfg.clientView p) ∧
   r.last.splitBrainParameters = ncfg.splitBrainParameters := by
 obtain ⟨hc,-,hp⟩ := (likeRestart_iff r).mp hli
 have hse : (r.manager.takeOver ncfg).server.map serverView =
   some ncfg.serverView := by
  rw [Manager.takeOver,h.server]
  rfl
 have hk : (∀ name, ((r.manager.takeOver ncfg).clients.find? name).map PeerClient.view =
       ((peerMap ncfg.peers).find? name).map ncfg.clientView) ↔
   ∀ name p, (peerMap r.last.peers).find? name = some p →
    (peerMap ncfg.peers).find? name = some p → r.last.clientView p = ncfg.clientView p := by
  refine Iff.trans (patch_agrees_iff _ _ _ _ PeerClient.view fun _ => h.find?_clients_eq_none) ?_
  refine forall_congr' fun name => forall_congr' fun p => ?_
  rw [h.peerMap_last hli,hc]
  refine imp_congr_right fun ho => ?_
  rw [ho,map_some,Option.some.injEq]
  rfl
 rw [likeRestart_iff,← hk,← hp]
 exact ⟨fun h => ⟨h.1,h.2.2⟩,fun h => ⟨h.1,hse,h.2⟩⟩

lemma likeRestart_step_iff (nc : ManagerConfig) : (r.step nc).LikeRestart ↔ r.Keeps nc := by
 by_cases hq : r.manager.config.equal nc
 · rw [step_of_equal h.started hq,h.likeRestart_skipped_iff hli hq]
   constructor
   · intro hp
     have hl := h.settings.symm.trans (of_decide_eq_true hq).1
     refine ⟨fun name p _ _ => ?_,?_,fun _ => hp⟩
     · rw [hl]
     · exact h.splitBrain.symm.trans (splitBrainParameters_of_equal hq)
   · exact fun hk => hk.skipped hq
 · rw [step_of_not_equal h.started hq,h.likeRestart_takeOver_iff hli]
   exact ⟨fun ⟨hc,hs⟩ => ⟨hc,hs,fun hsk => absurd hsk hq⟩, fun hk => ⟨hk.clients,hk.splitBrain⟩⟩

end Consistent

end Reconfigured

theorem reconfigure_like_restart_iff (config : ManagerConfig) (updates : List ManagerConfig) :
  (∀ n, ((updates.take n).foldl step (.initial config)).LikeRestart) ↔
   Along step Keeps (.initial config) updates := by
 have hn : ∀ (r : Reconfigured) (c : ManagerConfig),
   r.Consistent → r.LikeRestart → (r.step c).Consistent := fun _ c h _ => h.step c
 have ht : ∀ (r : Reconfigured) (c : ManagerConfig),
   r.Consistent → r.LikeRestart → ((r.step c).LikeRestart ↔ r.Keeps c) :=
  fun _ c h hlike => h.likeRestart_step_iff hlike c
 exact forall_take_iff_along hn ht (consistent_initial config)
  (likeRestart_initial config) updates

def samplePeer : PeerInfo where
 name := "b"
 endpoint := "b:9443"

def sampleManagerConfig : ManagerConfig where
 federationID := "fed"
 localMember := { name := "a" }
 peers := [samplePeer]
 splitBrain := some
  { sampleSplitBrain with
    healingGracePeriod := 0
    autoResolveOnHeal := true
    agentQuorumWeight := 0
    controllerQuorumWeight := 0
    minAgentsForQuorum := 0 }

def sampleUpdate : ManagerConfig :=
 { sampleManagerConfig with
   compressionEnabled := false
   peers := [samplePeer,{ name := "c" },{ name := "d" }] }

theorem update_keeps_client_config_and_quorum :
  ¬ ((initial sampleManagerConfig).step sampleUpdate).LikeRestart ∧
   ∃ m, (newManager sampleManagerConfig).running.updateConfig sampleUpdate = .ok m ∧
    ((m.clients.find? "b").map PeerClient.view).map ClientView.compression = some true ∧
    (((newManager sampleUpdate).running.clients.find? "b").map PeerClient.view).map
     ClientView.compression = some false ∧
    m.splitBrain.map parameters = some (1,1) ∧
    (newManager sampleUpdate).running.splitBrain.map parameters =
     some (3,2) := by
 constructor
 · intro h
   have hp : some ((1,1) : ℕ × ℤ) = some (3,2) := h.splitBrain
   cases hp
 · refine ⟨(newManager sampleManagerConfig).running.takeOver sampleUpdate,?_,?_,?_,?_,?_⟩
   · rfl
   · decide +kernel
   · decide +kernel
   · decide +kernel
   · decide +kernel

end NovaEdge.Federation
