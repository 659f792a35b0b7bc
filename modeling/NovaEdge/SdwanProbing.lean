import NovaEdge.AgentApply

/-! The SD-WAN manager together with its prober. A link is probed if its configuration gives an
address for that, and the conversion of a snapshot never gives one. -/
namespace NovaEdge.Sdwan
open List

structure ProbedLinkConfig extends LinkConfig where
 (probeAddr remoteSite : String := "")

structure ProbeTarget where
 (linkName remoteSite addr : String)
 sla : Option WANLinkSLA

structure ProbingManager extends Manager where
 targets : KeyedMap String ProbeTarget := ∅

namespace ProbingManager

def addLink (m : ProbingManager) (config : ProbedLinkConfig) : Except LinkError ProbingManager :=
 match m.toManager.addLink config.toLinkConfig with
 | .error e => .error e
 | .ok manager => .ok
  { toManager := manager
    targets :=
     if config.probeAddr = "" then m.targets
     else m.targets.set config.name
      ⟨config.name,config.remoteSite,config.probeAddr,config.sla⟩ }

def removeLink (m : ProbingManager) (name : String) : Except LinkError ProbingManager :=
 match m.toManager.removeLink name with
 | .error e => .error e
 | .ok manager => .ok { toManager := manager, targets := m.targets.delete name }

def logged (m : ProbingManager) : Except LinkError ProbingManager → ProbingManager
 | .ok m' => m'
 | .error _ => m

def applyConfig (m : ProbingManager) (links : List ProbedLinkConfig)
  (policies : List PolicyConfig) : ProbingManager :=
 let added := links.foldl (fun acc config => acc.logged (acc.addLink config)) m
 let pruned := m.links.keys.foldl (fun acc name =>
  if name ∈ links.map (·.name) then acc else acc.logged (acc.removeLink name)) added
 { pruned with policies := policies }

lemma toManager_addLink (m : ProbingManager) (cfg : ProbedLinkConfig) :
  (m.logged (m.addLink cfg)).toManager =
   m.toManager.logged (m.toManager.addLink cfg.toLinkConfig) := by
 unfold addLink
 cases m.toManager.addLink cfg.toLinkConfig <;> rfl

lemma toManager_removeLink (m : ProbingManager) (name : String) :
  (m.logged (m.removeLink name)).toManager = m.toManager.logged (m.toManager.removeLink name) := by
 unfold removeLink
 cases m.toManager.removeLink name <;> rfl

lemma toManager_applyConfig (m : ProbingManager) (lks : List ProbedLinkConfig)
  (pols : List PolicyConfig) : (m.applyConfig lks pols).toManager =
   m.toManager.applyConfig (lks.map ProbedLinkConfig.toLinkConfig) pols := by
 have ha : (lks.map ProbedLinkConfig.toLinkConfig).foldl
   (fun acc cfg => acc.logged (acc.addLink cfg)) m.toManager =
   (lks.foldl (fun acc cfg => acc.logged (acc.addLink cfg)) m).toManager := by
  rw [foldl_map]
  exact foldl_hom toManager fun acc cfg => (acc.toManager_addLink cfg).symm
 have hr : ∀ acc : ProbingManager, m.links.keys.foldl (fun acc name =>
   if name ∈ lks.map (·.name) then acc else acc.logged (acc.removeLink name)) acc.toManager =
   (m.links.keys.foldl (fun acc name => if name ∈ lks.map (·.name) then acc
    else acc.logged (acc.removeLink name)) acc).toManager := by
  intro acc
  refine foldl_hom toManager fun acc name => ?_
  split_ifs
  · rfl
  · exact (acc.toManager_removeLink name).symm
 have hn : (lks.map ProbedLinkConfig.toLinkConfig).map (·.name) = lks.map (·.name) := by
  rw [map_map]
  rfl
 unfold applyConfig Manager.applyConfig
 rw [hn,ha]
 exact congrArg (fun manager : Manager => { manager with policies := pols }) (hr _).symm

def Unprobed (m : ProbingManager) : Prop := ∀ name, m.targets.find? name = none

variable {m : ProbingManager}

lemma Unprobed.addLink (h : m.Unprobed) {cfg : ProbedLinkConfig}
  (ha : cfg.probeAddr = "") : (m.logged (m.addLink cfg)).Unprobed := by
 unfold ProbingManager.addLink
 cases m.toManager.addLink cfg.toLinkConfig with
 | error e => exact h
 | ok manager =>
  intro name
  simp only [logged,ha,if_true]
  exact h name

lemma Unprobed.removeLink (h : m.Unprobed) (name : String) :
  (m.logged (m.removeLink name)).Unprobed := by
 unfold ProbingManager.removeLink
 cases m.toManager.removeLink name with
 | error e => exact h
 | ok manager =>
  intro name'
  simp only [logged,KeyedMap.find?_delete,h name',ite_self]

lemma Unprobed.applyConfig (h : m.Unprobed) {lks : List ProbedLinkConfig}
  (had : ∀ cfg ∈ lks, cfg.probeAddr = "") (pols : List PolicyConfig) :
  (m.applyConfig lks pols).Unprobed := by
 have hae : (lks.foldl (fun acc cfg => acc.logged (acc.addLink cfg)) m).Unprobed :=
  List.foldlRecOn lks _ h fun _ ha cfg hm => ha.addLink (had cfg hm)
 refine List.foldlRecOn m.links.keys _ hae fun acc ha name _ => ?_
 split_ifs
 · exact ha
 · exact ha.removeLink name

end ProbingManager

open Agent (WANLink AgentSnapshot convertWANLinks convertWANPolicies)

def probedLinks (wanLinks : List WANLink) : List ProbedLinkConfig :=
 (convertWANLinks wanLinks).map fun config => { config with }

def ProbingManager.applySnapshot (m : ProbingManager) (snapshot : AgentSnapshot) : ProbingManager :=
 m.applyConfig (probedLinks snapshot.wanLinks) (convertWANPolicies snapshot.wanPolicies)

def applySnapshots (snapshots : List AgentSnapshot) : ProbingManager :=
 snapshots.foldl ProbingManager.applySnapshot {}

structure Matches (link : LinkConfig) (wl : WANLink) : Prop where
 role : link.role = wl.role
 cost : link.cost = wl.cost
 bandwidth : link.bandwidth = wl.bandwidth
 sla : link.sla = wl.sla.map fun sla =>
  ⟨.ofInt sla.maxLatencyMs.toInt,.ofInt sla.maxJitterMs.toInt,sla.maxPacketLoss⟩
 tunnelEndpoint : link.tunnelEndpoint = wl.tunnelEndpoint

structure LinksMatch (m : Manager) (wanLinks : List WANLink) : Prop where
 one : m.links.keys.Perm (wanLinks.map (·.name))
 described : ∀ wl ∈ wanLinks, ∃ link, m.links.find? wl.name = some link ∧
  Matches link.toLinkConfig wl

structure Reconciled (m : ProbingManager) (wanLinks : List WANLink) : Prop
  extends LinksMatch m.toManager wanLinks where
 probed : ∀ name link, m.links.find? name = some link →
  ∃ target, m.targets.find? name = some target ∧ target.sla = link.sla

structure TakesLinks (m : Manager) (wanLinks : List WANLink) : Prop where
 named : ∀ wl ∈ wanLinks, wl.name ≠ ""
 distinct : (wanLinks.map (·.name)).Nodup
 unchanged : ∀ wl ∈ wanLinks, ∀ link, m.links.find? wl.name = some link →
  Matches link.toLinkConfig wl

lemma map_name_convertWANLinks (wl : List WANLink) :
  (convertWANLinks wl).map (·.name) = wl.map (·.name) := by
 simp [convertWANLinks]

lemma exists_of_mem_convertWANLinks {wan : List WANLink} {cfg : LinkConfig}
  (h : cfg ∈ convertWANLinks wan) : ∃ wl ∈ wan, cfg.name = wl.name ∧ Matches cfg wl := by
 obtain ⟨wl,hw,rfl⟩ := mem_map.mp h
 exact ⟨wl,hw,rfl,⟨rfl,rfl,rfl,rfl,rfl⟩⟩

section
variable {m : Manager} {wan : List WANLink} {pols : List PolicyConfig}

lemma TakesLinks.exists_link (h : TakesLinks m wan) {wl : WANLink} (hw : wl ∈ wan) :
  ∃ link, (m.applyConfig (convertWANLinks wan) pols).links.find? wl.name = some link ∧
   Matches link.toLinkConfig wl := by
 have ha : wl.name ∈ (convertWANLinks wan).map (·.name) := by
  rw [map_name_convertWANLinks]
  exact mem_map_of_mem hw
 rw [Manager.find?_applyConfig,if_pos ha]
 cases ho : m.links.find? wl.name with
 | some link => exact ⟨link,rfl,h.unchanged wl hw link ho⟩
 | none =>
  cases hf : (convertWANLinks wan).find? fun cfg => cfg.name = wl.name ∧ wl.name ≠ "" with
  | none =>
   obtain ⟨cfg,hc,hn⟩ := mem_map.mp ha
   exact absurd (decide_eq_true ⟨hn,h.named wl hw⟩) (find?_eq_none.mp hf cfg hc)
  | some cfg =>
   obtain ⟨wl',hw',hn',hm⟩ := exists_of_mem_convertWANLinks (mem_of_find?_eq_some hf)
   have hfo := find?_some hf
   have hn : cfg.name = wl.name := (of_decide_eq_true hfo).1
   have hsa : wl' = wl := inj_on_of_nodup_map h.distinct hw' hw (hn'.symm.trans hn)
   exact ⟨{ cfg with },rfl,hsa ▸ hm⟩

lemma linksMatch_applyConfig_iff (h : m.Named) :
  LinksMatch (m.applyConfig (convertWANLinks wan) pols) wan ↔ TakesLinks m wan := by
 constructor
 · intro hm
   refine ⟨fun wl hw hem => ?_,?_,fun wl hw link hl => ?_⟩
   · obtain ⟨link,hl,-⟩ := hm.described wl hw
     rw [hem,h.applyConfig] at hl
     cases hl
   · exact (hm.one.nodup_iff).mp (AList.keys_nodup _)
   · obtain ⟨link',hl',hde⟩ := hm.described wl hw
     have hn : wl.name ∈ (convertWANLinks wan).map (·.name) := by
      rw [map_name_convertWANLinks]
      exact mem_map_of_mem hw
     rw [Manager.find?_applyConfig,if_pos hn,hl,Option.some_or] at hl'
     exact Option.some.inj hl' ▸ hde
 · intro ht
   refine ⟨?_,fun wl hw => ht.exists_link hw⟩
   rw [perm_ext_iff_of_nodup (AList.keys_nodup _) ht.distinct]
   intro name
   rw [KeyedMap.mem_keys_iff]
   constructor
   · intro ho
     by_contra hno
     rw [Manager.find?_applyConfig,map_name_convertWANLinks,if_neg hno] at ho
     cases ho
   · intro hn
     obtain ⟨wl,hw,rfl⟩ := mem_map.mp hn
     obtain ⟨link,hl,-⟩ := @TakesLinks.exists_link m wan pols ht wl hw
     rw [hl]
     rfl

end

lemma toManager_applySnapshot (m : ProbingManager) (snap : AgentSnapshot) :
  (m.applySnapshot snap).toManager = m.toManager.applyConfig
   (convertWANLinks snap.wanLinks) (convertWANPolicies snap.wanPolicies) := by
 have hl : (probedLinks snap.wanLinks).map ProbedLinkConfig.toLinkConfig =
   convertWANLinks snap.wanLinks := by
  rw [probedLinks,map_map]
  exact map_id _
 rw [ProbingManager.applySnapshot,ProbingManager.toManager_applyConfig,hl]

lemma unprobed_applySnapshots (sna : List AgentSnapshot) : (applySnapshots sna).Unprobed := by
 refine List.foldlRecOn sna _ (fun _ => rfl) fun m hm snap _ => ?_
 refine hm.applyConfig (fun cfg hc => ?_) _
 obtain ⟨c,-,rfl⟩ := mem_map.mp hc
 rfl

lemma named_applySnapshots (sna : List AgentSnapshot) : (applySnapshots sna).toManager.Named := by
 refine List.foldlRecOn (motive := fun m : ProbingManager => m.toManager.Named) sna _ rfl
  fun m hm snap _ => ?_
 rw [toManager_applySnapshot]
 exact hm.applyConfig

/-- None may have changed; and they are probed only if there are none. -/
theorem sdwan_reconciled_iff (history : List AgentSnapshot) (last : AgentSnapshot) :
  (LinksMatch (applySnapshots (history ++ [last])).toManager last.wanLinks ↔
    TakesLinks (applySnapshots history).toManager last.wanLinks) ∧
   (Reconciled (applySnapshots (history ++ [last])) last.wanLinks ↔ last.wanLinks = []) := by
 have hr : (applySnapshots (history ++ [last])).toManager =
   (applySnapshots history).toManager.applyConfig (convertWANLinks last.wanLinks)
    (convertWANPolicies last.wanPolicies) := by
  rw [← toManager_applySnapshot,applySnapshots,foldl_append]
  rfl
 have hln : LinksMatch (applySnapshots (history ++ [last])).toManager last.wanLinks ↔
   TakesLinks (applySnapshots history).toManager last.wanLinks := by
  rw [hr]
  exact linksMatch_applyConfig_iff (named_applySnapshots history)
 refine ⟨hln,?_⟩
 constructor
 · intro h
   refine eq_nil_iff_forall_not_mem.mpr fun wl hw => ?_
   obtain ⟨link,hl,-⟩ := h.described wl hw
   obtain ⟨tgt,ht,-⟩ := h.probed wl.name link hl
   rw [unprobed_applySnapshots] at ht
   cases ht
 · intro hn
   have hm := hln.mpr (by rw [hn]; exact ⟨by simp,nodup_nil,by simp⟩)
   refine ⟨hm,fun name link hl => ?_⟩
   have hk := KeyedMap.mem_keys_iff.mpr (isSome_iff_exists.mpr ⟨link,hl⟩)
   rw [hm.one.mem_iff,hn] at hk
   simp at hk

/-- The cost of a link goes from 10 to 20. -/
theorem changed_link_kept_and_unprobed :
  let snapshot := fun cost : Int32 =>
   ({ wanLinks := [{ name := "fiber", role := "primary", cost := cost }] } : AgentSnapshot)
  let m := applySnapshots [snapshot 10,snapshot 20]
  (m.links.find? "fiber").map (·.cost) = some 10 ∧ (m.targets.find? "fiber").isNone = true ∧
   ¬ Reconciled m (snapshot 20).wanLinks := by
 intro snapshot m
 have hc : (m.links.find? "fiber").map (·.cost) = some 10 := by decide
 refine ⟨hc,by decide,fun h => ?_⟩
 obtain ⟨link,hl,hm⟩ := h.described _ mem_cons_self
 rw [hl,Option.map_some,hm.cost] at hc
 cases hc

end NovaEdge.Sdwan
