import NovaEdge.KeyedMapReplace

/-! The SD-WAN manager of the agent: it is brought in line with the WAN links and policies of a
configuration by adding the links it does not have and removing those it should no longer have. -/
namespace NovaEdge.Sdwan
open List Option KeyedMap

structure WANLinkSLA where
 (maxLatencyMs maxJitterMs maxPacketLoss : Float)

structure TunnelEndpoint where
 publicIP : String
 port : Int32

/-- No configuration of the controller gives an address to probe. -/
structure LinkConfig where
 name : String
 (site provider role bandwidth : String := "")
 cost : Int32 := 0
 sla : Option WANLinkSLA := none
 tunnelEndpoint : Option TunnelEndpoint := none

inductive LinkState
 | active
 | degraded
 | down

structure ManagedLink extends LinkConfig where
 state : LinkState := .active

structure PolicyConfig where
 name : String
 strategy : String := ""
 (matchHosts matchPaths : List String := [])
 matchHeaders : KeyedMap String String := ∅
 dscpClass : String := ""
 failover : Bool := false

inductive LinkError
 | nameRequired
 | alreadyExists (name : String)
 | notFound (name : String)

structure Manager where
 links : KeyedMap String ManagedLink := ∅
 policies : List PolicyConfig := []

namespace Manager

def addLink (m : Manager) (config : LinkConfig) : Except LinkError Manager :=
 if config.name = "" then .error .nameRequired
 else if (m.links.find? config.name).isSome then .error (.alreadyExists config.name)
 else .ok { m with links := m.links.set config.name { config with } }

def removeLink (m : Manager) (name : String) : Except LinkError Manager :=
 if (m.links.find? name).isNone then .error (.notFound name)
 else .ok { m with links := m.links.delete name }

def logged (m : Manager) : Except LinkError Manager → Manager
 | .ok m' => m'
 | .error _ => m

/-- A link that is there already is left as it is. The call as a whole never fails. -/
def applyConfig (m : Manager) (links : List LinkConfig) (policies : List PolicyConfig) : Manager :=
 let added := links.foldl (fun acc config => acc.logged (acc.addLink config)) m
 let pruned := m.links.keys.foldl (fun acc name =>
  if name ∈ links.map (·.name) then acc else acc.logged (acc.removeLink name)) added
 { pruned with policies := policies }

/-- The manager has exactly the links of a configuration, as it gives them, and its policies. -/
structure Holds (m : Manager) (links : List LinkConfig) (policies : List PolicyConfig) : Prop where
 held : ∀ config ∈ links, (m.links.find? config.name).map ManagedLink.toLinkConfig = some config
 only : ∀ name, (m.links.find? name).isSome → name ∈ links.map (·.name)
 policies : m.policies = policies

/-- Links have names that tell them apart, and a link that is there already has not changed. -/
structure Takes (m : Manager) (links : List LinkConfig) : Prop where
 named : ∀ config ∈ links, config.name ≠ ""
 distinct : ∀ config ∈ links, ∀ config' ∈ links, config.name = config'.name → config = config'
 unchanged : ∀ config ∈ links, ∀ link, m.links.find? config.name = some link →
  link.toLinkConfig = config

def Named (m : Manager) : Prop := m.links.find? "" = none

variable (m : Manager) (lin : List LinkConfig) (pols : List PolicyConfig) (name : String)

lemma find?_addLink (cfg : LinkConfig) : (m.logged (m.addLink cfg)).links.find? name =
      (m.links.find? name).or (if cfg.name = name ∧ name ≠ "" then some { cfg with }
       else none) := by
 by_cases hm : cfg.name = ""
 · have hno : ¬ (cfg.name = name ∧ name ≠ "") := fun h => h.2 (h.1.symm.trans hm)
   rw [addLink,if_pos hm,if_neg hno]
   exact or_none.symm
 · rw [addLink,if_neg hm]
   cases ho : m.links.find? cfg.name with
   | some link =>
    rw [if_pos isSome_some]
    by_cases hn : cfg.name = name
    · rw [← hn,ho]
      exact ho
    · rw [if_neg fun h => hn h.1]
      exact or_none.symm
   | none =>
    rw [isSome_none,if_neg Bool.false_ne_true]
    by_cases hn : cfg.name = name
    · rw [← hn,ho,if_pos ⟨rfl,hm⟩]
      exact find?_set_self _ _ _
    · rw [if_neg fun h => hn h.1,or_none]
      exact find?_set_ne _ _ (Ne.symm hn)

lemma find?_foldl_addLink :
  (lin.foldl (fun acc cfg => acc.logged (acc.addLink cfg)) m).links.find? name =
   (m.links.find? name).or ((lin.find? fun cfg => cfg.name = name ∧ name ≠ "").map fun cfg =>
     { cfg with }) := by
 induction lin generalizing m with
 | nil => exact or_none.symm
 | cons cfg lin ih =>
  rw [foldl_cons,ih,find?_addLink,Option.or_assoc]
  congr 1
  by_cases hn : cfg.name = name ∧ name ≠ ""
  · rw [find?_cons_of_pos (by simpa using hn),if_pos hn]
    rfl
  · rw [find?_cons_of_neg (by simpa using hn),if_neg hn]
    rfl

lemma find?_removeLink (nam' : String) : (m.logged (m.removeLink name)).links.find? nam' =
      if nam' = name then none else m.links.find? nam' := by
 cases ho : m.links.find? name with
 | none =>
  rw [removeLink,ho,if_pos isNone_none]
  split_ifs with hn
  · rw [hn]
    exact ho
  · rfl
 | some link =>
  rw [removeLink,ho,isNone_some,if_neg Bool.false_ne_true]
  exact find?_delete m.links name nam'

lemma find?_foldl_removeLink (nms des : List String) : (nms.foldl (fun acc name =>
      if name ∈ des then acc else acc.logged (acc.removeLink name)) m).links.find? name =
      if name ∈ nms ∧ name ∉ des then none else m.links.find? name := by
 induction nms generalizing m with
 | nil => simp
 | cons gone nms ih =>
  rw [foldl_cons,ih]
  by_cases hde : gone ∈ des
  · have hf : (name ∈ gone::nms ∧ name ∉ des) ↔ (name ∈ nms ∧ name ∉ des) := by
     constructor
     · rintro ⟨hm,hn⟩
       rcases mem_cons.mp hm with rfl | hm
       · exact absurd hde hn
       · exact ⟨hm,hn⟩
     · rintro ⟨hm,hn⟩
       exact ⟨mem_cons_of_mem _ hm,hn⟩
    rw [if_pos hde]
    simp only [hf]
  · rw [if_neg hde,find?_removeLink]
    by_cases ha : name = gone
    · simp [ha,hde]
    · simp [ha]

lemma find?_applyConfig : (m.applyConfig lin pols).links.find? name =
      if name ∈ lin.map (·.name) then
       (m.links.find? name).or ((lin.find? fun cfg => cfg.name = name ∧ name ≠ "").map fun cfg =>
         { cfg with })
      else none := by
 have hf := find?_foldl_removeLink
  (lin.foldl (fun acc cfg => acc.logged (acc.addLink cfg)) m) name m.links.keys
  (lin.map (·.name))
 rw [find?_foldl_addLink] at hf
 refine Eq.trans hf ?_
 by_cases hw : name ∈ lin.map (·.name)
 · rw [if_pos hw,if_neg fun h => h.2 hw]
 · split_ifs with hg
   · rfl
   · have ho : m.links.find? name = none := by
      rw [mem_keys_iff] at hg
      simpa [hw] using hg
     have hn : lin.find? (fun cfg => cfg.name = name ∧ name ≠ "") = none := by
      rw [find?_eq_none]
      intro cfg hm ha
      exact hw (mem_map.mpr ⟨cfg,hm,(of_decide_eq_true ha).1⟩)
     rw [ho,hn]
     rfl

variable {m lin pols} in
lemma Named.applyConfig (h : m.Named) : (m.applyConfig lin pols).Named := by
 rw [Named,find?_applyConfig,h]
 simp

variable {m lin} in
lemma Takes.find?_eq_some (h : m.Takes lin) {cfg : LinkConfig} (hm : cfg ∈ lin) :
  lin.find? (fun config' => config'.name = cfg.name ∧ cfg.name ≠ "") = some cfg := by
 cases hf : lin.find? fun config' => config'.name = cfg.name ∧ cfg.name ≠ "" with
 | none =>
  have hn := find?_eq_none.mp hf cfg hm
  exact absurd (decide_eq_true ⟨rfl,h.named cfg hm⟩) hn
 | some config' =>
  have ha := find?_some hf
  rw [h.distinct config' (mem_of_find?_eq_some hf) cfg hm (of_decide_eq_true ha).1]

variable {m lin pols} in
/-- After a call the manager has what it was given exactly if it can take it over by adding and
removing links. -/
theorem holds_applyConfig_iff (h : m.Named) :
  (m.applyConfig lin pols).Holds lin pols ↔ m.Takes lin := by
 have hf : ∀ config ∈ lin, (m.applyConfig lin pols).links.find? config.name =
   (m.links.find? config.name).or ((lin.find? fun config' =>
    config'.name = config.name ∧ config.name ≠ "").map fun config => { config with }) := by
  intro config hm
  rw [find?_applyConfig,if_pos (mem_map_of_mem hm)]
 constructor
 · intro ho
   refine ⟨?_,?_,?_⟩
   · intro config hm hem
     have hh := ho.held config hm
     rw [hem,h.applyConfig] at hh
     cases hh
   · intro config hm config' hm' hn
     have hh := ho.held config hm
     rw [hn,ho.held config' hm',Option.some.injEq] at hh
     exact hh.symm
   · intro config hm link hl
     have hh := ho.held config hm
     rw [hf config hm,hl,some_or,map_some,Option.some.injEq] at hh
     exact hh
 · intro ht
   refine ⟨?_,?_,rfl⟩
   · intro config hm
     rw [hf config hm]
     cases hl : m.links.find? config.name with
     | some link => rw [some_or,map_some,ht.unchanged config hm link hl]
     | none =>
      rw [none_or,ht.find?_eq_some hm]
      rfl
   · intro name hso
     by_contra hw
     rw [find?_applyConfig,if_neg hw] at hso
     cases hso

end Manager

end NovaEdge.Sdwan
