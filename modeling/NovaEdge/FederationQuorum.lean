import NovaEdge.TransitionSystem
import NovaEdge.FederationTypes

/-! Quorum of the split-brain detector. The manager passes the number of peers, which leaves
out the local member, as the size from which the default quorum is computed. -/
namespace NovaEdge.Federation
open List

/-- Any mode other than `AgentAssisted` takes the branch of the controllers. -/
inductive QuorumMode
 | controllers
 | agentAssisted
 | other (name : String)
 deriving DecidableEq

structure SplitBrainConfig where
 partitionTimeout : ℤ
 quorumRequired : Bool
 quorumSize : ℤ
 fencingEnabled : Bool
 quorumMode : QuorumMode

structure SplitBrainDetector where
 config : SplitBrainConfig
 totalPeers : ℕ
 reachablePeers : KeyedMap String Instant
 writesFenced : Bool

def newSplitBrainDetector (config : SplitBrainConfig) (totalPeers : ℕ) : SplitBrainDetector where
 config :=
  if config.quorumSize ≤ 0 then
   if config.quorumMode = .agentAssisted then { config with quorumSize := 0 }
   else { config with quorumSize := (totalPeers / 2 : ℕ)+1 }
  else config
 totalPeers := totalPeers
 reachablePeers := ∅
 writesFenced := false

def managerDetector (config : SplitBrainConfig) (peers : List String) : SplitBrainDetector :=
 newSplitBrainDetector config peers.length

namespace SplitBrainDetector

def recordPeerContact (d : SplitBrainDetector) (peerName : String) (now : Instant) :
  SplitBrainDetector :=
 { d with reachablePeers := d.reachablePeers.set peerName now }

def cutoff (d : SplitBrainDetector) (now : Instant) : Instant := now - d.config.partitionTimeout

def getReachablePeerNames (d : SplitBrainDetector) (now : Instant) : List String :=
 (d.reachablePeers.pairs.filter fun e => d.cutoff now < e.2).map Prod.fst

def countReachablePeers (d : SplitBrainDetector) (now : Instant) : ℕ :=
 (d.reachablePeers.pairs.filter fun e => d.cutoff now < e.2).length

def haveQuorum (d : SplitBrainDetector) (now : Instant) : Bool :=
 d.config.quorumSize ≤ d.countReachablePeers now+1

def checkQuorum (d : SplitBrainDetector) (now : Instant) : SplitBrainDetector :=
 { d with reachablePeers := d.reachablePeers.deleteIf fun e => e.2 < d.cutoff now }

end SplitBrainDetector

inductive DetectorOp
 | recordPeerContact (peerName : String) (now : Instant)
 | checkQuorum (now : Instant)

def SplitBrainDetector.step (d : SplitBrainDetector) : DetectorOp → SplitBrainDetector
 | .recordPeerContact peerName now => d.recordPeerContact peerName now
 | .checkQuorum now => d.checkQuorum now

def detectorSystem (config : SplitBrainConfig) (peers : List String) :
  TransitionSystem SplitBrainDetector DetectorOp :=
 .ofFun (fun d => d = managerDetector config peers) SplitBrainDetector.step

lemma detector_config {cfg : SplitBrainConfig} {pee : List String} {d : SplitBrainDetector}
  (h : (detectorSystem cfg pee).Reachable d) : d.config = (managerDetector cfg pee).config := by
 induction h with
 | start hd => rw [hd]
 | @next d _ op _ hs ih =>
  rw [hs]
  cases op with
  | recordPeerContact peerName now | checkQuorum now => exact ih

def SplitBrainDetector.Reaches (d : SplitBrainDetector) (now : Instant) (group : Finset String) :
  Prop :=
 ∀ p, p ∈ d.getReachablePeerNames now ↔ p ∈ group

lemma countReachablePeers_eq {d : SplitBrainDetector} {now : Instant} {gro : Finset String}
  (h : d.Reaches now gro) : d.countReachablePeers now = gro.card := by
 have hn : (d.getReachablePeerNames now).Nodup := by
  have hu : (d.getReachablePeerNames now).Sublist (d.reachablePeers.pairs.map Prod.fst) :=
   List.Sublist.map _ filter_sublist
  exact hu.nodup (KeyedMap.pairs_keys_nodup _)
 have hse : (d.getReachablePeerNames now).toFinset = gro := by
  ext p
  rw [mem_toFinset]
  exact h p
 rw [← hse,toFinset_card_of_nodup hn]
 simp [SplitBrainDetector.countReachablePeers,SplitBrainDetector.getReachablePeerNames]

/-- Each member reaches exactly its own group and has the default quorum size. -/
structure SplitFederation where
 group : Bool → Finset String
 disjoint : Disjoint (group true) (group false)
 config : String → SplitBrainConfig
 computed : ∀ m, (config m).quorumSize ≤ 0
 peers : String → List String
 nodup_peers : ∀ b, ∀ m ∈ group b, (peers m).Nodup
 mem_peers : ∀ b, ∀ m ∈ group b, ∀ p, p ∈ peers m ↔ (p ∈ group true ∪ group false ∧ p ≠ m)
 detector : String → SplitBrainDetector
 built : ∀ b, ∀ m ∈ group b, (detectorSystem (config m) (peers m)).Reachable (detector m)
 now : String → Instant
 reaches : ∀ b, ∀ m ∈ group b, (detector m).Reaches (now m) ((group b).erase m)

namespace SplitFederation
variable (F : SplitFederation)

def HasQuorum (b : Bool) : Prop := ∃ m ∈ F.group b, (F.detector m).haveQuorum (F.now m) = true

def AgentFree (b : Bool) : Prop := ∀ m ∈ F.group b, (F.config m).quorumMode ≠ .agentAssisted

lemma card_group (b : Bool) :
  (F.group true ∪ F.group false).card = (F.group b).card+(F.group !b).card := by
 rw [Finset.card_union_of_disjoint F.disjoint]
 cases b with
 | true => rfl
 | false => exact Nat.add_comm _ _

variable {b : Bool} {m : String}

lemma mem_members (hm : m ∈ F.group b) : m ∈ F.group true ∪ F.group false := by
 cases b with
 | true => exact Finset.mem_union_left _ hm
 | false => exact Finset.mem_union_right _ hm

lemma length_peers (hm : m ∈ F.group b) :
  (F.peers m).length+1 = (F.group b).card+(F.group !b).card := by
 have hse : (F.peers m).toFinset = (F.group true ∪ F.group false).erase m := by
  ext p
  rw [mem_toFinset,F.mem_peers b m hm,Finset.mem_erase]
  exact And.comm
 have hl : (F.peers m).length = ((F.group true ∪ F.group false).erase m).card := by
  rw [← hse,toFinset_card_of_nodup (F.nodup_peers b m hm)]
 have hp := Finset.card_erase_add_one (F.mem_members hm)
 have hc := F.card_group b
 omega

lemma haveQuorum_iff (hm : m ∈ F.group b) : (F.detector m).haveQuorum (F.now m) = true ↔
      (F.config m).quorumMode = .agentAssisted ∨ (F.group !b).card ≤ (F.group b).card := by
 have hco := countReachablePeers_eq (F.reaches b m hm)
 have hse := Finset.card_erase_add_one hm
 have hl := F.length_peers hm
 have hc := detector_config (F.built b m hm)
 unfold SplitBrainDetector.haveQuorum
 rw [hc,hco,decide_eq_true_eq]
 simp only [managerDetector,newSplitBrainDetector,if_pos (F.computed m)]
 split_ifs with ho
 · simp only [ho,true_or,iff_true]
   omega
 · simp only [ho,false_or]
   omega

lemma hasQuorum_iff (b : Bool) : F.HasQuorum b ↔ (F.group b).Nonempty ∧
      (¬ F.AgentFree b ∨ (F.group !b).card ≤ (F.group b).card) := by
 constructor
 · intro ⟨m,hm,hq⟩
   refine ⟨⟨m,hm⟩,?_⟩
   rcases (F.haveQuorum_iff hm).mp hq with ho | hc
   · exact .inl fun hf => hf m hm ho
   · exact .inr hc
 · intro ⟨⟨m,hm⟩,hcs⟩
   rcases hcs with ha | hc
   · unfold AgentFree at ha
     push Not at ha
     obtain ⟨m',hm',ho⟩ := ha
     exact ⟨m',hm',(F.haveQuorum_iff hm').mpr (.inl ho)⟩
   · exact ⟨m,hm,(F.haveQuorum_iff hm).mpr (.inr hc)⟩

theorem quorum_exclusive_iff : ¬ (F.HasQuorum true ∧ F.HasQuorum false) ↔
      (∃ b, F.group b = ∅) ∨ ∃ b, F.AgentFree b ∧ (F.group b).card < (F.group !b).card := by
 rw [F.hasQuorum_iff true,F.hasQuorum_iff false]
 simp only [Bool.exists_bool,Bool.not_true,Bool.not_false,← Finset.not_nonempty_iff_eq_empty,
  ← not_le]
 tauto

end SplitFederation

def sampleSplitBrain : SplitBrainConfig := ⟨30000000000,true,0,false,.controllers⟩

def partner (m : String) : String :=
 if m = "a" then "b" else if m = "b" then "a" else if m = "c" then "d" else "c"

def evenSplit : SplitFederation where
 group b := if b then {"a", "b"} else {"c", "d"}
 disjoint := by decide
 config _ := sampleSplitBrain
 computed _ := by decide
 peers m := ["a","b","c","d"].erase m
 nodup_peers b m _ := List.Nodup.erase m (by decide)
 mem_peers b m _ p := by
  rw [List.Nodup.mem_erase_iff (by decide)]
  simp only [mem_cons,not_mem_nil,or_false,if_true,Bool.false_eq_true,if_false,
   Finset.mem_union,Finset.mem_insert,Finset.mem_singleton]
  tauto
 detector m :=
  (managerDetector sampleSplitBrain (["a","b","c","d"].erase m)).recordPeerContact (partner m) 5
 built b m _ := .next (i := .recordPeerContact (partner m) 5) (.start rfl) rfl
 now _ := 10
 reaches b m hm p := by
  change p ∈ [partner m] ↔ _
  rw [mem_singleton,Finset.mem_erase]
  cases b with
  | true =>
   simp only [if_true,Finset.mem_insert,Finset.mem_singleton] at hm ⊢
   rcases hm with rfl | rfl <;> grind [partner]
  | false =>
   simp only [Bool.false_eq_true,if_false,Finset.mem_insert,Finset.mem_singleton] at hm ⊢
   rcases hm with rfl | rfl <;> grind [partner]

/-- With four members the computed quorum is two, and each pair has it. -/
theorem even_split_has_two_quorums : evenSplit.HasQuorum true ∧ evenSplit.HasQuorum false :=
 ⟨⟨"a",by decide,by decide⟩,⟨"c",by decide,by decide⟩⟩

end NovaEdge.Federation
