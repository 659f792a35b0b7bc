import NovaEdge.KeyedMap
import NovaEdge.SnapshotStream

/-! Gossip of configuration ages between agents. An agent that hears of generation times more than a
minute newer than its own from most of its peers drops its stream. Each stream is built for on its
own, so the time of a build says little about its content. -/
namespace NovaEdge.Gossip
open KeyedMap List Snapshot

def second : ℤ := 1000000000

def unix (now : ℤ) : ℤ := now / second

def peerExpiry : ℤ := 15*second

def genTimeThreshold : ℤ := 60

def resyncCooldown : ℤ := 30*second

def maxPeers : ℤ := 256

structure PeerState where
 (genTime lastSeen : ℤ)

structure Announcement where
 nodeName : String
 genTime : ℤ

structure ConfigGossiper where
 nodeName : String
 currentGenTime : ℤ := 0
 peerVersions : KeyedMap String PeerState := ∅
 (peerCount lastResyncTime : ℤ := 0)

open ConfigGossiper
namespace ConfigGossiper

def updateGenTime (g : ConfigGossiper) (genTime : ℤ) : ConfigGossiper :=
 { g with currentGenTime := genTime }

def broadcast (g : ConfigGossiper) : Option Announcement :=
 if g.currentGenTime = 0 then none else some ⟨g.nodeName,g.currentGenTime⟩

def handleMessage (g : ConfigGossiper) (msg : Announcement) (now : ℤ) : ConfigGossiper :=
 let peerVersions := g.peerVersions.set msg.nodeName ⟨msg.genTime,now⟩
 if msg.nodeName = g.nodeName then g
 else match g.peerVersions.find? msg.nodeName with
  | none =>
   if maxPeers ≤ g.peerCount then g
   else { g with peerVersions := peerVersions, peerCount := g.peerCount+1 }
  | some _ => { g with peerVersions := peerVersions }

def expired (now : ℤ) (peer : PeerState) : Bool := peerExpiry < now - peer.lastSeen

def newer (g : ConfigGossiper) (peer : PeerState) : Bool :=
 g.currentGenTime+genTimeThreshold < peer.genTime

/-- The second component says whether `forceResyncFunc` is called. -/
def checkQuorum (g : ConfigGossiper) (now : ℤ) : ConfigGossiper × Bool :=
 if g.currentGenTime = 0 then (g,false)
 else if 0 < g.lastResyncTime ∧ now - g.lastResyncTime < resyncCooldown then (g,false)
 else
  let known := g.peerVersions.values.filter fun peer => !expired now peer
  let total := known.length
  let newerCount := (known.filter g.newer).length
  let g := { g with
   peerVersions := g.peerVersions.deleteIf fun e => expired now e.2
   peerCount := g.peerCount - (g.peerVersions.values.filter (expired now)).length }
  if 0 < total ∧ total / 2 < newerCount then ({ g with lastResyncTime := now },true)
  else (g,false)

end ConfigGossiper

structure Built (V : Type*) where
 node : String
 version : V
 generationTime : ℤ

structure Agent (V : Type*) where
 gossiper : ConfigGossiper
 applied : Option (Built V) := none

/-- `built` is history. Datagrams may be repeated, and snapshots in flight reordered or lost. -/
structure Fleet (R V : Type*) where
 now : ℤ
 controller : Server R V
 inFlight : List (Built V) := []
 agents : KeyedMap String (Agent V) := ∅
 announcements : List Announcement := []
 built : List (Built V) := []

open Fleet
inductive FleetOp (R : Type*)
 | wait (duration : ℕ)
 | controller (op : Op R)
 | start (node : String)
 | stop (node : String)
 | apply (i : ℕ) (ok : Bool)
 | broadcast (node : String)
 | hear (node : String) (i : ℕ)
 | checkQuorum (node : String)

section
variable {R V : Type*} [DecidableEq V] (version : R → String → V)

def sendsOn (r : R) (built : Bool) (st : ConfigStream V) : Option (String × V) :=
 if built = true ∧ version r st.node ≠ st.lastVersion then some (st.node,version r st.node)
 else none

def sends (c : Server R V) : Op R → Option (String × V)
 | .openStream node true => some (node,version c.resources node)
 | .update i built => do
  let st ← c.streams[i]?
  if st.pending = 0 then none else sendsOn version c.resources built st
 | .tick i built =>
  if c.dirty = true ∧ c.streams[i]?.any ConfigStream.subscribed = true then do
   let st ← c.streams[i]?
   sendsOn version c.resources built st
  else none
 | _ => none

namespace Fleet

def send (s : Fleet R V) (sent : Option (String × V)) : Fleet R V :=
 match sent with
 | none => s
 | some (node,v) =>
  let b : Built V := ⟨node,v,unix s.now⟩
  { s with inFlight := s.inFlight ++ [b], built := b::s.built }

def updateAgent (s : Fleet R V) (node : String) (f : Agent V → Agent V) : Fleet R V :=
 match s.agents.find? node with
 | none => s
 | some a => { s with agents := s.agents.set node (f a) }

def step (s : Fleet R V) : FleetOp R → Fleet R V
 | .wait duration => { s with now := s.now+duration }
 | .controller op =>
  { s.send (sends version s.controller op) with controller := s.controller.step version op }
 | .start node =>
  if (s.agents.find? node).isSome then s
  else { s with agents := s.agents.set node { gossiper := { nodeName := node } } }
 | .stop node => { s with agents := s.agents.delete node }
 | .apply i ok => match s.inFlight[i]? with
  | none => s
  | some b =>
   let s := { s with inFlight := s.inFlight.eraseIdx i }
   if ok then
    s.updateAgent b.node fun a => ⟨a.gossiper.updateGenTime b.generationTime,some b⟩
   else s
 | .broadcast node => match s.agents.find? node with
  | none => s
  | some a => { s with announcements := s.announcements ++ a.gossiper.broadcast.toList }
 | .hear node i => match s.announcements[i]? with
  | none => s
  | some msg =>
   s.updateAgent node fun a => { a with gossiper := a.gossiper.handleMessage msg s.now }
 | .checkQuorum node =>
  s.updateAgent node fun a => { a with gossiper := (a.gossiper.checkQuorum s.now).1 }

def initial (resources : R) (now : ℤ) : Fleet R V where
 now := now
 controller := ⟨resources,0,false,none,[]⟩

def AllUpToDate (s : Fleet R V) : Prop := ∀ node a, s.agents.find? node = some a →
  ∃ b, a.applied = some b ∧ b.version = version s.controller.resources node

def Calm (s : Fleet R V) : Prop := AllUpToDate version s → ∀ node a, s.agents.find? node = some a →
  (a.gossiper.checkQuorum s.now).2 = false

def Held (s : Fleet R V) (b : Built V) : Prop :=
 b ∈ s.inFlight ∨ ∃ node a, s.agents.find? node = some a ∧ a.applied = some b

/-- No snapshot is sent a minute after one of its content that an agent has, will get or got before.
-/
def KeepsPace (s : Fleet R V) : FleetOp R → Prop
 | .controller op =>
  (∀ node v, sends version s.controller op = some (node,v) → ∀ b, s.Held b → b.node ≠ node →
   b.version = version s.controller.resources b.node →
    unix s.now ≤ b.generationTime+genTimeThreshold) ∧
  ∀ r, op = .change r → ∀ b, s.Held b → b.version = version r b.node →
   ∀ b' ∈ s.built, b'.node ≠ b.node → b'.generationTime ≤ b.generationTime+genTimeThreshold
 | _ => True

end Fleet
end

def GivenTo {V : Type*} (built : List (Built V)) (node : String) (genTime : ℤ) : Prop :=
 ∃ b ∈ built, b.node = node ∧ b.generationTime = genTime

structure Agent.Sound {V : Type*} (built : List (Built V)) (node : String) (a : Agent V) :
  Prop where
 name : a.gossiper.nodeName = node
 genTime : ∀ b, a.applied = some b → b.node = node ∧ a.gossiper.currentGenTime = b.generationTime
 idle : a.applied = none → a.gossiper.currentGenTime = 0
 peers : ∀ p st, a.gossiper.peerVersions.find? p = some st → p ≠ node ∧ GivenTo built p st.genTime

structure Fleet.Paced {R V : Type*} (version : R → String → V) (s : Fleet R V) : Prop where
 agents : ∀ node a, s.agents.find? node = some a → a.Sound s.built node
 announcements : ∀ m ∈ s.announcements, GivenTo s.built m.nodeName m.genTime
 held : ∀ b, s.Held b → b ∈ s.built
 past : ∀ b ∈ s.built, b.generationTime ≤ unix s.now
 pace : ∀ b, s.Held b → b.version = version s.controller.resources b.node → ∀ b' ∈ s.built,
  b'.node ≠ b.node → b'.generationTime ≤ b.generationTime+genTimeThreshold

lemma unix_mono {a b : ℤ} (h : a ≤ b) : unix a ≤ unix b := Int.ediv_le_ediv (by decide) h

lemma exists_newer_of_checkQuorum {g : ConfigGossiper} {now : ℤ}
  (h : (g.checkQuorum now).2 = true) :
  g.currentGenTime ≠ 0 ∧ ∃ p st, g.peerVersions.find? p = some st ∧ g.newer st = true := by
 unfold checkQuorum at h
 by_cases h0 : g.currentGenTime = 0
 · simp [h0] at h
 by_cases hc : 0 < g.lastResyncTime ∧ now - g.lastResyncTime < resyncCooldown
 · simp [h0,hc] at h
 dsimp only at h
 split_ifs at h with hq
 refine ⟨h0,?_⟩
 have ho : 0 < ((g.peerVersions.values.filter fun peer =>
   !expired now peer).filter g.newer).length := by omega
 obtain ⟨st,ht⟩ := exists_mem_of_length_pos ho
 obtain ⟨hk,hn⟩ := mem_filter.mp ht
 obtain ⟨p,hp⟩ := mem_values_iff.mp (mem_filter.mp hk).1
 exact ⟨p,st,hp,hn⟩

section
variable {R V : Type*} {ver : R → String → V} {s : Fleet R V}

variable {bui : List (Built V)} {node : String}

lemma GivenTo.mono {blt' : List (Built V)} (hu : ∀ b ∈ bui, b ∈ blt') {gt : ℤ}
  (h : GivenTo bui node gt) : GivenTo blt' node gt := by
 obtain ⟨b,hb,hp⟩ := h
 exact ⟨b,hu b hb,hp⟩

variable {a : Agent V}

lemma Agent.Sound.mono {bui' : List (Built V)} (hu : ∀ b ∈ bui, b ∈ bui')
  (h : a.Sound bui node) : a.Sound bui' node :=
 ⟨h.name,h.genTime,h.idle,fun p st hp => ⟨(h.peers p st hp).1,(h.peers p st hp).2.mono hu⟩⟩

/-- An agent that is up to date hears of no time that is much newer. -/
lemma Fleet.Paced.calm (h : s.Paced ver) : s.Calm ver := by
 intro hu node a ha
 have ho := h.agents node a ha
 obtain ⟨b,hap,hc⟩ := hu node a ha
 obtain ⟨hn,hg⟩ := ho.genTime b hap
 by_contra hf
 obtain ⟨-,p,st,hp,hw⟩ := exists_newer_of_checkQuorum (Bool.not_eq_false _ ▸ hf)
 obtain ⟨hne,b',hb',hb,hbg⟩ := ho.peers p st hp
 have hpa := h.pace b (.inr ⟨node,a,ha,hap⟩) (hn ▸ hc) b' hb' (by rw [hb,hn]; exact hne)
 rw [newer,decide_eq_true_eq,hg,← hbg] at hw
 omega

/-! One lemma for each way in which a step changes the fleet. -/

lemma Fleet.Paced.wait (h : s.Paced ver) (dur : ℕ) :
  ({ s with now := s.now+dur } : Fleet R V).Paced ver :=
 ⟨h.agents,h.announcements,h.held,
  fun b hb => (h.past b hb).trans (unix_mono (Int.le_add_of_nonneg_right (Int.natCast_nonneg _))),
  h.pace⟩

lemma Fleet.Paced.withAgents (h : s.Paced ver) (age : KeyedMap String (Agent V))
  (ho : ∀ node a, age.find? node = some a → a.Sound s.built node)
  (hh : ∀ node a b, age.find? node = some a → a.applied = some b → s.Held b) :
  ({ s with agents := age } : Fleet R V).Paced ver := by
 have hu : ∀ b, ({ s with agents := age } : Fleet R V).Held b → s.Held b := by
  rintro b (hb | ⟨node,a,ha,hb⟩)
  · exact .inl hb
  · exact hh node a b ha hb
 exact ⟨ho,h.announcements,fun b hb => h.held b (hu b hb),h.past, fun b hb => h.pace b (hu b hb)⟩

lemma Fleet.Paced.updateAgent (h : s.Paced ver) {f : Agent V → Agent V}
  (ho : ∀ a, s.agents.find? node = some a → (f a).Sound s.built node)
  (hh : ∀ a b, s.agents.find? node = some a → (f a).applied = some b → s.Held b) :
  (s.updateAgent node f).Paced ver := by
 unfold Fleet.updateAgent
 cases ha : s.agents.find? node with
 | none => exact h
 | some a =>
  refine h.withAgents _ (fun node' a' ha' => ?_) fun node' a' b ha' hb => ?_
  · rcases find?_set_eq_some_iff.mp ha' with ⟨rfl,rfl⟩ | ⟨-,ha'⟩
    · exact ho a ha
    · exact h.agents node' a' ha'
  · rcases find?_set_eq_some_iff.mp ha' with ⟨rfl,rfl⟩ | ⟨-,ha'⟩
    · exact hh a b ha hb
    · exact .inr ⟨node',a',ha',hb⟩

lemma Fleet.Paced.eraseInFlight (h : s.Paced ver) (i : ℕ) :
  ({ s with inFlight := s.inFlight.eraseIdx i } : Fleet R V).Paced ver := by
 have hu : ∀ b, ({ s with inFlight := s.inFlight.eraseIdx i } : Fleet R V).Held b → s.Held b := by
  rintro b (hb | hb)
  · exact .inl (mem_of_mem_eraseIdx hb)
  · exact .inr hb
 exact ⟨h.agents,h.announcements,fun b hb => h.held b (hu b hb),h.past,
  fun b hb => h.pace b (hu b hb)⟩

lemma Fleet.updateAgent_eraseInFlight (s : Fleet R V) (i : ℕ) (node : String)
  (f : Agent V → Agent V) :
  ({ s with inFlight := s.inFlight.eraseIdx i } : Fleet R V).updateAgent node f =
   { s.updateAgent node f with inFlight := (s.updateAgent node f).inFlight.eraseIdx i } := by
 unfold updateAgent
 cases s.agents.find? node <;> rfl

lemma sound_handleMessage (h : a.Sound bui node) {msg : Announcement}
  (hm : GivenTo bui msg.nodeName msg.genTime) (now : ℤ) :
  ({ a with gossiper := a.gossiper.handleMessage msg now } : Agent V).Sound bui node := by
 unfold handleMessage
 by_cases ho : msg.nodeName = a.gossiper.nodeName
 · rw [if_pos ho]
   exact h
 · rw [if_neg ho]
   have hpe : ∀ p st, (a.gossiper.peerVersions.set msg.nodeName ⟨msg.genTime,now⟩).find? p =
     some st → p ≠ node ∧ GivenTo bui p st.genTime := by
    intro p st hp
    rcases find?_set_eq_some_iff.mp hp with ⟨rfl,rfl⟩ | ⟨-,hp⟩
    · exact ⟨h.name ▸ ho,hm⟩
    · exact h.peers p st hp
   split
   · split_ifs
     · exact h
     · exact ⟨h.name,h.genTime,h.idle,hpe⟩
   · exact ⟨h.name,h.genTime,h.idle,hpe⟩

lemma sound_checkQuorum (h : a.Sound bui node) (now : ℤ) :
  ({ a with gossiper := (a.gossiper.checkQuorum now).1 } : Agent V).Sound bui node := by
 have hpe : ∀ p st,
   (a.gossiper.peerVersions.deleteIf fun e => expired now e.2).find? p = some st →
    p ≠ node ∧ GivenTo bui p st.genTime := by
  intro p st hp
  rw [find?_deleteIf] at hp
  exact h.peers p st (Option.eq_some_of_filter_eq_some hp)
 unfold checkQuorum
 split_ifs
 · exact h
 · exact h
 · dsimp only
   split_ifs <;> exact ⟨h.name,h.genTime,h.idle,hpe⟩

lemma givenTo_broadcast (h : s.Paced ver) (ha : s.agents.find? node = some a)
  {m : Announcement} (hm : a.gossiper.broadcast = some m) :
  GivenTo s.built m.nodeName m.genTime := by
 have ho := h.agents node a ha
 unfold broadcast at hm
 split_ifs at hm with h0
 cases hm
 cases hp : a.applied with
 | none => exact absurd (ho.idle hp) h0
 | some b =>
  obtain ⟨hn,hg⟩ := ho.genTime b hp
  exact ⟨b,h.held b (.inr ⟨node,a,ha,hp⟩),hn.trans ho.name.symm,hg.symm⟩

lemma Fleet.Paced.send (h : s.Paced ver) (node : String) (v : V)
  (hp : ∀ b, s.Held b → b.node ≠ node → b.version = ver s.controller.resources b.node →
   unix s.now ≤ b.generationTime+genTimeThreshold) : (s.send (some (node,v))).Paced ver := by
 have hu : ∀ b ∈ s.built, b ∈ (s.send (some (node,v))).built := fun b hb => mem_cons_of_mem _ hb
 have hh : ∀ b, (s.send (some (node,v))).Held b → b = ⟨node,v,unix s.now⟩ ∨ s.Held b := by
  rintro b (hb | hb)
  · rcases mem_append.mp hb with hb | hb
    · exact .inr (.inl hb)
    · exact .inl (mem_singleton.mp hb)
  · exact .inr (.inr hb)
 refine ⟨fun node a ha => (h.agents node a ha).mono hu,
  fun m hm => (h.announcements m hm).mono hu,fun b hb => ?_,fun b hb => ?_,?_⟩
 · rcases hh b hb with rfl | hb
   · exact mem_cons_self
   · exact hu b (h.held b hb)
 · rcases mem_cons.mp hb with rfl | hb
   · exact le_rfl
   · exact h.past b hb
 · intro b hb hc b' hb' hn
   rcases hh b hb with rfl | hb
   · rcases mem_cons.mp hb' with rfl | hb'
     · exact absurd rfl hn
     · have hps := h.past b' hb'
       change b'.generationTime ≤ unix s.now+genTimeThreshold
       unfold genTimeThreshold
       omega
   · rcases mem_cons.mp hb' with rfl | hb'
     · exact hp b hb hn.symm hc
     · exact h.pace b hb hc b' hb' hn

variable [DecidableEq V]

lemma resources_step (c : Server R V) (op : Op R) :
  (∃ r, op = .change r ∧ (c.step ver op).resources = r ∧ sends ver c op = none) ∨
   (c.step ver op).resources = c.resources := by
 cases op with
 | change r => exact .inl ⟨r,rfl,rfl,rfl⟩
 | debounceFires =>
  right
  simp only [Server.step]
  split <;> rfl
 | openStream node bui | tick i bui =>
  right
  simp only [Server.step]
  split_ifs <;> rfl
 | triggerUpdate | subscribe | update | closeStream => exact .inr rfl

section
variable (h : s.Paced ver)
include h

lemma Fleet.Paced.controller {op : Op R} (hp : s.KeepsPace ver (.controller op)) :
  (s.step ver (.controller op)).Paced ver := by
 rcases @resources_step R V ver _ s.controller op with ⟨r,rfl,hr,hn⟩ | ha
 · -- the content changes and nothing is sent
   exact ⟨h.agents,h.announcements,h.held,h.past,hp.2 r rfl⟩
 · have hse : (s.send (sends ver s.controller op)).Paced ver := by
    cases hs : sends ver s.controller op with
    | none => exact h
    | some sent => exact h.send sent.1 sent.2 (hp.1 sent.1 sent.2 hs)
   have hre : (s.send (sends ver s.controller op)).controller = s.controller := by
    cases sends ver s.controller op <;> rfl
   refine ⟨hse.agents,hse.announcements,hse.held,hse.past,fun b hb hc => ?_⟩
   refine hse.pace b hb ?_
   rw [hre]
   exact hc.trans (congrArg (ver · b.node) ha)

lemma Fleet.Paced.start (node : String) : (s.step ver (.start node)).Paced ver := by
 simp only [step]
 split_ifs with hr
 · exact h
 · refine h.withAgents _ (fun node' a ha => ?_) fun node' a b ha hb => ?_
   · rcases find?_set_eq_some_iff.mp ha with ⟨rfl,rfl⟩ | ⟨-,ha⟩
     · exact ⟨rfl,by simp,by simp,by simp⟩
     · exact h.agents node' a ha
   · rcases find?_set_eq_some_iff.mp ha with ⟨rfl,rfl⟩ | ⟨-,ha⟩
     · cases hb
     · exact .inr ⟨node',a,ha,hb⟩

lemma Fleet.Paced.apply (i : ℕ) (ok : Bool) : (s.step ver (.apply i ok)).Paced ver := by
 simp only [step]
 cases hb : s.inFlight[i]? with
 | none => exact h
 | some b =>
  dsimp only
  have hh : s.Held b := .inl (mem_of_getElem? hb)
  cases ok with
  | false => exact h.eraseInFlight i
  | true =>
   rw [if_pos rfl,updateAgent_eraseInFlight]
   refine (h.updateAgent (fun a ha => ?_) fun a b' _ hb' => ?_).eraseInFlight i
   · have ho := h.agents b.node a ha
     refine ⟨ho.name,fun b' hb' => ?_,fun hn => (by cases hn),ho.peers⟩
     cases hb'
     exact ⟨rfl,rfl⟩
   · exact Option.some.inj hb' ▸ hh

lemma Fleet.Paced.step {op : FleetOp R} (hp : s.KeepsPace ver op) : (s.step ver op).Paced ver := by
 cases op with
 | wait duration => exact h.wait duration
 | controller op => exact h.controller hp
 | start node => exact h.start node
 | stop node =>
  refine h.withAgents _ (fun node' a ha => ?_) fun node' a b ha hb => ?_
  · exact h.agents node' a (find?_delete_eq_some_iff.mp ha).2
  · exact .inr ⟨node',a,(find?_delete_eq_some_iff.mp ha).2,hb⟩
 | apply i ok => exact h.apply i ok
 | broadcast node =>
  simp only [Fleet.step]
  cases ha : s.agents.find? node with
  | none => exact h
  | some a =>
   refine ⟨h.agents,fun m hm => ?_,h.held,h.past,h.pace⟩
   rcases mem_append.mp hm with hm | hm
   · exact h.announcements m hm
   · exact givenTo_broadcast h ha (Option.mem_toList.mp hm)
 | hear node i =>
  simp only [Fleet.step]
  cases hm : s.announcements[i]? with
  | none => exact h
  | some msg =>
   refine h.updateAgent (fun a ha => ?_) fun a b ha hb => .inr ⟨node,a,ha,hb⟩
   exact sound_handleMessage (h.agents node a ha) (h.announcements msg (mem_of_getElem? hm)) _
 | checkQuorum node =>
  refine h.updateAgent (fun a ha => ?_) fun a b ha hb => .inr ⟨node,a,ha,hb⟩
  exact sound_checkQuorum (h.agents node a ha) _

end

omit [DecidableEq V] in
lemma paced_initial (ress : R) (now : ℤ) : (initial ress now : Fleet R V).Paced ver := by
 refine ⟨by simp [initial],by simp [initial],?_,by simp [initial],?_⟩
 · rintro b (hb | ⟨node,a,ha,-⟩)
   · cases hb
   · cases ha
 · intro b _ _ b' hb'
   cases hb'

end

theorem no_resync_of_up_to_date {R V : Type*} [DecidableEq V] (version : R → String → V)
  (resources : R) (now : ℤ) (ops : List (FleetOp R))
  (hpace : Along (step version) (Fleet.KeepsPace version)
   (initial resources now) ops) (n : ℕ) :
  ((ops.take n).foldl (step version) (initial resources now)).Calm version := by
 have hp := invariant_take_of_along
  (fun (s : Fleet R V) op (hs : s.Paced version) ho => hs.step ho)
  (paced_initial resources now) hpace n
 exact hp.calm

/-- The content never changes: agent `a` connects, agent `b` connects `delay` seconds later, and `a`
hears from `b`. -/
def secondAgent (delay : ℕ) : List (FleetOp ℕ) :=
 [.start "a",.controller (.openStream "a" true),.apply 0 true,.wait (delay*1000000000),
  .start "b",.controller (.openStream "b" true),.apply 0 true,.broadcast "b",.hear "a" 0]

def afterSecondAgent (delay : ℕ) : Fleet ℕ ℕ :=
 (secondAgent delay).foldl (Fleet.step counterVersion) (.initial 7 (1000*second))

lemma allUpToDate_iff {R V : Type*} [DecidableEq V] {ver : R → String → V} {s : Fleet R V} :
  s.AllUpToDate ver ↔ ∀ e ∈ s.agents.pairs,
   e.2.applied.any (fun b => b.version = ver s.controller.resources e.1) = true := by
 constructor
 · rintro h ⟨node,a⟩ he
   obtain ⟨b,hb,hc⟩ := h node a (mem_pairs_iff.mp he)
   simp [hb,hc]
 · intro h node a ha
   have hn := h (node,a) (mem_pairs_iff.mpr ha)
   simpa [Option.any_eq_true] using hn

lemma held_iff {R V : Type*} {s : Fleet R V} {b : Built V} :
  s.Held b ↔ b ∈ s.inFlight ++ s.agents.pairs.filterMap fun e => e.2.applied := by
 rw [mem_append,mem_filterMap]
 constructor
 · rintro (hb | ⟨node,a,ha,hb⟩)
   · exact .inl hb
   · exact .inr ⟨(node,a),mem_pairs_iff.mpr ha,hb⟩
 · rintro (hb | ⟨⟨node,a⟩,he,hb⟩)
   · exact .inl hb
   · exact .inr ⟨node,a,mem_pairs_iff.mp he,hb⟩

/-- After two minutes the younger snapshot of the same content makes `a` drop its stream. -/
theorem resync_of_up_to_date_agent :
  let s := afterSecondAgent 120
  s.AllUpToDate counterVersion ∧
   (s.agents.find? "a").map (fun a => (a.gossiper.checkQuorum s.now).2) = some true ∧
   ¬ s.Calm counterVersion := by
 intro s
 have hf : (s.agents.find? "a").map (fun a => (a.gossiper.checkQuorum s.now).2) = some true := by
  decide
 have hu : s.AllUpToDate counterVersion := allUpToDate_iff.mpr (by decide)
 refine ⟨hu,hf,fun hca => ?_⟩
 obtain ⟨a,ha,hc⟩ := map_eq_some_iff.mp hf
 rw [hca hu "a" a ha] at hc
 cases hc

/-- With half a minute between the two builds nothing happens. -/
theorem no_resync_after_prompt_connection :
  let s := afterSecondAgent 30
  s.AllUpToDate counterVersion ∧
   (s.agents.find? "a").map (fun a => (a.gossiper.checkQuorum s.now).2) = some false := by
 intro s
 have hpa : Along (step counterVersion)
   (Fleet.KeepsPace counterVersion) (initial 7 (1000*second))
   (secondAgent 30) := by
  have hp : ∀ {t : Fleet ℕ ℕ} {op : Op ℕ}, (∀ r, op ≠ .change r) →
    (∀ b ∈ t.inFlight ++ t.agents.pairs.filterMap fun e => e.2.applied,
     unix t.now ≤ b.generationTime+genTimeThreshold) →
    t.KeepsPace counterVersion (.controller op) := fun ho hb =>
   ⟨fun _ _ _ b hh _ _ => hb b (held_iff.mp hh),fun r hr => absurd hr (ho r)⟩
  exact ⟨trivial,hp (by simp) (by decide),trivial,trivial,trivial,
   hp (by simp) (by decide),trivial,trivial,trivial,trivial⟩
 have hc := no_resync_of_up_to_date counterVersion 7 (1000*second) (secondAgent 30) hpa 9
 have hu : s.AllUpToDate counterVersion := allUpToDate_iff.mpr (by decide)
 obtain ⟨a,ha⟩ : ∃ a, s.agents.find? "a" = some a := isSome_iff_exists.mp (by decide)
 refine ⟨hu,?_⟩
 rw [ha]
 exact congrArg some (hc hu "a" a ha)

end NovaEdge.Gossip
