import NovaEdge.FederationQuorum
import NovaEdge.FederationRun

/-! Fencing of writes by the split-brain detector. Contacts, failures, ticks of the detection
loop and the goroutines that wait out the grace period interleave at the points where the
source takes a lock. -/
namespace NovaEdge.Federation

inductive PartitionState
 | healthy
 | suspected
 | confirmed
 | healing
 deriving DecidableEq

/-- `healedAt` is the zero time until the partition heals. -/
structure PartitionInfo where
 state : PartitionState
 detectedAt : Instant
 healedAt : Option Instant
 (reachablePeers unreachablePeers : List String)
 (haveQuorum writesFenced : Bool)

/-- The detector with its partition state and the server it watches; `peerStates` are the
peers the server knows. -/
structure PartitionDetector extends SplitBrainDetector where
 healingGracePeriod : ℤ
 autoResolveOnHeal : Bool
 state : PartitionState
 partitionInfo : Option PartitionInfo
 server : Server
 peerStates : List String

namespace PartitionDetector

def unreachableAmong (d : PartitionDetector) (fresh : List String) : List String :=
 d.peerStates.filter fun p => p ∉ fresh

def healedAt (d : PartitionDetector) : Option Instant := d.partitionInfo.bind (·.healedAt)

def getUnreachablePeerNames (d : PartitionDetector) (now : Instant) : List String :=
 d.unreachableAmong (d.getReachablePeerNames now)

def transitionToHealthy (d : PartitionDetector) : PartitionDetector :=
 { d with state := .healthy, partitionInfo := none, writesFenced := false }

def fence (d : PartitionDetector) : PartitionDetector :=
 if d.config.fencingEnabled then
  { d with
    writesFenced := true
    partitionInfo := d.partitionInfo.map fun info => { info with writesFenced := true } }
 else d

/-- The switch of `checkForPartition` on the present state, with some peers out of reach. -/
def suspect (d : PartitionDetector) (reachable unreachable : List String) (now : Instant) :
  PartitionDetector :=
 match d.state with
 | .healthy =>
  { d with
    state := .suspected
    partitionInfo := some
     { state := .suspected
       detectedAt := now
       healedAt := none
       reachablePeers := reachable
       unreachablePeers := unreachable
       haveQuorum := d.haveQuorum now
       writesFenced := false } }
 | .confirmed | .healing => d
 | .suspected =>
  match d.partitionInfo with
  | some info =>
   if d.config.partitionTimeout < now - info.detectedAt then
    fence { d with
     state := .confirmed
     partitionInfo := some { info with state := .confirmed } }
   else d
  | none => d

def isolate (d : PartitionDetector) (unreachable : List String) (now : Instant) :
  PartitionDetector :=
 if d.state ≠ .confirmed then
  fence { d with
   state := .confirmed
   partitionInfo := some
    { state := .confirmed
      detectedAt := now
      healedAt := none
      reachablePeers := []
      unreachablePeers := unreachable
      haveQuorum := false
      writesFenced := false } }
 else d

/-- What `checkForPartition` does under the state lock, with the two lists read before it. -/
def checkForPartition (d : PartitionDetector) (reachable unreachable : List String)
  (now : Instant) : PartitionDetector :=
 if unreachable = [] then
  if d.state ≠ .healthy then d.transitionToHealthy else d
 else
  let d := if reachable = [] then d else d.suspect reachable unreachable now
  if reachable = [] ∧ 0 < d.totalPeers then d.isolate unreachable now else d

/-- What `checkPartitionHealing` does under the state lock, and whether it starts a healing
goroutine. -/
def checkPartitionHealing (d : PartitionDetector) (unreachable : List String) (now : Instant) :
  PartitionDetector × Bool :=
 if d.state ≠ .confirmed ∧ d.state ≠ .suspected then (d,false)
 else if unreachable = [] then
  ({ d with
   state := .healing
   partitionInfo := d.partitionInfo.map fun info =>
    { info with state := .healing, healedAt := some now } },true)
 else (d,false)

/-- Every pending conflict is resolved for the remote version; a failed one is only logged. -/
def resolveAll (s : Server) (conflicts : List ConflictInfo) : Server :=
 conflicts.foldl (fun s c => (s.resolveConflict c.key.string false).1) s

def healWith (d : PartitionDetector) (conflicts : List ConflictInfo) :
  PartitionDetector :=
 if d.state ≠ .healing then d
 else
  let d := if d.autoResolveOnHeal then { d with server := resolveAll d.server conflicts } else d
  transitionToHealthy { d with writesFenced := false }

def runHealingProcess (d : PartitionDetector) := d.healWith d.server.conflicts.values

end PartitionDetector

/-- By what they have read so far; `checkQuorum` may run at any time. -/
inductive Call
 | checkForPartition
 | partitionReachable (reachable : List String)
 | partitionContacts (reachable fresh : List String)
 | partitionRead (reachable unreachable : List String)
 | checkPartitionHealing
 | healingContacts (fresh : List String)
 | healingRead (unreachable : List String)
 | runHealingProcess (deadline : Instant)

/-- One step of a call: the state it leaves and the calls it continues as. -/
def Call.run (d : PartitionDetector) (now : Instant) : Call → PartitionDetector × List Call
 | .checkForPartition => (d,[.partitionReachable (d.getReachablePeerNames now)])
 | .partitionReachable reachable =>
  (d,[.partitionContacts reachable (d.getReachablePeerNames now)])
 | .partitionContacts reachable fresh => (d,[.partitionRead reachable (d.unreachableAmong fresh)])
 | .partitionRead reachable unreachable => (d.checkForPartition reachable unreachable now,[])
 | .checkPartitionHealing => (d,[.healingContacts (d.getReachablePeerNames now)])
 | .healingContacts fresh => (d,[.healingRead (d.unreachableAmong fresh)])
 | .healingRead unreachable =>
  let (d,started) := d.checkPartitionHealing unreachable now
  (d,if started then [.runHealingProcess (now+d.healingGracePeriod)] else [])
 | .runHealingProcess _ => (d.runHealingProcess,[])

def Call.ready (now : Instant) : Call → Bool
 | .runHealingProcess deadline => deadline ≤ now
 | _ => true

inductive FencingOp
 | recordPeerContact (peerName : String)
 | recordPeerFailure (peerName : String)
 | tick
 | checkQuorum
 | updatePeerState (peerName : String)
 | server (op : Op)
 | resume (i : ℕ)
 | stop
 | cancel (i : ℕ)

/-- `contacts` and `disturbed` are histories that the code does not keep. -/
structure FencingState where
 detector : PartitionDetector
 calls : List Call
 stopped : Bool
 clock : Instant
 contacts : List (String × Instant)
 disturbed : Bool

open FencingState
namespace FencingState

def act (codec : Codec) (r : FencingState) (now : Instant) :
  FencingOp → Option (PartitionDetector × List Call)
 | .recordPeerContact p =>
  some ({ r.detector with toSplitBrainDetector := r.detector.recordPeerContact p now },
   r.calls ++ [.checkPartitionHealing])
 | .recordPeerFailure _ => some (r.detector,r.calls ++ [.checkForPartition])
 | .tick => some (r.detector,r.calls ++ [.checkForPartition])
 | .checkQuorum =>
  some ({ r.detector with toSplitBrainDetector := r.detector.checkQuorum now },r.calls)
 | .updatePeerState p =>
  some ({ r.detector with
   peerStates := if p ∈ r.detector.peerStates then r.detector.peerStates
    else r.detector.peerStates ++ [p] },r.calls)
 | .server op => some ({ r.detector with server := r.detector.server.step codec op },r.calls)
 | .resume i =>
  match r.calls[i]? with
  | some call =>
   if call.ready now then
    let (d,continued) := call.run r.detector now
    some (d,r.calls.eraseIdx i ++ continued)
   else none
  | none => none
 | .stop => some (r.detector,r.calls)
 -- the goroutine returns on a cancelled context, whether or not its timer has fired
 | .cancel i =>
  match r.calls[i]? with
  | some (.runHealingProcess _) =>
   if r.stopped then some (r.detector,r.calls.eraseIdx i) else none
  | _ => none

def recorded (r : FencingState) (now : Instant) : FencingOp → List (String × Instant)
 | .recordPeerContact p => (p,now)::r.contacts
 | _ => r.contacts

/-- The disturbance of a healing counts from the step that starts it. -/
def disturbance (r : FencingState) (d : PartitionDetector) (now : Instant) : Bool :=
 (r.disturbed && !(r.detector.state ≠ .healing && d.state = .healing)) ||
  r.detector.getUnreachablePeerNames now ≠ [] || d.peerStates ≠ r.detector.peerStates

def step (codec : Codec) (r : FencingState) (e : FencingOp × Instant) : Option FencingState :=
 (r.act codec e.2 e.1).map fun (d,calls) =>
  { detector := d
    calls := calls
    stopped := r.stopped || e.1 matches .stop
    clock := e.2
    contacts := r.recorded e.2 e.1
    disturbed := r.disturbance d e.2 }

def Fresh (r : FencingState) : Prop := ∃ config grace autoResolve server peers known start,
  r = { detector :=
          { managerDetector config peers with
            healingGracePeriod := grace
            autoResolveOnHeal := autoResolve
            state := .healthy
            partitionInfo := none
            server := server
            peerStates := known }
        calls := []
        stopped := false
        clock := start
        contacts := []
        disturbed := false }

end FencingState

def fencingSystem (codec : Codec) : TransitionSystem FencingState (FencingOp × Instant) where
 init := FencingState.Fresh
 step r e t := r.clock ≤ e.2 ∧ r.step codec e = some t

/-- Everything an event can do to the detector, with the call that does it. -/
inductive DetectorChange (codec : Codec) (r : FencingState) (now : Instant) :
  FencingOp → PartitionDetector → Prop
 | idle {op : FencingOp} : DetectorChange codec r now op r.detector
 | contact (p : String) : DetectorChange codec r now (.recordPeerContact p)
   { r.detector with toSplitBrainDetector := r.detector.recordPeerContact p now }
 | quorum : DetectorChange codec r now .checkQuorum
   { r.detector with toSplitBrainDetector := r.detector.checkQuorum now }
 | known (p : String) : DetectorChange codec r now (.updatePeerState p)
   { r.detector with
     peerStates := if p ∈ r.detector.peerStates then r.detector.peerStates
      else r.detector.peerStates ++ [p] }
 | server (op : Op) : DetectorChange codec r now (.server op)
   { r.detector with server := r.detector.server.step codec op }
 | check {i : ℕ} {reachable unreachable : List String}
   (h : r.calls[i]? = some (.partitionRead reachable unreachable)) :
   DetectorChange codec r now (.resume i)
    (r.detector.checkForPartition reachable unreachable now)
 | startHealing {i : ℕ} {unreachable : List String} :
   DetectorChange codec r now (.resume i)
    (r.detector.checkPartitionHealing unreachable now).1
 | endHealing {i : ℕ} {deadline : Instant}
   (h : r.calls[i]? = some (.runHealingProcess deadline)) :
   DetectorChange codec r now (.resume i) r.detector.runHealingProcess

variable {codec : Codec} {r : FencingState}

lemma resume_change {now : Instant} {i : ℕ} {call : Call} (hc : r.calls[i]? = some call) :
  DetectorChange codec r now (.resume i) (call.run r.detector now).1 := by
 cases call with
 | partitionRead reachable unreachable => exact .check hc
 | healingRead unreachable => exact .startHealing
 | runHealingProcess deadline => exact .endHealing hc
 | checkForPartition | partitionReachable reachable | partitionContacts reachable fresh
 | checkPartitionHealing | healingContacts fresh => exact .idle

lemma act_change {now : Instant} {op : FencingOp} {d : PartitionDetector} {cs : List Call}
  (h : r.act codec now op = some (d,cs)) : DetectorChange codec r now op d := by
 cases op with
 | resume i =>
  simp only [act] at h
  split at h
  · next call hc =>
    split at h
    · cases h
      exact resume_change hc
    · cases h
  · cases h
 | cancel i =>
  simp only [act] at h
  split at h
  · split at h
    · cases h
      exact .idle
    · cases h
  · cases h
 | recordPeerContact p =>
  cases h
  exact .contact p
 | checkQuorum =>
  cases h
  exact .quorum
 | updatePeerState p =>
  cases h
  exact .known p
 | server op =>
  cases h
  exact .server op
 | recordPeerFailure p | tick | stop =>
  cases h
  exact .idle

lemma step_change {t : FencingState} {e : FencingOp × Instant} (h : r.step codec e = some t) :
  DetectorChange codec r e.2 e.1 t.detector ∧ t.clock = e.2 ∧
   t.contacts = r.recorded e.2 e.1 ∧ t.disturbed = r.disturbance t.detector e.2 := by
 obtain ⟨⟨d,cs⟩,ha,rfl⟩ := map_eq_some_iff.mp h
 exact ⟨act_change ha,rfl,rfl,rfl⟩

structure SameView (d d' : PartitionDetector) : Prop where
 config : d'.config = d.config
 grace : d'.healingGracePeriod = d.healingGracePeriod
 contacts : d'.reachablePeers = d.reachablePeers
 peers : d'.peerStates = d.peerStates

namespace PartitionDetector
variable {d : PartitionDetector} {rch un : List String} {now : Instant}

lemma fence_view (d : PartitionDetector) : SameView d d.fence := by
 unfold fence
 split_ifs <;> exact ⟨rfl,rfl,rfl,rfl⟩

@[simp] lemma fence_state (d : PartitionDetector) : d.fence.state = d.state := by
 unfold fence
 split_ifs <;> rfl

@[simp] lemma fence_info (d : PartitionDetector) :
  d.fence.partitionInfo.isSome = d.partitionInfo.isSome := by
 unfold fence
 split_ifs
 · simp
 · rfl

lemma fence_fenced (h : d.writesFenced = true) : d.fence.writesFenced = true := by
 unfold fence
 split_ifs
 · rfl
 · exact h

lemma suspect_cases (d : PartitionDetector) (rch un : List String) (now : Instant) :
  d.suspect rch un now = d ∨ SameView d (d.suspect rch un now) ∧
   ((d.suspect rch un now).state = .suspected ∨ (d.suspect rch un now).state = .confirmed) ∧
   (d.suspect rch un now).partitionInfo.isSome ∧
   (d.writesFenced = true → (d.suspect rch un now).writesFenced = true) := by
 unfold suspect
 split
 · exact .inr ⟨⟨rfl,rfl,rfl,rfl⟩,.inl rfl,rfl,id⟩
 · exact .inl rfl
 · exact .inl rfl
 · split
   · split_ifs with ht
     · right
       have hv := fence_view { d with
        state := .confirmed
        partitionInfo := some { ‹PartitionInfo› with state := .confirmed } }
       exact ⟨⟨hv.config,hv.grace,hv.contacts,hv.peers⟩,.inr (by simp),by simp,
        fun h => fence_fenced h⟩
     · exact .inl rfl
   · exact .inl rfl

lemma isolate_cases (d : PartitionDetector) (un : List String) (now : Instant) :
  d.isolate un now = d ∨ SameView d (d.isolate un now) ∧ (d.isolate un now).state = .confirmed ∧
   (d.isolate un now).partitionInfo.isSome ∧
   (d.writesFenced = true → (d.isolate un now).writesFenced = true) := by
 unfold isolate
 split_ifs with hs
 · right
   have hv := fence_view { d with
    state := .confirmed
    partitionInfo := some
     { state := .confirmed, detectedAt := now, healedAt := none, reachablePeers := [],
       unreachablePeers := un, haveQuorum := false, writesFenced := false } }
   exact ⟨⟨hv.config,hv.grace,hv.contacts,hv.peers⟩,by simp,by simp,fun h => fence_fenced h⟩
 · exact .inl rfl

lemma checkForPartition_cases (d : PartitionDetector) (rch un : List String) (now : Instant) :
  d.checkForPartition rch un now = d ∨ (un = [] ∧ d.state ≠ .healthy ∧
    d.checkForPartition rch un now = d.transitionToHealthy) ∨
   SameView d (d.checkForPartition rch un now) ∧
   ((d.checkForPartition rch un now).state = .suspected ∨
    (d.checkForPartition rch un now).state = .confirmed) ∧
   (d.checkForPartition rch un now).partitionInfo.isSome ∧
   (d.writesFenced = true → (d.checkForPartition rch un now).writesFenced = true) := by
 unfold checkForPartition
 by_cases hu : un = []
 · simp only [hu,if_true]
   split_ifs with hs
   · exact .inr (.inl ⟨trivial,hs,rfl⟩)
   · exact .inl rfl
 · by_cases hr : rch = []
   · simp only [hu,hr,if_true,if_false,true_and]
     split_ifs with hp
     · obtain he | ⟨hv,hs,hi,hf⟩ := isolate_cases d un now
       · exact .inl he
       · exact .inr (.inr ⟨hv,.inr hs,hi,hf⟩)
     · exact .inl rfl
   · simp only [hu,hr,if_false,false_and]
     obtain he | hc := suspect_cases d rch un now
     · exact .inl he
     · exact .inr (.inr hc)

lemma checkPartitionHealing_cases (d : PartitionDetector) (un : List String) (now : Instant) :
  (d.checkPartitionHealing un now).1 = d ∨ (d.state = .confirmed ∨ d.state = .suspected) ∧
   (d.checkPartitionHealing un now).1 = { d with
      state := .healing
      partitionInfo := d.partitionInfo.map fun info =>
       { info with state := .healing, healedAt := some now } } := by
 unfold checkPartitionHealing
 split_ifs with hs hu
 · exact .inl rfl
 · exact .inr ⟨by tauto,rfl⟩
 · exact .inl rfl

lemma runHealingProcess_cases (d : PartitionDetector) : d.runHealingProcess = d ∨
      d.state = .healing ∧ SameView d d.runHealingProcess ∧
      d.runHealingProcess.state = .healthy := by
 unfold runHealingProcess healWith
 split_ifs with hs ha
 · exact .inl rfl
 · exact .inr ⟨by tauto,⟨rfl,rfl,rfl,rfl⟩,rfl⟩
 · exact .inr ⟨by tauto,⟨rfl,rfl,rfl,rfl⟩,rfl⟩

end PartitionDetector

def Call.Heals (d : PartitionDetector) : Call → Prop
 | .partitionRead _ unreachable => unreachable = [] ∧ d.state ≠ .healthy
 | .runHealingProcess _ => d.state = .healing
 | _ => False

instance (d : PartitionDetector) : (call : Call) → Decidable (call.Heals d)
 | .partitionRead _ unreachable =>
  inferInstanceAs (Decidable (unreachable = [] ∧ d.state ≠ .healthy))
 | .runHealingProcess _ => inferInstanceAs (Decidable (d.state = .healing))
 | .checkForPartition | .partitionReachable _ | .partitionContacts _ _
 | .checkPartitionHealing | .healingContacts _ | .healingRead _ => isFalse id

namespace FencingState

def Heals (r : FencingState) : FencingOp → Prop
 | .resume i => ∃ call ∈ r.calls[i]?, call.Heals r.detector
 | _ => False

instance (r : FencingState) : (op : FencingOp) → Decidable (r.Heals op)
 | .resume i => inferInstanceAs (Decidable (∃ call ∈ r.calls[i]?, call.Heals r.detector))
 | .recordPeerContact _ | .recordPeerFailure _ | .tick | .checkQuorum | .updatePeerState _
 | .server _ | .stop | .cancel _ => isFalse id

/-- A known peer counts as reached at an instant from its contacts up to then. -/
def ReachedAt (r : FencingState) (p : String) (u : Instant) : Prop :=
 ∃ c, (p,c) ∈ r.contacts ∧ c ≤ u ∧ u - r.detector.config.partitionTimeout < c

def AllReachedAt (r : FencingState) (u : Instant) : Prop :=
 ∀ p ∈ r.detector.peerStates, r.ReachedAt p u

end FencingState

/-- The four ways in which an event can move the partition state. -/
inductive StateChange (r : FencingState) (now : Instant) (op : FencingOp)
  (d : PartitionDetector) : Prop
 | unmoved (hs : d.state = r.detector.state)
   (hi : d.partitionInfo = r.detector.partitionInfo)
   (hf : d.writesFenced = r.detector.writesFenced)
 | healed (h : r.Heals op) (hs : d.state = .healthy)
 | parted (hs : d.state = .suspected ∨ d.state = .confirmed) (hi : d.partitionInfo.isSome)
   (hf : r.detector.writesFenced = true → d.writesFenced = true)
 | healing (hr : r.detector.state ≠ .healthy) (hs : d.state = .healing)
   (hi : d.partitionInfo = r.detector.partitionInfo.map fun info =>
    { info with state := .healing, healedAt := some now })
   (hf : d.writesFenced = r.detector.writesFenced)

section
variable {co : Codec} {r : FencingState} {now : Instant} {op : FencingOp}
 {d : PartitionDetector}

lemma DetectorChange.state_change (h : DetectorChange co r now op d) : StateChange r now op d := by
 cases h with
 | idle | contact p | quorum | known p | server op => exact .unmoved rfl rfl rfl
 | @check i reachable unreachable hc =>
  obtain he | ⟨hu,hs,he⟩ | ⟨-,hs,hi,hf⟩ :=
   r.detector.checkForPartition_cases reachable unreachable now
  · rw [he]
    exact .unmoved rfl rfl rfl
  · rw [he]
    exact .healed ⟨_,hc,hu,hs⟩ rfl
  · exact .parted hs hi hf
 | @startHealing i unreachable =>
  obtain he | ⟨hs,he⟩ := r.detector.checkPartitionHealing_cases unreachable now
  · rw [he]
    exact .unmoved rfl rfl rfl
  · rw [he]
    refine .healing ?_ rfl rfl rfl
    rcases hs with hs | hs <;> simp [hs]
 | @endHealing i deadline hc =>
  obtain he | ⟨hs,-,he⟩ := r.detector.runHealingProcess_cases
  · rw [he]
    exact .unmoved rfl rfl rfl
  · exact .healed ⟨_,hc,hs⟩ he

lemma resume_view {i : ℕ} (h : DetectorChange co r now (.resume i) d) : SameView r.detector d := by
 cases h with
 | idle => exact ⟨rfl,rfl,rfl,rfl⟩
 | @check _ reachable unreachable =>
  obtain he | ⟨-,-,he⟩ | ⟨hv,-⟩ := r.detector.checkForPartition_cases reachable unreachable now
  · rw [he]
    exact ⟨rfl,rfl,rfl,rfl⟩
  · rw [he]
    exact ⟨rfl,rfl,rfl,rfl⟩
  · exact hv
 | @startHealing _ unreachable =>
  obtain he | ⟨-,he⟩ := r.detector.checkPartitionHealing_cases unreachable now
  · rw [he]
    exact ⟨rfl,rfl,rfl,rfl⟩
  · rw [he]
    exact ⟨rfl,rfl,rfl,rfl⟩
 | endHealing =>
  obtain he | ⟨-,hv,-⟩ := r.detector.runHealingProcess_cases
  · rw [he]
    exact ⟨rfl,rfl,rfl,rfl⟩
  · exact hv

lemma DetectorChange.config_eq (h : DetectorChange co r now op d) :
  d.config = r.detector.config := by
 cases op with
 | resume i => exact (resume_view h).config
 | _ => cases h <;> rfl

lemma DetectorChange.contact_mem (h : DetectorChange co r now op d) {p : String} {c : Instant}
  (hc : d.reachablePeers.find? p = some c) :
  r.detector.reachablePeers.find? p = some c ∨ op = .recordPeerContact p ∧ c = now := by
 cases op with
 | resume i => exact .inl ((resume_view h).contacts ▸ hc)
 | recordPeerContact q =>
  cases h with
  | idle => exact .inl hc
  | contact =>
   rcases KeyedMap.find?_set_eq_some_iff.mp hc with ⟨rfl,rfl⟩ | ⟨-,ho⟩
   · exact .inr ⟨rfl,rfl⟩
   · exact .inl ho
 | checkQuorum =>
  cases h with
  | idle => exact .inl hc
  | quorum =>
   simp only [SplitBrainDetector.checkQuorum,KeyedMap.find?_deleteIf] at hc
   exact .inl (filter_eq_some_iff.mp hc).1
 | _ => cases h <;> exact .inl hc

end

namespace FencingState

variable {r : FencingState} {now : Instant}

lemma recorded_mono {op : FencingOp} {x : String × Instant} (h : x ∈ r.contacts) :
  x ∈ r.recorded now op := by
 cases op with
 | recordPeerContact p => exact List.mem_cons_of_mem _ h
 | _ => exact h

structure Inv (r : FencingState) : Prop where
 seen : ∀ p c, r.detector.reachablePeers.find? p = some c → (p,c) ∈ r.contacts ∧ c ≤ r.clock
 informed : r.detector.state ≠ .healthy → r.detector.partitionInfo.isSome
 calm : r.detector.state = .healing → r.disturbed = false →
  ∃ healed, r.detector.healedAt = some healed ∧
   ∀ u, healed ≤ u → u ≤ r.clock → r.AllReachedAt u

lemma Inv.reached (h : r.Inv) {u : Instant} (hn : r.detector.getUnreachablePeerNames now = [])
  (hu : r.clock ≤ u) (hun : u ≤ now) : r.AllReachedAt u := by
 intro p hp
 have hf : p ∈ r.detector.getReachablePeerNames now := by
  by_contra hne
  have hm : p ∈ r.detector.getUnreachablePeerNames now := by
   simp [PartitionDetector.getUnreachablePeerNames,PartitionDetector.unreachableAmong,hp,hne]
  simp [hn] at hm
 simp only [SplitBrainDetector.getReachablePeerNames,List.mem_map,List.mem_filter,
  decide_eq_true_eq] at hf
 obtain ⟨⟨q,c⟩,⟨hq,hc⟩,rfl⟩ := hf
 obtain ⟨hm,hl⟩ := h.seen q c (KeyedMap.mem_pairs_iff.mp hq)
 have hcu : u - r.detector.config.partitionTimeout ≤ now - r.detector.config.partitionTimeout :=
  sub_le_sub_right hun _
 exact ⟨c,hm,hl.trans hu,lt_of_le_of_lt hcu hc⟩

lemma disturbance_false {d : PartitionDetector} (h : r.disturbance d now = false) :
  (r.detector.state = .healing → r.disturbed = false) ∧
   r.detector.getUnreachablePeerNames now = [] ∧ d.peerStates = r.detector.peerStates := by
 simp only [disturbance,Bool.or_eq_false_iff,decide_eq_false_iff_not,not_not] at h
 obtain ⟨⟨hd,hn⟩,hp⟩ := h
 refine ⟨fun hs => ?_,hn,hp⟩
 simpa [hs] using hd

section
variable {co : Codec} {r t : FencingState} {e : FencingOp × Instant}

lemma AllReachedAt.step (hs : r.step co e = some t)
  (hp : t.detector.peerStates = r.detector.peerStates) {u : Instant} (h : r.AllReachedAt u) :
  t.AllReachedAt u := by
 obtain ⟨hh,-,ho,-⟩ := step_change hs
 intro p ht
 rw [hp] at ht
 obtain ⟨c,hc,hu,hl⟩ := h p ht
 refine ⟨c,?_,hu,?_⟩
 · rw [ho]
   exact recorded_mono hc
 · rw [hh.config_eq]
   exact hl

lemma Inv.step_seen (h : r.Inv) (hl : r.clock ≤ e.2) (hs : r.step co e = some t)
  (p : String) (c : Instant) (hc : t.detector.reachablePeers.find? p = some c) :
  (p,c) ∈ t.contacts ∧ c ≤ t.clock := by
 obtain ⟨hh,hk,hco,-⟩ := step_change hs
 rw [hk,hco]
 obtain ho | ⟨hp,rfl⟩ := hh.contact_mem hc
 · obtain ⟨hm,hle⟩ := h.seen p c ho
   exact ⟨recorded_mono hm,hle.trans hl⟩
 · rw [hp]
   exact ⟨List.mem_cons_self,le_refl _⟩

lemma Inv.step_informed (h : r.Inv) (hs : r.step co e = some t)
  (hn : t.detector.state ≠ .healthy) : t.detector.partitionInfo.isSome := by
 obtain ⟨hc,-⟩ := step_change hs
 cases hc.state_change with
 | unmoved ht hi _ =>
  rw [hi]
  exact h.informed (ht ▸ hn)
 | healed _ ht => exact absurd ht hn
 | parted _ hi _ => exact hi
 | healing hr _ hi _ =>
  rw [hi,Option.isSome_map]
  exact h.informed hr

/-- The calm of a healing extends over the time up to the event, and starts at the event that
starts the healing. -/
lemma Inv.step_calm (h : r.Inv) (hl : r.clock ≤ e.2) (hs : r.step co e = some t)
  (ht : t.detector.state = .healing) (hd : t.disturbed = false) :
  ∃ healed, t.detector.healedAt = some healed ∧
   ∀ u, healed ≤ u → u ≤ t.clock → t.AllReachedAt u := by
 obtain ⟨hh,hk,-,hdi⟩ := step_change hs
 rw [hdi] at hd
 obtain ⟨ho,hn,hp⟩ := disturbance_false hd
 rw [hk]
 cases hh.state_change with
 | unmoved hsa hi _ =>
  have hrs : r.detector.state = .healing := hsa ▸ ht
  obtain ⟨healed,ha,hca⟩ := h.calm hrs (ho hrs)
  have ha' : t.detector.healedAt = some healed := by
   rw [PartitionDetector.healedAt,hi]
   exact ha
  refine ⟨healed,ha',fun u hu hun => ?_⟩
  apply AllReachedAt.step hs hp
  rcases le_total u r.clock with hc | hc
  · exact hca u hu hc
  · exact h.reached hn hc hun
 | healed _ hs' | parted hs' _ _ => simp [ht] at hs'
 | healing hr _ hi _ =>
  obtain ⟨info,hin⟩ := isSome_iff_exists.mp (h.informed hr)
  have ha : t.detector.healedAt = some e.2 := by
   rw [PartitionDetector.healedAt,hi,hin]
   rfl
  refine ⟨e.2,ha,fun u hu hun => ?_⟩
  exact AllReachedAt.step hs hp (h.reached hn (hl.trans hu) hun)

theorem Inv.step (h : r.Inv) (hc : r.clock ≤ e.2) (hs : r.step co e = some t) : t.Inv where
 seen := h.step_seen hc hs
 informed := h.step_informed hs
 calm := h.step_calm hc hs

end

lemma Fresh.inv (h : r.Fresh) : r.Inv := by
 obtain ⟨cfg,grace,autoResolve,server,peers,known,beg,rfl⟩ := h
 constructor
 · intro p c hc
   simp [managerDetector,newSplitBrainDetector] at hc
 · intro hn
   exact absurd rfl hn
 · intro ht
   cases ht

/-- The fence falls, or the federation is declared healthy, only as it should. -/
def SafeEvent (r : FencingState) (e : FencingOp × Instant) (t : FencingState) : Prop :=
 (r.detector.writesFenced = true → t.detector.writesFenced = false →
  ∀ u, e.2 - r.detector.healingGracePeriod ≤ u → u ≤ e.2 → t.AllReachedAt u) ∧
 (r.detector.state ≠ .healthy → t.detector.state = .healthy → t.AllReachedAt e.2)

/-- Every known peer is reachable, and fenced writes had an undisturbed grace period. -/
def TimelyHealing (r : FencingState) (e : FencingOp × Instant) : Prop :=
 r.Heals e.1 → r.detector.getUnreachablePeerNames e.2 = [] ∧ (r.detector.writesFenced = true →
   r.detector.state = .healing ∧ r.disturbed = false ∧
    ∀ healed ∈ r.detector.healedAt, healed+r.detector.healingGracePeriod ≤ e.2)

instance (r : FencingState) (e : FencingOp × Instant) : Decidable (r.TimelyHealing e) :=
 inferInstanceAs (Decidable (r.Heals e.1 → _ ∧ (_ → _ ∧ _ ∧ _)))

end FencingState

lemma reachable_inv {ok : FencingState → FencingOp × Instant → Prop}
  (h : ((fencingSystem codec).restrict ok).Reachable r) : r.Inv :=
 h.invariant (fun _ => Fresh.inv) (fun _ _ _ hn hs => hn.step hs.1.1 hs.1.2)

lemma heals_view {t : FencingState} {e : FencingOp × Instant} (hs : r.step codec e = some t)
  (hh : r.Heals e.1) : SameView r.detector t.detector := by
 obtain ⟨hc,-⟩ := step_change hs
 obtain ⟨op,now⟩ := e
 cases op with
 | resume i => exact resume_view hc
 | _ => exact hh.elim

theorem fence_released_safely (codec : Codec) {r t : FencingState} {e : FencingOp × Instant}
  (h : ((fencingSystem codec).restrict TimelyHealing).Reachable r)
  (hs : ((fencingSystem codec).restrict TimelyHealing).step r e t) :
  r.SafeEvent e t := by
 have hin := reachable_inv h
 obtain ⟨⟨hl,hse⟩,ht⟩ := hs
 obtain ⟨hch,-⟩ := step_change hse
 cases hch.state_change with
 | unmoved hst _ hf =>
  exact ⟨fun hon ho => by simp [hf,hon] at ho,fun hne he => absurd (hst ▸ he) hne⟩
 | parted hst _ hf =>
  refine ⟨fun hon ho => by simp [hf hon] at ho,fun _ he => ?_⟩
  simp [he] at hst
 | healing _ hst _ hf =>
  exact ⟨fun hon ho => by simp [hf,hon] at ho,fun _ he => by simp [hst] at he⟩
 | healed hh _ =>
  obtain ⟨hn,hfe⟩ := ht hh
  have hp := (heals_view hse hh).peers
  refine ⟨fun hon _ u hu hun => ?_,fun _ _ => ?_⟩
  · obtain ⟨hst,hd,hg⟩ := hfe hon
    obtain ⟨healed,ha,hca⟩ := hin.calm hst hd
    have hpa : healed ≤ u := by
     have := hg healed ha
     linarith
    apply AllReachedAt.step hse hp
    rcases le_total u r.clock with hc | hc
    · exact hca u hpa hc
    · exact hin.reached hn hc hun
  · exact .step hse hp (hin.reached hn hl (le_refl _))

def silentCodec : Codec := ⟨fun _ => none,fun _ => none,fun _ => none⟩

def pairedState : FencingState where
 detector :=
  { managerDetector ⟨30,false,0,true,.controllers⟩ ["b"] with
    healingGracePeriod := 5
    autoResolveOnHeal := true
    state := .healthy
    partitionInfo := none
    server := newServer ⟨"a",.lastWriterWins,3600,["b"],100⟩
    peerStates := ["b"] }
 calls := []
 stopped := false
 clock := 0
 contacts := []
 disturbed := false

lemma pairedState_fresh : pairedState.Fresh := ⟨_,_,_,_,_,_,_,rfl⟩

def healingEvents : List (FencingOp × Instant) :=
 [(.tick,40),(.resume 0,40),(.resume 0,40),(.resume 0,40),(.resume 0,40),
  (.recordPeerContact "b",100),(.resume 0,100),(.resume 0,100),(.resume 0,100)]

def earlyTickEvents : List (FencingOp × Instant) :=
 healingEvents ++ [(.tick,101),(.resume 1,101),(.resume 1,101),(.resume 1,101)]

/-- The tick drops the fence four units before the healing goroutine would. -/
theorem tick_drops_fence_in_grace_period :
  ∃ codec r e t, (fencingSystem codec).Reachable r ∧ (fencingSystem codec).step r e t ∧
   r.detector.config.fencingEnabled = true ∧ ¬ r.SafeEvent e t := by
 have hr : Along (advance (step silentCodec))
   (fun r e => (r.step silentCodec e).isSome ∧ r.clock ≤ e.2) pairedState earlyTickEvents := by
  decide
 have hre : (fencingSystem silentCodec).Reachable _ :=
  .advance_foldl (.start pairedState_fresh) hr fun _ _ _ ht hc => ⟨hc,ht⟩
 refine ⟨silentCodec,_,(.resume 1,101),_,hre,⟨by decide,rfl⟩,rfl,?_⟩
 rintro ⟨hf,-⟩
 -- at 96, within the grace period before the tick, there was no contact with `b` yet
 obtain ⟨c,hc,hl,-⟩ := hf rfl rfl 96 (by decide) (by decide) "b" (by decide)
 change ("b",c) ∈ [("b",(100 : Instant))] at hc
 simp only [List.mem_singleton,Prod.mk.injEq,true_and] at hc
 subst hc
 cases hl

theorem healing_goroutine_drops_fence :
  ∃ r t, (fencingSystem silentCodec).Reachable r ∧ r.detector.writesFenced = true ∧
   t.detector.writesFenced = false ∧ r.SafeEvent (.resume 0,105) t := by
 have hr : Along (advance (step silentCodec))
   (fun r e => (r.step silentCodec e).isSome ∧ r.clock ≤ e.2 ∧ r.TimelyHealing e)
   pairedState healingEvents := by
  decide
 have hre : ((fencingSystem silentCodec).restrict TimelyHealing).Reachable _ :=
  .advance_foldl (.start pairedState_fresh) hr fun _ _ _ ht hc => ⟨⟨hc.1,ht⟩,hc.2⟩
 exact ⟨_,_,hre.of_restrict,rfl,rfl,
  fence_released_safely silentCodec hre ⟨⟨by decide,rfl⟩,by decide⟩⟩

end NovaEdge.Federation
