import NovaEdge.BudgetedLoop
import NovaEdge.FederationFullSync
import NovaEdge.FederationMerkle
import NovaEdge.KeyedMapCollect

/-! The anti-entropy manager's comparison with a peer. The peer's reply leaves out what is strictly
before our clock, and the loops over it stop at the batch size, so the drift report can take a key
of the peer for a missing one and can end early. -/
namespace NovaEdge.Federation
open KeyedMap Server List BudgetedLoop

/-- Any string other than the three known ones neither pulls nor pushes. -/
inductive RepairMode
 | pull
 | push
 | bidirectional
 | other (name : String)

def RepairMode.pushes : RepairMode → Bool
 | .push | .bidirectional => true
 | .pull | .other _ => false

structure AntiEntropyConfig where
 batchSize : ℤ
 repairMode : RepairMode

structure DriftReport where
 peer : String
 timestamp : Instant
 (differingKeys missingLocally missingRemotely hashMismatches : List String := [])

namespace DriftReport

def addMissingLocally (report : DriftReport) (key : String) : DriftReport :=
 { report with missingLocally := report.missingLocally ++ [key] }

def addMissingRemotely (report : DriftReport) (key : String) : DriftReport :=
 { report with missingRemotely := report.missingRemotely ++ [key] }

def addHashMismatch (report : DriftReport) (key : String) : DriftReport :=
 { report with hashMismatches := report.hashMismatches ++ [key] }

end DriftReport

/-- What is kept of each resource of the reply; a later one replaces an earlier one of its key. -/
def replyMap {β : Type} (f : ResourceChange → β) (batches : List ResourceBatch) : KeyedMap String β :=
 (batches.flatMap ResourceBatch.resources).foldl (fun acc c => acc.set c.key.string (f c)) ∅

def peerResources : List ResourceBatch → KeyedMap String ResourceChange := replyMap id

def peerResourceHashes : List ResourceBatch → KeyedMap String String :=
 replyMap ResourceChange.resourceHash

/-- The body of the range in `handleWeAreAhead`; a successful push counts. -/
def pushStep (peerHashes : KeyedMap String String) (delivered : String → Bool) (report : DriftReport)
  (e : String × TrackedResource) : DriftReport × Bool :=
 match peerHashes.find? e.1 with
 | none => (report.addMissingRemotely e.1,delivered e.1)
 | some peerHash =>
  if peerHash ≠ e.2.hash then (report.addHashMismatch e.1,delivered e.1) else (report,false)

def handleWeAreAhead (config : AntiEntropyConfig) (batches : List ResourceBatch) (peerName : String)
  (now : Instant) (order : List (String × TrackedResource)) (delivered : String → Bool) :
  DriftReport :=
 let report := (loop config.batchSize (pushStep (peerResourceHashes batches) delivered) order 0
  { peer := peerName, timestamp := now }).1
 { report with differingKeys := report.missingRemotely ++ report.hashMismatches }

section
variable (codec : Codec) (config : AntiEntropyConfig) (peerName : String)
 (reads : ResourceChange → Instant × Instant)

/-- The body of the loop that pulls; a change that is handled without an error counts. -/
def pullStep (localHashes : KeyedMap String String) (acc : Server × DriftReport)
  (e : String × ResourceChange) : (Server × DriftReport) × Bool :=
 let handled := acc.1.handleResourceChange codec peerName e.2 (reads e.2).1 (reads e.2).2
 match localHashes.find? e.1 with
 | none => ((handled.1,acc.2.addMissingLocally e.1),handled.2.isNone)
 | some localHash =>
  if localHash ≠ e.2.resourceHash then
   ((handled.1,acc.2.addHashMismatch e.1),handled.2.isNone)
  else (acc,false)

def pushMissingStep (peerKeys : KeyedMap String ResourceChange) (delivered : String → Bool)
  (report : DriftReport) (e : String × TrackedResource) : DriftReport × Bool :=
 if (peerKeys.find? e.1).isSome then (report,false)
 else (report.addMissingRemotely e.1,delivered e.1)

def pullFromPeer (s : Server) (report : DriftReport) (pullOrder : List (String × ResourceChange)) :
  (Server × DriftReport) × ℕ :=
 loop config.batchSize (pullStep codec peerName reads (resourceHashes s)) pullOrder 0 (s,report)

/-- The pushing half ranges over the resources that are there by then, and continues the count of
the pulling one. -/
def reconcileWithPeerResources (s : Server) (peerKeys : KeyedMap String ResourceChange)
  (report : DriftReport) (pullOrder : List (String × ResourceChange))
  (pushOrder : Server → List (String × TrackedResource)) (delivered : String → Bool) :
  DriftReport :=
 let pulled := pullFromPeer codec config peerName reads s report pullOrder
 if config.repairMode.pushes then
  (loop config.batchSize (pushMissingStep peerKeys delivered) (pushOrder pulled.1.1) pulled.2
   pulled.1.2).1
 else pulled.1.2

def handleConcurrentState (sha256 : Sha256) (s : Server) (localTree : MerkleTree)
  (batches : List ResourceBatch) (now : Instant) (treeOrder : List (String × ResourceChange))
  (pullOrder : List (String × ResourceChange))
  (pushOrder : Server → List (String × TrackedResource)) (delivered : String → Bool) :
  DriftReport :=
 let peerTree : MerkleTree :=
  treeOrder.foldl (fun t e => t.update sha256 e.1 e.2.resourceHash) {}
 let diffs := localTree.compare (some peerTree)
 if diffs = [] then { peer := peerName, timestamp := now }
 else reconcileWithPeerResources codec config peerName reads s (peerResources batches)
  { peer := peerName, timestamp := now, differingKeys := diffs } pullOrder pushOrder delivered

end

/-- In whatever order the peer ranges over its resources. -/
def IsReply (s peer : Server) (batches : List ResourceBatch) (newId : TrackedResource → String) :
  Prop :=
 ∃ collected, collected.Perm (peer.collectFullSyncResources
   ⟨s.config.resourceTypes,[],s.vectorClock⟩ newId) ∧
  recvBatches [] (peer.sendFullSyncBatches collected) = some batches

/-- For a clock that is ahead, concurrent or equal; the local tree is that of the cycle's beginning.
-/
inductive ReportsDrift (codec : Codec) (sha256 : Sha256) (config : AntiEntropyConfig) (s : Server)
  (localTree : MerkleTree) (peerClock : VectorClock) (batches : List ResourceBatch) :
  DriftReport → Prop
 | ahead (hclock : s.vectorClock.compare peerClock = 1) (hmode : config.repairMode.pushes = true)
   (peerName : String) (now : Instant) (order : List (String × TrackedResource))
   (horder : order.Perm s.resources.pairs) (delivered : String → Bool) :
   ReportsDrift codec sha256 config s localTree peerClock batches
    (handleWeAreAhead config batches peerName now order delivered)
 | concurrent (hclock : s.vectorClock.compare peerClock = 0) (peerName : String) (now : Instant)
   (reads : ResourceChange → Instant × Instant)
   (treeOrder pullOrder : List (String × ResourceChange))
   (pushOrder : Server → List (String × TrackedResource))
   (htree : treeOrder.Perm (peerResources batches).pairs)
   (hpull : pullOrder.Perm (peerResources batches).pairs)
   (hpush : ∀ s, (pushOrder s).Perm s.resources.pairs)
   (delivered : String → Bool) :
   ReportsDrift codec sha256 config s localTree peerClock batches
    (handleConcurrentState codec config peerName reads sha256 s localTree batches now treeOrder
     pullOrder pushOrder delivered)

def MissingAtPeer (s peer : Server) (key : String) : Prop :=
 (s.resources.find? key).isSome ∧ peer.resources.find? key = none

def Mismatched (s peer : Server) (key : String) : Prop :=
 ∃ r r', s.resources.find? key = some r ∧ peer.resources.find? key = some r' ∧ r.hash ≠ r'.hash

def HeldByBoth (s peer : Server) (key : String) : Prop :=
 (s.resources.find? key).isSome ∧ (peer.resources.find? key).isSome

structure ReportExact (s peer : Server) (report : DriftReport) : Prop where
 missing : ∀ key, key ∈ report.missingRemotely ↔ MissingAtPeer s peer key
 mismatched : ∀ key, key ∈ report.hashMismatches ↔ Mismatched s peer key

def ReportsExactly (codec : Codec) (sha256 : Sha256) (config : AntiEntropyConfig) (s peer : Server)
  (localTree : MerkleTree) (peerClock : VectorClock) (batches : List ResourceBatch) : Prop :=
 ∀ report, ReportsDrift codec sha256 config s localTree peerClock batches report →
  ReportExact s peer report

def repliedTo (s : Server) (r : TrackedResource) : Bool :=
 resourceMatchesFilter r s.config.resourceTypes [] && !r.vectorClock.happenedBefore s.vectorClock

def replied (s peer : Server) (key : String) : Option TrackedResource :=
 (peer.resources.find? key).filter (repliedTo s)

def mergesData (codec : Codec) (a b : Bytes) : Bool :=
 match codec.unmarshalObject a, codec.unmarshalObject b with
 | some x, some y => (codec.marshalObject (mergeMaps x y)).isSome
 | _, _ => false

def accepts (codec : Codec) (s : Server) (key : String) (r' : TrackedResource) : Bool :=
 match s.resources.find? key with
 | none => true
 | some r => !r.vectorClock.concurrent r'.vectorClock ||
   s.config.conflictResolutionStrategy ≠ .merge || mergesData codec r.data r'.data

def unmatched (s peer : Server) (e : String × TrackedResource) : Bool :=
 (replied s peer e.1).map TrackedResource.hash ≠ some e.2.hash

def unmatchedCount (s peer : Server) : ℕ := s.resources.pairs.countP (unmatched s peer)

def unreplied (s peer : Server) (e : String × TrackedResource) : Bool := (replied s peer e.1).isNone

def unrepliedCount (s peer : Server) : ℕ := s.resources.pairs.countP (unreplied s peer)

def applicable (codec : Codec) (s : Server) (e : String × TrackedResource) : Bool :=
 repliedTo s e.2 && (s.resources.find? e.1).map TrackedResource.hash ≠ some e.2.hash &&
  accepts codec s e.1 e.2

def applicableCount (codec : Codec) (s peer : Server) : ℕ :=
 peer.resources.pairs.countP (applicable codec s)

/-- Something differs only if all that the reply does not match fits into a batch, and a key of both
is in the reply. -/
structure PushCovers (config : AntiEntropyConfig) (s peer : Server) : Prop where
 fits : ∀ key, MissingAtPeer s peer key ∨ Mismatched s peer key →
  unmatchedCount s peer ≤ config.batchSize
 answered : 0 < config.batchSize → ∀ key, HeldByBoth s peer key → (replied s peer key).isSome

def repliedHashes (s peer : Server) : KeyedMap String String :=
 putWhere (fun e => repliedTo s e.2) TrackedResource.hash peer.resources ∅

def TreesDiffer (sha256 : Sha256) (localTree : MerkleTree) (s peer : Server) : Prop :=
 localTree.sameRoot ⟨repliedHashes s peer,rebuiltRoot sha256 (repliedHashes s peer)⟩ = false ∧
  ∃ key, localTree.resources.find? key ≠ (replied s peer key).map TrackedResource.hash

structure ReconcileCovers (codec : Codec) (config : AntiEntropyConfig) (s peer : Server) : Prop where
 pulls : ∀ key, Mismatched s peer key → (replied s peer key).isSome ∧
  others Prod.fst (applicable codec s) key peer.resources.pairs < config.batchSize
 pushes : ∀ key, MissingAtPeer s peer key → config.repairMode.pushes = true ∧
  applicableCount codec s peer+unrepliedCount s peer ≤ config.batchSize
 answered : config.repairMode.pushes = true → applicableCount codec s peer < config.batchSize →
  ∀ key, HeldByBoth s peer key → (replied s peer key).isSome

structure DriftCovered (codec : Codec) (sha256 : Sha256) (config : AntiEntropyConfig) (s peer : Server)
  (localTree : MerkleTree) (peerClock : VectorClock) : Prop where
 ahead : s.vectorClock.compare peerClock = 1 → config.repairMode.pushes = true →
  PushCovers config s peer
 concurrent : s.vectorClock.compare peerClock = 0 → TreesDiffer sha256 localTree s peer →
  ReconcileCovers codec config s peer
 undiffering : s.vectorClock.compare peerClock = 0 → ¬ TreesDiffer sha256 localTree s peer →
  ∀ key, ¬ MissingAtPeer s peer key ∧ ¬ Mismatched s peer key

section
variable {s peer : Server} {bts : List ResourceBatch} {ni : TrackedResource → String}

lemma after_or_concurrent (vc oth : VectorClock) :
  (vc.happenedAfter oth || vc.concurrent oth) = !vc.happenedBefore oth := by
 unfold VectorClock.happenedAfter VectorClock.concurrent VectorClock.happenedBefore
  VectorClock.compare
 split_ifs <;> rfl

lemma collect_eq_filter_repliedTo (s peer : Server) (nid : TrackedResource → String) :
  peer.collectFullSyncResources ⟨s.config.resourceTypes,[],s.vectorClock⟩ nid =
   (peer.resources.values.filter (repliedTo s)).map fun r => fullSyncChange (nid r) r := by
 simp only [collectFullSyncResources,after_or_concurrent]
 rfl

lemma replied_eq_some_iff {key : String} {r : TrackedResource} :
  replied s peer key = some r ↔ peer.resources.find? key = some r ∧ repliedTo s r = true :=
 filter_eq_some_iff

variable (hpe : WellKeyed peer)
include hpe

variable (hrp : IsReply s peer bts ni)
include hrp

lemma find?_replyMap {β : Type} (f : ResourceChange → β) (key : String) :
  (replyMap f bts).find? key = (replied s peer key).map fun r => f (fullSyncChange (ni r) r) := by
 obtain ⟨col,hp,hre⟩ := hrp
 rw [collect_eq_filter_repliedTo] at hp
 have hm : ∀ k b, (k,b) ∈ col.map (fun c => (c.key.string,f c)) ↔
   ∃ r, replied s peer k = some r ∧ f (fullSyncChange (ni r) r) = b := by
  intro k b
  simp only [mem_map,hp.mem_iff,mem_filter,mem_values_iff,Prod.mk.injEq,replied_eq_some_iff]
  constructor
  · rintro ⟨c,⟨r,⟨⟨k',hr⟩,hse⟩,rfl⟩,rfl,rfl⟩
    have hk : r.key.string = k' := (hpe k').live r hr
    exact ⟨r,⟨hk ▸ hr,hse⟩,rfl⟩
  · rintro ⟨r,⟨hr,hse⟩,rfl⟩
    exact ⟨_,⟨r,⟨⟨k,hr⟩,hse⟩,rfl⟩,(hpe k).live r hr,rfl⟩
 have ho : ∀ k a b, (k,a) ∈ col.map (fun c => (c.key.string,f c)) →
   (k,b) ∈ col.map (fun c => (c.key.string,f c)) → a = b := by
  intro k a b ha hb
  obtain ⟨r,hr,rfl⟩ := (hm k a).mp ha
  obtain ⟨r',hr',rfl⟩ := (hm k b).mp hb
  rw [mem_unique hr hr']
 have hma : replyMap f bts =
   (col.map fun c => (c.key.string,f c)).foldl (fun m e => m.set e.1 e.2) ∅ := by
  rw [replyMap,transfer_lossless peer col bts hre,foldl_map]
 refine Option.ext fun b => ?_
 rw [hma,find?_foldl_set_iff ho,hm,map_eq_some_iff]

lemma find?_peerResourceHashes (key : String) :
  (peerResourceHashes bts).find? key = (replied s peer key).map TrackedResource.hash :=
 find?_replyMap hpe hrp _ key

lemma find?_peerResources (key : String) : (peerResources bts).find? key =
      (replied s peer key).map fun r => fullSyncChange (ni r) r :=
 find?_replyMap hpe hrp _ key

end

section
variable {s peer : Server} {bts : List ResourceBatch} {nid : TrackedResource → String}
 {cfg : AntiEntropyConfig}

section
variable (ph : KeyedMap String String) (del : String → Bool) (rep : DriftReport)
 (e : String × TrackedResource)

lemma pushStep_eq : pushStep ph del rep e = ({ rep with
        missingRemotely := rep.missingRemotely ++
         if (ph.find? e.1).isNone then [e.1] else []
        hashMismatches := rep.hashMismatches ++
         if (ph.find? e.1).any (· ≠ e.2.hash) then [e.1] else [] },
      decide (ph.find? e.1 ≠ some e.2.hash) && del e.1) := by
 unfold pushStep
 cases ph.find? e.1 with
 | none => simp [DriftReport.addMissingRemotely]
 | some peerHash =>
  by_cases hq : peerHash = e.2.hash
  · simp [hq]
  · simp [hq,DriftReport.addHashMismatch]

end

variable (hpe : WellKeyed peer) (hrp : IsReply s peer bts nid)
include hpe hrp

lemma mem_handleWeAreAhead (pn : String) (now : Instant)
  (ord : List (String × TrackedResource)) (del : String → Bool) (key : String) :
  (key ∈ (handleWeAreAhead cfg bts pn now ord del).missingRemotely ↔
   ∃ r, (key,r) ∈ visited (fun e => unmatched s peer e && del e.1)
    cfg.batchSize.toNat ord ∧ replied s peer key = none) ∧
  (key ∈ (handleWeAreAhead cfg bts pn now ord del).hashMismatches ↔
   ∃ r r', (key,r) ∈ visited (fun e => unmatched s peer e && del e.1)
    cfg.batchSize.toNat ord ∧ replied s peer key = some r' ∧ r'.hash ≠ r.hash) := by
 have hc : CountsAs (pushStep (peerResourceHashes bts) del)
   (fun e => unmatched s peer e && del e.1) ord
   { peer := pn, timestamp := now } := by
  refine countsAs_of_forall (fun report e => ?_) ord _
  rw [pushStep_eq,find?_peerResourceHashes hpe hrp,unmatched]
 constructor
 · refine (mem_loop (·.missingRemotely) hc (fun _ _ => by rw [pushStep_eq]) key).trans ?_
   simp [find?_peerResourceHashes hpe hrp]
 · refine (mem_loop (·.hashMismatches) hc (fun _ _ => by rw [pushStep_eq]) key).trans ?_
   simp [find?_peerResourceHashes hpe hrp,Option.any_eq_true]

variable {key : String} {r : TrackedResource}

omit hpe hrp in
lemma unmatched_of_differs (hr : s.resources.find? key = some r)
  (h : MissingAtPeer s peer key ∨ Mismatched s peer key) : unmatched s peer (key,r) = true := by
 rw [unmatched,decide_eq_true_eq]
 intro ha
 obtain ⟨r',hr',hh⟩ := map_eq_some_iff.mp ha
 have hf := (replied_eq_some_iff.mp hr').1
 rcases h with ⟨-,hn⟩ | ⟨r₁,r₂,h₁,h₂,hne⟩
 · rw [hn] at hf
   cases hf
 · rw [hr] at h₁
   rw [hf] at h₂
   cases h₁
   cases h₂
   exact hne hh.symm

omit hpe hrp in
lemma find?_of_mem_visited {cts : String × TrackedResource → Bool} {b : ℕ}
  {ord : List (String × TrackedResource)} (hor : ord.Perm s.resources.pairs)
  (h : (key,r) ∈ visited cts b ord) : s.resources.find? key = some r :=
 mem_pairs_iff.mp (hor.mem_iff.mp (mem_of_mem_visited h))

lemma reported_ahead_iff {ord : List (String × TrackedResource)}
  (hor : ord.Perm s.resources.pairs) (hr : s.resources.find? key = some r)
  (hu : unmatched s peer (key,r) = true) :
  (key ∈ (handleWeAreAhead cfg bts "" 0 ord fun _ => true).missingRemotely ∨
   key ∈ (handleWeAreAhead cfg bts "" 0 ord fun _ => true).hashMismatches) ↔
   (key,r) ∈ visited (unmatched s peer) cfg.batchSize.toNat ord := by
 have hm := @mem_handleWeAreAhead _ _ _ _ cfg hpe hrp "" 0 ord (fun _ => true) key
 simp only [Bool.and_true] at hm
 rw [hm.1,hm.2]
 constructor
 · rintro (⟨r₁,hv,-⟩ | ⟨r₁,-,hv,-,-⟩)
   · rwa [mem_unique (find?_of_mem_visited hor hv) hr] at hv
   · rwa [mem_unique (find?_of_mem_visited hor hv) hr] at hv
 · intro hv
   rw [unmatched,decide_eq_true_eq] at hu
   cases hre : replied s peer key with
   | none => exact .inl ⟨r,hv,rfl⟩
   | some r' =>
    refine .inr ⟨r,r',hv,rfl,fun hq => hu ?_⟩
    rw [hre,Option.map_some,hq]

lemma pushCovers_of_exact (h : ∀ order, order.Perm s.resources.pairs →
      ReportExact s peer (handleWeAreAhead cfg bts "" 0 order fun _ => true)) :
  PushCovers cfg s peer := by
 constructor
 · intro key hdi
   obtain ⟨r,hr⟩ : ∃ r, s.resources.find? key = some r := by
    rcases hdi with ⟨hso,-⟩ | ⟨r,-,hr,-⟩
    · exact isSome_iff_exists.mp hso
    · exact ⟨r,hr⟩
   have hu := unmatched_of_differs hr hdi
   have hc : 0 < unmatchedCount s peer ∧ unmatchedCount s peer ≤ cfg.batchSize.toNat := by
    refine countP_le_of_forall_perm (pairs_keys_nodup _) (mem_pairs_iff.mpr hr) hu ?_
    intro order horder
    refine ⟨(key,r),(reported_ahead_iff hpe hrp horder hr hu).mp ?_,rfl⟩
    exact hdi.imp ((h order horder).missing key).mpr ((h order horder).mismatched key).mpr
   omega
 · intro hp key hb
   by_contra hn
   rw [Bool.not_eq_true,Option.isSome_eq_false_iff,isNone_iff_eq_none] at hn
   obtain ⟨r,hr⟩ := isSome_iff_exists.mp hb.1
   have hm : (key,r) ∈ s.resources.pairs := mem_pairs_iff.mpr hr
   obtain ⟨order,horder,hv⟩ := exists_perm_mem_visited hm (Int.lt_toNat.mpr hp)
   have hre := (mem_handleWeAreAhead hpe hrp "" 0 order (fun _ => true) key).1.mpr ⟨r,hv,hn⟩
   have hg := (((h order horder).missing key).mp hre).2
   have hso := hb.2
   rw [hg] at hso
   cases hso

section
variable (hcov : PushCovers cfg s peer) {del : String → Bool}
 {ord : List (String × TrackedResource)} (hor : ord.Perm s.resources.pairs)
include hcov hor

omit hpe hrp in
lemma mem_visited_of_differs {key : String} {r : TrackedResource}
  (hr : s.resources.find? key = some r) (hdi : MissingAtPeer s peer key ∨ Mismatched s peer key) :
  (key,r) ∈ visited (fun e => unmatched s peer e && del e.1) cfg.batchSize.toNat ord := by
 have hf := hcov.fits key hdi
 rw [unmatchedCount] at hf
 exact mem_visited_of_countP_le (pairs_keys_nodup _) hor (mem_pairs_iff.mpr hr)
  (unmatched_of_differs hr hdi) (fun _ he => (Bool.and_eq_true_iff.mp he).1) (by omega)

omit hpe hrp in
lemma replied_of_mem_visited {key : String} {r : TrackedResource}
  (hv : (key,r) ∈ visited (fun e => unmatched s peer e && del e.1) cfg.batchSize.toNat ord)
  (ho : (peer.resources.find? key).isSome) : (replied s peer key).isSome := by
 refine hcov.answered ?_ key ⟨?_,ho⟩
 · by_contra hn
   have hz : cfg.batchSize.toNat = 0 := by omega
   rw [hz] at hv
   exact absurd hv notMem_visited_zero
 · rw [find?_of_mem_visited hor hv]
   rfl

lemma exact_of_pushCovers (pn : String) (now : Instant) :
  ReportExact s peer (handleWeAreAhead cfg bts pn now ord del) := by
 have hm := @mem_handleWeAreAhead _ _ _ _ cfg hpe hrp pn now ord del
 constructor
 · intro key
   rw [(hm key).1]
   constructor
   · rintro ⟨r,hv,ho⟩
     refine ⟨by rw [find?_of_mem_visited hor hv]; rfl,?_⟩
     by_contra hso
     have hre := replied_of_mem_visited hcov hor hv (isSome_iff_ne_none.mpr hso)
     rw [ho] at hre
     cases hre
   · intro hmis
     obtain ⟨r,hr⟩ := isSome_iff_exists.mp hmis.1
     exact ⟨r,mem_visited_of_differs hcov hor hr (.inl hmis),by rw [replied,hmis.2]; rfl⟩
 · intro key
   rw [(hm key).2]
   constructor
   · rintro ⟨r,r',hv,hr',hn⟩
     exact ⟨r,r',find?_of_mem_visited hor hv,(replied_eq_some_iff.mp hr').1,hn.symm⟩
   · rintro ⟨r,r',hr,hr',hn⟩
     have hv := @mem_visited_of_differs _ _ _ hcov del _ hor _ _ hr
      (.inr ⟨r,r',hr,hr',hn⟩)
     obtain ⟨r₁,hr₁⟩ := isSome_iff_exists.mp
      (replied_of_mem_visited hcov hor hv (by rw [hr']; rfl))
     have hq := Option.some.inj ((replied_eq_some_iff.mp hr₁).1.symm.trans hr')
     exact ⟨r,r₁,hv,hr₁,by rw [hq]; exact hn.symm⟩

end

end

section
variable (co : Codec) (s : Server) (pn : String) (ch : ResourceChange) (d m : Instant)

lemma mergesData_iff {a b : Bytes} : mergesData co a b = true ↔ Mergeable co a b := by
 unfold mergesData Mergeable
 cases co.unmarshalObject a with
 | none => simp
 | some x =>
  cases co.unmarshalObject b with
  | none => simp
  | some y => simp [isSome_iff_exists]

lemma isNone_handleConflict (old : TrackedResource) :
  (s.handleConflict co ch.key old ch d m).2.isNone =
   (decide (s.config.conflictResolutionStrategy ≠ .merge) ||
    mergesData co old.data ch.resourceData) := by
 unfold handleConflict
 have hc : s.countConflict.config = s.config := rfl
 simp only [hc]
 cases s.config.conflictResolutionStrategy with
 | lastWriterWins => dsimp only; split_ifs <;> rfl
 | merge =>
  by_cases hm : Mergeable co old.data ch.resourceData
  · obtain ⟨mgd,ho⟩ := mergeResources_isOk (r := old)
     (v := { ch.tracked with key := ch.key }) hm s.config m
    simp only [ho,(mergesData_iff co).mpr hm]
    rfl
  · obtain ⟨e,hr⟩ := mergeResources_isError (r := old)
     (v := { ch.tracked with key := ch.key }) hm s.config m
    have hn : mergesData co old.data ch.resourceData = false := by
     rw [Bool.eq_false_iff,Ne,mergesData_iff]
     exact hm
    simp only [hr,hn]
    rfl
 | manual | other name => rfl

lemma isNone_handleResourceChange : (s.handleResourceChange co pn ch d m).2.isNone =
      accepts co s ch.key.string ch.tracked := by
 unfold handleResourceChange accepts
 have hf : (s.observe ch.vectorClock).resources.find? ch.key.string =
   s.resources.find? ch.key.string := rfl
 simp only [hf]
 cases s.resources.find? ch.key.string with
 | none => rfl
 | some r =>
  have hc : ch.tracked.vectorClock = ch.vectorClock := rfl
  simp only [hc]
  cases r.vectorClock.concurrent ch.vectorClock with
  | false =>
   simp only [Bool.false_eq_true,if_false]
   split_ifs <;> rfl
  | true =>
   simp only [if_true]
   rw [isNone_handleConflict]
   rfl

end

/-- A server that has pulled still has what the reply left out. -/
def Keeps (s peer pulled : Server) : Prop :=
 ∀ key, replied s peer key = none → pulled.resources.find? key = s.resources.find? key

section
variable {s peer pul : Server} (h : Keeps s peer pul)
include h

lemma Keeps.countP_unreplied :
  pul.resources.pairs.countP (unreplied s peer) = unrepliedCount s peer := by
 refine countP_pairs_congr fun k => ?_
 simp only [unreplied]
 cases hr : replied s peer k with
 | none => rw [h k hr]
 | some r' => simp

lemma Keeps.mem_pairs {key : String} {r : TrackedResource} (hr : s.resources.find? key = some r)
  (hn : replied s peer key = none) : (key,r) ∈ pul.resources.pairs := by
 rw [mem_pairs_iff,h key hn]
 exact hr

omit h in
lemma unreplied_of_eq_none {e : String × TrackedResource} (hn : replied s peer e.1 = none) :
  unreplied s peer e = true := by
 rw [unreplied,hn]
 rfl

end

def pullCounts (codec : Codec) (s : Server) (e : String × ResourceChange) : Bool :=
 (s.resources.find? e.1).map TrackedResource.hash ≠ some e.2.resourceHash &&
  accepts codec s e.1 e.2.tracked

section
variable (co : Codec) (config : AntiEntropyConfig) (pn : String)
 (rds : ResourceChange → Instant × Instant) (s : Server)

variable (acc : Server × DriftReport)

lemma pullStep_report (e : String × ResourceChange) :
  let stepped := (pullStep co pn rds (resourceHashes s) acc e).1.2
  stepped.missingRemotely = acc.2.missingRemotely ∧
   stepped.hashMismatches = acc.2.hashMismatches ++
    if (s.resources.find? e.1).any (·.hash ≠ e.2.resourceHash) then [e.1] else [] := by
 unfold pullStep
 rw [find?_resourceHashes]
 cases s.resources.find? e.1 with
 | none => simp [DriftReport.addMissingLocally]
 | some r =>
  by_cases hq : r.hash = e.2.resourceHash
  · simp [hq]
  · simp [hq,DriftReport.addHashMismatch]

lemma pullStep_server {e : String × ResourceChange} (hke : e.2.key.string = e.1) :
  (pullStep co pn rds (resourceHashes s) acc e).1.1.config = acc.1.config ∧
   ∀ k, k ≠ e.1 → (pullStep co pn rds (resourceHashes s) acc e).1.1.resources.find? k =
    acc.1.resources.find? k := by
 have hh : ∀ k, k ≠ e.1 → (acc.1.handleResourceChange co pn e.2 (rds e.2).1
   (rds e.2).2).1.resources.find? k = acc.1.resources.find? k := by
  intro k hk
  have hr := register_handleResourceChange co acc.1 pn e.2 (rds e.2).1 (rds e.2).2 k
  rw [hke,if_neg hk] at hr
  exact congrArg Register.live hr
 unfold pullStep
 cases (resourceHashes s).find? e.1 with
 | none => exact ⟨config_handleResourceChange ..,hh⟩
 | some hash =>
  dsimp only
  split_ifs
  · exact ⟨config_handleResourceChange ..,hh⟩
  · exact ⟨rfl,fun k _ => rfl⟩

lemma pullStep_counts {acc : Server × DriftReport} {e : String × ResourceChange}
  (hk : e.2.key.string = e.1) (hc : acc.1.config = s.config)
  (hf : acc.1.resources.find? e.1 = s.resources.find? e.1) :
  (pullStep co pn rds (resourceHashes s) acc e).2 = pullCounts co s e := by
 have ha : (acc.1.handleResourceChange co pn e.2 (rds e.2).1
   (rds e.2).2).2.isNone = accepts co s e.1 e.2.tracked := by
  rw [isNone_handleResourceChange,hk,accepts,accepts,hc,hf]
 unfold pullStep pullCounts
 rw [find?_resourceHashes]
 cases hl : s.resources.find? e.1 with
 | none => simpa using ha
 | some r =>
  by_cases hq : r.hash = e.2.resourceHash
  · simp [hq]
  · simpa [hq] using ha

variable {s}

lemma countsAs_pullStep {l : List (String × ResourceChange)} (hn : (l.map Prod.fst).Nodup)
  (hke : ∀ e ∈ l, e.2.key.string = e.1) {acc : Server × DriftReport} (hc : acc.1.config = s.config)
  (hf : ∀ e ∈ l, acc.1.resources.find? e.1 = s.resources.find? e.1) :
  CountsAs (pullStep co pn rds (resourceHashes s)) (pullCounts co s) l acc := by
 induction l generalizing acc with
 | nil => trivial
 | cons e l ih =>
  obtain ⟨hr,hn⟩ := nodup_cons.mp hn
  have hk := hke e mem_cons_self
  obtain ⟨hc',hf'⟩ := pullStep_server co pn rds s acc hk
  refine ⟨pullStep_counts co pn rds s hk hc (hf e mem_cons_self),?_⟩
  refine ih hn (fun x hx => hke x (mem_cons_of_mem _ hx)) (hc'.trans hc) ?_
  intro x hx
  have hne : x.1 ≠ e.1 := fun hq => hr (hq ▸ mem_map_of_mem hx)
  rw [hf' x.1 hne]
  exact hf x (mem_cons_of_mem _ hx)

lemma find?_foldl_pullStep {l : List (String × ResourceChange)}
  (hke : ∀ e ∈ l, e.2.key.string = e.1) {key : String} (hk : key ∉ l.map Prod.fst)
  (acc : Server × DriftReport) :
  (l.foldl (fun acc e => (pullStep co pn rds (resourceHashes s) acc e).1)
   acc).1.resources.find? key = acc.1.resources.find? key := by
 induction l generalizing acc with
 | nil => rfl
 | cons e l ih =>
  rw [map_cons,mem_cons,not_or] at hk
  rw [foldl_cons,ih (fun x hx => hke x (mem_cons_of_mem _ hx)) hk.2]
  exact (pullStep_server co pn rds s acc (hke e mem_cons_self)).2 key hk.1

end

section
variable {co : Codec} {cfg : AntiEntropyConfig} {pn : String}
 {rds : ResourceChange → Instant × Instant} {s peer : Server} {bts : List ResourceBatch}
 {nid : TrackedResource → String} {re : DriftReport}
 {po : List (String × ResourceChange)}
 (hpe : WellKeyed peer) (hrp : IsReply s peer bts nid)
 (hpu : po.Perm (peerResources bts).pairs)
include hpe hrp

variable {key : String}

lemma mem_peerResources_iff {c : ResourceChange} : (key,c) ∈ (peerResources bts).pairs ↔
      ∃ r', replied s peer key = some r' ∧ fullSyncChange (nid r') r' = c := by
 rw [mem_pairs_iff,find?_peerResources hpe hrp,map_eq_some_iff]

lemma countP_pullCounts (q : String → Bool) :
  (peerResources bts).pairs.countP (fun e => pullCounts co s e && q e.1) =
   peer.resources.pairs.countP fun e => applicable co s e && q e.1 := by
 refine countP_pairs_congr fun k => ?_
 simp only [find?_peerResources hpe hrp,map_eq_some_iff]
 constructor
 · rintro ⟨c,⟨r',hr',rfl⟩,hc⟩
   obtain ⟨hf,hse⟩ := replied_eq_some_iff.mp hr'
   refine ⟨r',hf,?_⟩
   rw [applicable,hse,Bool.true_and]
   exact hc
 · rintro ⟨r',hf,ha⟩
   have hse : repliedTo s r' = true := by
    rw [applicable,Bool.and_eq_true,Bool.and_eq_true,Bool.and_eq_true] at ha
    exact ha.1.1.1
   refine ⟨_,⟨r',replied_eq_some_iff.mpr ⟨hf,hse⟩,rfl⟩,?_⟩
   rw [applicable,hse,Bool.true_and] at ha
   exact ha

include hpu

lemma pullOrder_keys : (po.map Prod.fst).Nodup ∧ ∀ e ∈ po, e.2.key.string = e.1 := by
 refine ⟨(hpu.map Prod.fst).nodup_iff.mpr (pairs_keys_nodup _),?_⟩
 rintro ⟨key,c⟩ he
 obtain ⟨r',hr',rfl⟩ := (mem_peerResources_iff hpe hrp).mp (hpu.mem_iff.mp he)
 exact (hpe key).live r' (replied_eq_some_iff.mp hr').1

lemma countsAs_pullOrder : CountsAs (pullStep co pn rds (resourceHashes s)) (pullCounts co s) po
   (s,re) := by
 obtain ⟨hn,hk⟩ := pullOrder_keys hpe hrp hpu
 exact countsAs_pullStep co pn rds hn hk rfl fun _ _ => rfl

lemma applied_pullFromPeer : (pullFromPeer co cfg pn rds s re po).2 =
      min cfg.batchSize.toNat (applicableCount co s peer) := by
 have hc := @countP_pullCounts co s peer bts nid hpe hrp fun _ => true
 simp only [Bool.and_true] at hc
 rw [pullFromPeer,loop_eq (countsAs_pullOrder hpe hrp hpu) rfl]
 simp only [Nat.cast_zero,sub_zero,Nat.zero_add]
 rw [countP_visited,hpu.countP_eq]
 exact congrArg _ hc

lemma mismatched_pullFromPeer (key : String) :
  key ∈ (pullFromPeer co cfg pn rds s re po).1.2.hashMismatches ↔
   key ∈ re.hashMismatches ∨ ∃ c, (key,c) ∈ visited (pullCounts co s) cfg.batchSize.toNat po ∧
     (s.resources.find? key).any (·.hash ≠ c.resourceHash) = true := by
 refine (mem_loop (·.2.hashMismatches) (countsAs_pullOrder hpe hrp hpu)
  (fun acc e => (pullStep_report co pn rds s acc e).2) key).trans ?_
 simp only [Nat.cast_zero,sub_zero]

omit hpe hrp hpu in
lemma missing_pullFromPeer : (pullFromPeer co cfg pn rds s re po).1.2.missingRemotely =
   re.missingRemotely :=
 field_loop (·.2.missingRemotely) (fun _ _ => (pullStep_report ..).1) po 0 (s,re)

lemma keeps_pullFromPeer : Keeps s peer (pullFromPeer co cfg pn rds s re po).1.1 := by
 intro key hk
 rw [pullFromPeer,loop_eq (countsAs_pullOrder hpe hrp hpu) rfl]
 refine find?_foldl_pullStep co pn rds ?_ ?_ _
 · exact fun e he => (pullOrder_keys hpe hrp hpu).2 e (mem_of_mem_visited he)
 · intro hm
   obtain ⟨⟨k,c⟩,he,rfl⟩ := mem_map.mp hm
   obtain ⟨r',hr',-⟩ := (mem_peerResources_iff hpe hrp).mp
    (hpu.mem_iff.mp (mem_of_mem_visited he))
   rw [hk] at hr'
   cases hr'

variable {qo : Server → List (String × TrackedResource)} {del : String → Bool}

omit hpe hrp hpu in
lemma pushMissingStep_eq (rep : DriftReport) (e : String × TrackedResource) :
  pushMissingStep (peerResources bts) del rep e = ({ rep with
    missingRemotely := rep.missingRemotely ++
     if ((peerResources bts).find? e.1).isNone then [e.1] else [] },
   ((peerResources bts).find? e.1).isNone && del e.1) := by
 unfold pushMissingStep
 cases (peerResources bts).find? e.1 <;> simp [DriftReport.addMissingRemotely]

omit hpu in
lemma countsAs_pushMissingStep (ord : List (String × TrackedResource)) (rep : DriftReport) :
  CountsAs (pushMissingStep (peerResources bts) del)
   (fun e => unreplied s peer e && del e.1) ord rep := by
 refine countsAs_of_forall (fun rep e => ?_) ord rep
 rw [pushMissingStep_eq,find?_peerResources hpe hrp,Option.isNone_map,unreplied]

lemma mismatched_reconcile (hm : re.hashMismatches = []) (key : String) :
  key ∈ (reconcileWithPeerResources co cfg pn rds s (peerResources bts) re
   po qo del).hashMismatches ↔ ∃ c, (key,c) ∈ visited (pullCounts co s) cfg.batchSize.toNat po ∧
    (s.resources.find? key).any (·.hash ≠ c.resourceHash) = true := by
 have hp := @mismatched_pullFromPeer co cfg pn rds s peer bts nid re
  po hpe hrp hpu key
 rw [hm,or_iff_right not_mem_nil] at hp
 rw [← hp,reconcileWithPeerResources]
 split_ifs with hu
 · rw [field_loop DriftReport.hashMismatches fun _ _ => congrArg (·.1.hashMismatches)
    (pushMissingStep_eq ..)]
 · rfl

def pushRoom (codec : Codec) (config : AntiEntropyConfig) (s peer : Server) : ℕ :=
 (config.batchSize - min config.batchSize.toNat (applicableCount codec s peer)).toNat

lemma missing_reconcile (hm : re.missingRemotely = []) (key : String) :
  key ∈ (reconcileWithPeerResources co cfg pn rds s (peerResources bts) re
   po qo del).missingRemotely ↔ cfg.repairMode.pushes = true ∧ replied s peer key = none ∧
    ∃ r, (key,r) ∈ visited (fun e => unreplied s peer e && del e.1) (pushRoom co cfg s peer)
     (qo (pullFromPeer co cfg pn rds s re po).1.1) := by
 have hn := @missing_pullFromPeer co cfg pn rds s re po
 rw [hm] at hn
 have ha := @applied_pullFromPeer co cfg pn rds s peer bts nid re
  po hpe hrp hpu
 rw [reconcileWithPeerResources]
 split_ifs with hp
 · refine (mem_loop (·.missingRemotely) (countsAs_pushMissingStep hpe hrp _ _)
    (fun _ _ => congrArg (·.1.missingRemotely) (pushMissingStep_eq ..)) key).trans ?_
   simp [hn,ha,hp,find?_peerResources hpe hrp,pushRoom,and_comm]
 · rw [hn]
   simp [hp]

section
variable (hex : ∀ po qo, po.Perm (peerResources bts).pairs →
 (∀ s : Server, (qo s).Perm s.resources.pairs) → ReportExact s peer
  (reconcileWithPeerResources co cfg pn rds s (peerResources bts) re
   po qo fun _ => true))
include hex

variable {key : String}

omit hpu in
lemma pulls_of_exact (hmi : re.hashMismatches = [])
  (ha : Mismatched s peer key) : (replied s peer key).isSome ∧
   others Prod.fst (applicable co s) key peer.resources.pairs < cfg.batchSize := by
 have hr : ∀ po : List (String × ResourceChange),
   po.Perm (peerResources bts).pairs →
   ∃ c, (key,c) ∈ visited (pullCounts co s) cfg.batchSize.toNat po := by
  intro po hpu
  have hm := ((hex po (·.resources.pairs) hpu fun _ => .refl _).mismatched
   key).mpr ha
  obtain ⟨c,hv,-⟩ := (mismatched_reconcile hpe hrp hpu hmi key).mp hm
  exact ⟨c,hv⟩
 obtain ⟨c,hv⟩ := hr _ (.refl _)
 have hm := mem_of_mem_visited hv
 constructor
 · obtain ⟨r',hr',-⟩ := (mem_peerResources_iff hpe hrp).mp hm
   rw [hr']
   rfl
 · have hc : others Prod.fst (pullCounts co s) key (peerResources bts).pairs =
     others Prod.fst (applicable co s) key peer.resources.pairs :=
    countP_pullCounts hpe hrp fun k => k ≠ key
   have hl : others Prod.fst (pullCounts co s) key (peerResources bts).pairs <
     cfg.batchSize.toNat := by
    refine others_lt_of_forall_perm (pairs_keys_nodup _) hm ?_
    intro po hpu
    obtain ⟨c',hv'⟩ := hr po hpu
    exact ⟨_,hv',rfl⟩
   omega

section
variable (hmis : re.missingRemotely = [])
include hmis

lemma missing_iff_of_exact {l : List (String × TrackedResource)}
  (hl : l.Perm (pullFromPeer co cfg pn rds s re po).1.1.resources.pairs) (key : String) :
  MissingAtPeer s peer key ↔ cfg.repairMode.pushes = true ∧ replied s peer key = none ∧
   ∃ r, (key,r) ∈ visited (unreplied s peer) (pushRoom co cfg s peer) l := by
 classical
 let pulled := (pullFromPeer co cfg pn rds s re po).1.1
 -- an order of these resources gives an order for every server
 have hp : ∀ s : Server, (Function.update (fun s : Server => s.resources.pairs) pulled l s).Perm
       s.resources.pairs := by
  intro s
  by_cases hs : s = pulled
  · subst hs
    rw [Function.update_self]
    exact hl
  · rw [Function.update_of_ne hs]
 have hr := (hex po _ hpu hp).missing key
 rw [missing_reconcile hpe hrp hpu hmis,Function.update_self] at hr
 simp only [Bool.and_true] at hr
 exact hr.symm

lemma pushes_of_exact (hk : MissingAtPeer s peer key) : cfg.repairMode.pushes = true ∧
      applicableCount co s peer+unrepliedCount s peer ≤ cfg.batchSize := by
 obtain ⟨r,hr⟩ := isSome_iff_exists.mp hk.1
 obtain ⟨hp,hn,-⟩ := (missing_iff_of_exact hpe hrp hpu hex hmis (.refl _) key).mp hk
 have hkeeps := @keeps_pullFromPeer co cfg pn rds s peer bts nid re
  po hpe hrp hpu
 obtain ⟨h0,ht⟩ := countP_le_of_forall_perm (pairs_keys_nodup _) (hkeeps.mem_pairs hr hn)
  (unreplied_of_eq_none hn) fun l hl => by
   obtain ⟨-,-,r',hv⟩ := (missing_iff_of_exact hpe hrp hpu hex hmis hl key).mp hk
   exact ⟨_,hv,rfl⟩
 rw [hkeeps.countP_unreplied] at h0 ht
 rw [pushRoom] at ht
 exact ⟨hp,by omega⟩

lemma answered_of_exact (hp : cfg.repairMode.pushes = true)
  (hli : applicableCount co s peer < cfg.batchSize) (hb : HeldByBoth s peer key) :
  (replied s peer key).isSome := by
 by_contra hre
 have hn : replied s peer key = none := not_isSome_iff_eq_none.mp hre
 obtain ⟨r,hr⟩ := isSome_iff_exists.mp hb.1
 have hro : 0 < pushRoom co cfg s peer := by
  rw [pushRoom]
  omega
 obtain ⟨l,hl,hv⟩ := exists_perm_mem_visited
  ((keeps_pullFromPeer hpe hrp hpu).mem_pairs hr hn) hro
 have hg := ((missing_iff_of_exact hpe hrp hpu hex hmis hl key).mpr ⟨hp,hn,r,hv⟩).2
 have ho := hb.2
 rw [hg] at ho
 cases ho

end

omit hpu in
lemma reconcileCovers_of_exact (hm : re.hashMismatches = [])
  (hmis : re.missingRemotely = []) : ReconcileCovers co cfg s peer where
 pulls _ hk := pulls_of_exact hpe hrp hex hm hk
 pushes _ hk := pushes_of_exact hpe hrp (.refl _) hex hmis hk
 answered hp hl _ hb := answered_of_exact hpe hrp (.refl _) hex hmis hp hl hb

end

section
variable (hcov : ReconcileCovers co cfg s peer)
include hcov

lemma missing_of_covers (hmis : re.missingRemotely = [])
  (hu : ∀ s : Server, (qo s).Perm s.resources.pairs) (key : String) :
  key ∈ (reconcileWithPeerResources co cfg pn rds s (peerResources bts) re
   po qo del).missingRemotely ↔ MissingAtPeer s peer key := by
 rw [missing_reconcile hpe hrp hpu hmis]
 have hkeeps := @keeps_pullFromPeer co cfg pn rds s peer bts nid re
  po hpe hrp hpu
 constructor
 · rintro ⟨hp,hn,r,hv⟩
   have hr := (hu _).mem_iff.mp (mem_of_mem_visited hv)
   rw [mem_pairs_iff,hkeeps key hn] at hr
   refine ⟨by rw [hr]; rfl,?_⟩
   by_contra ho
   have hl : applicableCount co s peer < cfg.batchSize := by
    by_contra hl
    have hro : pushRoom co cfg s peer = 0 := by
     rw [pushRoom]
     omega
    rw [hro] at hv
    exact absurd hv notMem_visited_zero
   have hre := hcov.answered hp hl key ⟨by rw [hr]; rfl,isSome_iff_ne_none.mpr ho⟩
   rw [hn] at hre
   cases hre
 · intro hk
   obtain ⟨r,hr⟩ := isSome_iff_exists.mp hk.1
   have hn : replied s peer key = none := by
    rw [replied,hk.2]
    rfl
   obtain ⟨hp,hf⟩ := hcov.pushes key hk
   have hle := hkeeps.countP_unreplied
   refine ⟨hp,hn,r,mem_visited_of_countP_le (pairs_keys_nodup _) (hu _) (hkeeps.mem_pairs hr hn)
    (unreplied_of_eq_none hn) (fun _ he => (Bool.and_eq_true_iff.mp he).1) ?_⟩
   rw [hle,pushRoom]
   omega

lemma mismatched_of_covers (hm : re.hashMismatches = []) (key : String) :
  key ∈ (reconcileWithPeerResources co cfg pn rds s (peerResources bts) re
   po qo del).hashMismatches ↔ Mismatched s peer key := by
 rw [mismatched_reconcile hpe hrp hpu hm]
 constructor
 · rintro ⟨c,hv,ha⟩
   obtain ⟨r',hr',rfl⟩ := (mem_peerResources_iff hpe hrp).mp
    (hpu.mem_iff.mp (mem_of_mem_visited hv))
   obtain ⟨r,hr,hn⟩ := (Option.any_eq_true _ _).mp ha
   exact ⟨r,r',hr,(replied_eq_some_iff.mp hr').1,of_decide_eq_true hn⟩
 · rintro ⟨r,r',hr,hr',hn⟩
   obtain ⟨hre,hli⟩ := hcov.pulls key ⟨r,r',hr,hr',hn⟩
   obtain ⟨r₁,hr₁⟩ := isSome_iff_exists.mp hre
   obtain rfl := Option.some.inj ((replied_eq_some_iff.mp hr₁).1.symm.trans hr')
   have hme := hpu.mem_iff.mpr ((mem_peerResources_iff hpe hrp).mpr ⟨r₁,hr₁,rfl⟩)
   have hc : others Prod.fst (pullCounts co s) key (peerResources bts).pairs =
     others Prod.fst (applicable co s) key peer.resources.pairs :=
    countP_pullCounts hpe hrp fun k => k ≠ key
   have hle : others Prod.fst (pullCounts co s) key po ≤
     others Prod.fst (pullCounts co s) key (peerResources bts).pairs :=
    others_mono hpu (fun _ he => he) key
   have hl : others Prod.fst (pullCounts co s) key po < cfg.batchSize.toNat := by
    omega
   refine ⟨_,mem_visited_of_lt (pullOrder_keys hpe hrp hpu).1 hme hl,?_⟩
   rw [hr,Option.any_some,decide_eq_true_eq]
   exact hn

lemma exact_of_reconcileCovers (hm : re.hashMismatches = []) (hmis : re.missingRemotely = [])
  (hp : ∀ s : Server, (qo s).Perm s.resources.pairs) :
  ReportExact s peer (reconcileWithPeerResources co cfg pn rds s
   (peerResources bts) re po qo del) where
 missing := missing_of_covers hpe hrp hpu hcov hmis hp
 mismatched := mismatched_of_covers hpe hrp hpu hcov hm

end

end

section
variable {co : Codec} {sha : Sha256} {cfg : AntiEntropyConfig} {s peer : Server}
 {lt : MerkleTree} {pc : VectorClock} {bts : List ResourceBatch}
 {newId : TrackedResource → String}
 (hpe : WellKeyed peer) (hrp : IsReply s peer bts newId)
include hpe hrp

lemma compare_eq_nil_iff {tre : List (String × ResourceChange)}
  (ht : tre.Perm (peerResources bts).pairs) :
  lt.compare (some (tre.foldl (fun t e => t.update sha e.1 e.2.resourceHash) {})) =
   [] ↔ ¬ TreesDiffer sha lt s peer := by
 obtain ⟨hr,hrt⟩ := foldl_update sha ResourceChange.resourceHash tre
 have hf : ∀ key, (tre.foldl (fun acc e => acc.set e.1 e.2.resourceHash)
   (∅ : KeyedMap String String)).find? key = (replied s peer key).map TrackedResource.hash := by
  intro key
  have h := find?_foldl_set_of_perm (fun _ => true) ResourceChange.resourceHash ht ∅ key
  simp only [if_true,find?_peerResources hpe hrp] at h
  rw [h]
  cases replied s peer key <;> rfl
 have hre : ∀ key, (repliedHashes s peer).find? key =
   (replied s peer key).map TrackedResource.hash := by
  intro key
  rw [repliedHashes,find?_putWhere,replied,find?_empty,Option.or_none]
 have ha : rebuiltRoot sha (tre.foldl (fun acc e => acc.set e.1 e.2.resourceHash) ∅) =
   rebuiltRoot sha (repliedHashes s peer) :=
  rebuiltRoot_congr (fun key => (hf key).trans (hre key).symm) sha
 simp only [eq_nil_iff_forall_not_mem,MerkleTree.mem_compare,hr,hf,
  MerkleTree.sameRoot,hrt,ha,TreesDiffer]
 push Not
 exact forall_comm.trans (by simp)

lemma reportsExactly_iff : ReportsExactly co sha cfg s peer lt pc bts ↔
      DriftCovered co sha cfg s peer lt pc := by
 constructor
 · intro h
   refine ⟨fun hc ho => ?_,fun hc hf => ?_,fun hc hf key => ?_⟩
   · exact pushCovers_of_exact hpe hrp fun order horder =>
      h _ (.ahead hc ho "" 0 order horder fun _ => true)
   · have hdi : lt.compare (some ((peerResources bts).pairs.foldl
       (fun t e => t.update sha e.1 e.2.resourceHash) {})) ≠ [] := fun hn =>
      (compare_eq_nil_iff hpe hrp (.refl _)).mp hn hf
     refine @reconcileCovers_of_exact _ _ "" (fun _ => (0,0)) _ _ _ _
      ⟨"",0,lt.compare (some ((peerResources bts).pairs.foldl
       (fun t e => t.update sha e.1 e.2.resourceHash) {})),[],[],[]⟩ hpe hrp ?_ rfl rfl
     intro pullOrder pushOrder hpull hp
     have hexact := h _ (.concurrent hc "" 0 (fun _ => (0,0)) _ pullOrder pushOrder (.refl _)
      hpull hp fun _ => true)
     rw [handleConcurrentState,if_neg hdi] at hexact
     exact hexact
   · have hdi := (compare_eq_nil_iff hpe hrp (.refl _)).mpr hf
     have hexact := h _ (.concurrent hc "" 0 (fun _ => (0,0)) _ _
      (·.resources.pairs) (.refl _) (.refl _) (fun s => .refl _) fun _ => true)
     rw [handleConcurrentState,if_pos hdi] at hexact
     exact ⟨fun hmis => not_mem_nil ((hexact.missing key).mpr hmis),
      fun hm => not_mem_nil ((hexact.mismatched key).mpr hm)⟩
 · intro h report hr
   cases hr with
   | ahead hc ho peerName now order horder delivered =>
    exact exact_of_pushCovers hpe hrp (h.ahead hc ho) horder peerName now
   | concurrent hc peerName now reads treeOrder pullOrder pushOrder ht hpull hp delivered =>
    rw [handleConcurrentState]
    by_cases hf : TreesDiffer sha lt s peer
    · have hdi := fun hn => (compare_eq_nil_iff hpe hrp ht).mp hn hf
      rw [if_neg hdi]
      exact exact_of_reconcileCovers hpe hrp hpull (h.concurrent hc hf) rfl rfl hp
    · rw [if_pos ((compare_eq_nil_iff hpe hrp ht).mpr hf)]
      exact ⟨fun key => iff_of_false not_mem_nil (h.undiffering hc hf key).1,
       fun key => iff_of_false not_mem_nil (h.undiffering hc hf key).2⟩

end

theorem drift_report_exact_iff (codec : Codec) (sha256 : Sha256) (config : AntiEntropyConfig)
  (ours theirs : Config) (ops ops' : List Op) (localTree : MerkleTree) (peerClock : VectorClock)
  (batches : List ResourceBatch) (newId : TrackedResource → String)
  (hreply : IsReply (serverRun codec ours ops) (serverRun codec theirs ops') batches newId) :
  ReportsExactly codec sha256 config (serverRun codec ours ops) (serverRun codec theirs ops')
    localTree peerClock batches ↔
   DriftCovered codec sha256 config (serverRun codec ours ops) (serverRun codec theirs ops')
    localTree peerClock :=
 reportsExactly_iff (wellKeyed_reachable (reachable_serverRun codec theirs ops')) hreply

def sampleAntiEntropy : AntiEntropyConfig := ⟨100,.bidirectional⟩

def hashedReply (data : Bytes) (hash : String) : List ResourceBatch :=
 [⟨true,[fullSyncChange "" (hashedChange data hash).tracked]⟩]

lemma isReply_hashedReply : IsReply (recordingServer "a" [1]) (hashedServer "b" [2] "v2")
  (hashedReply [2] "v2") fun _ => "" :=
 ⟨_,.refl _,rfl⟩

lemma eq_sampleKey_of_isSome {mem : String} {data : Bytes} {hash key : String}
  (h : ((hashedServer mem data hash).resources.find? key).isSome) : key = sampleKey.string := by
 by_contra hn
 have ho : (hashedServer mem data hash).resources.find? key = none := find?_set_ne ∅ _ hn
 rw [ho] at h
 cases h

/-- One member records the sample key without a hash, another received it with one from a third. -/
theorem recorded_and_received_reported :
  ReportsExactly emptyObjectCodec sampleSha256 sampleAntiEntropy (recordingServer "a" [1])
   (hashedServer "b" [2] "v2") {} ∅ (hashedReply [2] "v2") := by
 refine (drift_report_exact_iff emptyObjectCodec sampleSha256 sampleAntiEntropy _ _ _ _ {} ∅ _ _
  isReply_hashedReply).mpr ⟨fun _ _ => ?_,fun hc => ?_,fun hc => ?_⟩
 · constructor
   · exact fun key _ => show (1 : ℤ) ≤ 100 by decide
   · rintro - key ⟨-,ho⟩
     obtain rfl := eq_sampleKey_of_isSome ho
     rfl
 · cases hc
 · cases hc

/-- The reply leaves out a version that both got from a third member, and it is reported as missing.
-/
theorem synced_key_reported_missing :
  IsReply (hashedServer "a" [1] "v1") (hashedServer "b" [1] "v1") [⟨true,[]⟩] (fun _ => "") ∧
   ¬ ReportsExactly emptyObjectCodec sampleSha256 sampleAntiEntropy (hashedServer "a" [1] "v1")
    (hashedServer "b" [1] "v1") (rebuildLocalTree sampleSha256 (hashedServer "a" [1] "v1"))
    (hashedServer "b" [1] "v1").vectorClock [⟨true,[]⟩] := by
 refine ⟨⟨_,.refl _,rfl⟩,fun h => ?_⟩
 have hexact := h _ (.concurrent (by decide) "b" 0 (fun _ => (0,0)) [] []
  (·.resources.pairs) (.refl _) (.refl _) (fun s => .refl _) fun _ => true)
 have hr : sampleKey.string ∈ (handleConcurrentState emptyObjectCodec sampleAntiEntropy "b"
   (fun _ => (0,0)) sampleSha256 (hashedServer "a" [1] "v1")
   (rebuildLocalTree sampleSha256 (hashedServer "a" [1] "v1")) [⟨true,[]⟩] 0 [] []
   (·.resources.pairs) fun _ => true).missingRemotely := by
  decide
 exact absurd ((hexact.missing _).mp hr).2 (by decide)

end NovaEdge.Federation
