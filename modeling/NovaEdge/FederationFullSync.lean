import NovaEdge.FederationCausality

/-! Full synchronisation. The peer skips what is strictly before the requester's clock, so the
requester ends up covered for such a version only if it was covered before. -/
namespace NovaEdge.Federation
open VectorClock Register List KeyedMap Server

structure FullSyncRequest where
 (resourceTypes namespaces : List String)
 vectorClock : VectorClock

structure ResourceBatch where
 isLast : Bool
 resources : List ResourceChange

def resourceMatchesFilter (res : TrackedResource) (resourceTypes namespaces : List String) : Bool :=
 (resourceTypes.isEmpty || resourceTypes.contains res.key.kind) &&
  (namespaces.isEmpty || namespaces.contains res.key.ns)

def fullSyncChange (id : String) (res : TrackedResource) : ResourceChange where
 changeId := id
 vectorClock := res.vectorClock
 changeType := .updated
 resourceType := res.key.kind
 ns := res.key.ns
 name := res.key.name
 resourceVersion := res.resourceVersion
 resourceData := res.data
 resourceHash := res.hash
 timestamp := res.lastModified
 originMember := res.originMember
 labels := res.labels

namespace Server

def collectFullSyncResources (s : Server) (req : FullSyncRequest)
  (newId : TrackedResource → String) : List ResourceChange :=
 (s.resources.values.filter fun res =>
  resourceMatchesFilter res req.resourceTypes req.namespaces &&
   (res.vectorClock.happenedAfter req.vectorClock ||
    res.vectorClock.concurrent req.vectorClock)).map fun res => fullSyncChange (newId res) res

def batchLoop (batchSize : ℕ) : ℕ → List ResourceChange → List ResourceBatch
 | 0, _ => []
 | fuel+1, rest =>
  if rest.isEmpty then []
  else ⟨(rest.drop batchSize).isEmpty,rest.take batchSize⟩ ::
   batchLoop batchSize fuel (rest.drop batchSize)

def sendFullSyncBatches (s : Server) (resources : List ResourceChange) : List ResourceBatch :=
 if resources.isEmpty then [⟨true,[]⟩]
 else
  let batchSize := if s.config.batchSize = 0 then resources.length else s.config.batchSize
  batchLoop batchSize resources.length resources

def applyAll (codec : Codec) (s : Server) (peerName : String)
  (reads : ResourceChange → Instant × Instant) (changes : List ResourceChange) : Server :=
 changes.foldl (fun s c => (s.handleResourceChange codec peerName c (reads c).1 (reads c).2).1) s

end Server

def maxFullSyncBatches : ℕ := 10000

def recvBatches (batches : List ResourceBatch) : List ResourceBatch → Option (List ResourceBatch)
 | [] => some batches
 | batch::rest =>
  if maxFullSyncBatches < batches.length+1 then none
  else if batch.isLast then some (batches ++ [batch])
  else recvBatches (batches ++ [batch]) rest

/-- A full sync without filter that completes. The peer's map iteration may list the collected
resources in any order. -/
inductive CompletesFullSync (codec : Codec) (requester peer : Server) : Server → Prop
 | intro (peerName : String) (newId : TrackedResource → String)
   (reads : ResourceChange → Instant × Instant) (collected : List ResourceChange)
   (batches : List ResourceBatch) (hfilter : requester.config.resourceTypes = [])
   (hcollect : collected.Perm (peer.collectFullSyncResources
    ⟨requester.config.resourceTypes,[],requester.vectorClock⟩ newId))
   (hrecv : recvBatches [] (peer.sendFullSyncBatches collected) = some batches) :
   CompletesFullSync codec requester peer
    (requester.applyAll codec peerName reads (batches.flatMap ResourceBatch.resources))

section

lemma flatMap_batchLoop {size : ℕ} (hsi : 0 < size) (fuel : ℕ) (rest : List ResourceChange)
  (hf : rest.length ≤ fuel) :
  (batchLoop size fuel rest).flatMap ResourceBatch.resources = rest := by
 induction fuel generalizing rest with
 | zero => simp [batchLoop,length_eq_zero_iff.mp (Nat.le_zero.mp hf)]
 | succ fuel ih =>
  unfold batchLoop
  cases rest with
  | nil => rfl
  | cons c rest =>
   have hr : ((c::rest).drop size).length ≤ fuel := by
    rw [length_drop]
    omega
   simp only [isEmpty_cons,Bool.false_eq_true,if_false,flatMap_cons]
   rw [ih _ hr,take_append_drop]

lemma recvBatches_batchLoop (size fuel : ℕ) (rest : List ResourceChange)
  (acc bts : List ResourceBatch)
  (h : recvBatches acc (batchLoop size fuel rest) = some bts) :
  bts = acc ++ batchLoop size fuel rest := by
 induction fuel generalizing rest acc with
 | zero => simpa [batchLoop,recvBatches,eq_comm] using h
 | succ fuel ih =>
  unfold batchLoop at h ⊢
  cases hr : rest.isEmpty with
  | true => simpa [hr,recvBatches,eq_comm] using h
  | false =>
   simp only [hr,Bool.false_eq_true,if_false,recvBatches] at h ⊢
   split_ifs at h with hm hl
   · cases h
     have hn : rest.drop size = [] := isEmpty_iff.mp hl
     have ho : batchLoop size fuel [] = [] := by cases fuel <;> rfl
     rw [hn,ho]
   · rw [ih _ _ h,append_assoc]
     rfl

lemma transfer_lossless (s : Server) (col : List ResourceChange) (bts : List ResourceBatch)
  (h : recvBatches [] (s.sendFullSyncBatches col) = some bts) :
  bts.flatMap ResourceBatch.resources = col := by
 unfold sendFullSyncBatches at h
 cases col with
 | nil =>
  simp [recvBatches,maxFullSyncBatches] at h
  subst h
  rfl
 | cons c rest =>
  have hp : 0 < if s.config.batchSize = 0 then (c::rest).length else s.config.batchSize := by
   split_ifs with h0
   · exact Nat.succ_pos _
   · exact Nat.pos_of_ne_zero h0
  rw [recvBatches_batchLoop _ _ _ _ _ h,nil_append]
  exact flatMap_batchLoop hp _ _ le_rfl

end

structure Register.KeyedBy (g : Register) (k : String) : Prop where
 live : ∀ r, g.live = some r → r.key.string = k
 parked : ∀ c, g.parked = some c → c.remoteVersion.key.string = k

def WellKeyed (s : Server) : Prop := ∀ k, (s.register k).KeyedBy k

variable {codec : Codec}

lemma keyedBy_receipt {cfg : Config} {g g' : Register} {ch : ResourceChange}
  {d m : Instant} (h : g.KeyedBy ch.key.string)
  (hg : Register.Receipt codec cfg g ch d m g') : g'.KeyedBy ch.key.string := by
 cases hg with
 | ignored => exact h
 | stored | remoteWins =>
  refine ⟨?_,h.parked⟩
  intro r hr
  exact Option.some.inj hr ▸ rfl
 | deleted => exact ⟨by simp,h.parked⟩
 | merged r merged hl hc hs ho =>
  refine ⟨?_,h.parked⟩
  intro r' hr'
  cases hr'
  rw [(mergeResources_ok ho).2.1]
  exact h.live r hl
 | parked =>
  refine ⟨h.live,?_⟩
  intro c hc
  exact Option.some.inj hc ▸ rfl

lemma keyedBy_resolve {g : Register} {k : String} (h : g.KeyedBy k) (ul : Bool) :
  (g.resolve ul).KeyedBy k := by
 unfold resolve
 cases hp : g.parked with
 | none => exact h
 | some c =>
  refine ⟨?_,by simp⟩
  intro r hr
  cases ul with
  | true => exact h.live r hr
  | false => exact Option.some.inj hr ▸ h.parked c hp

lemma wellKeyed_step {s : Server} (h : WellKeyed s) (op : Op) : WellKeyed (s.step codec op) := by
 intro k
 have ht := registerStep codec s op k
 generalize (s.step codec op).register k = g' at ht ⊢
 cases ht with
 | unchanged => exact h k
 | recorded id key t data labels stamp stored hk =>
  subst hk
  cases t with
  | created | updated => exact ⟨fun r hr => Option.some.inj hr ▸ rfl,(h _).parked⟩
  | deleted => exact ⟨fun r hr => absurd hr.symm (some_ne_none r),(h _).parked⟩
 | received p change d m hk =>
  subst hk
  exact keyedBy_receipt (h _) (receive_receipt ..)
 | resolved useLocal => exact keyedBy_resolve (h k) useLocal
 | cleaned now => exact ⟨(h k).live,(h k).parked⟩

lemma wellKeyed_reachable {s : Server} (h : (serverSystem codec).Reachable s) : WellKeyed s := by
 refine h.invariant ?_ ?_
 · rintro s ⟨config,rfl⟩ k
   exact ⟨by simp,by simp⟩
 · rintro s op t hs rfl
   exact wellKeyed_step hs op

section
variable (co : Codec) (pn : String) (rds : ResourceChange → Instant × Instant)

lemma config_applyAll (chs : List ResourceChange) (s : Server) :
  (s.applyAll co pn rds chs).config = s.config := by
 induction chs generalizing s with
 | nil => rfl
 | cons c rest ih => exact (ih _).trans (config_handleResourceChange ..)

lemma register_applyAll_of_notMem {k : String} (chs : List ResourceChange) (s : Server)
  (hk : ∀ c ∈ chs, c.key.string ≠ k) : (s.applyAll co pn rds chs).register k = s.register k := by
 induction chs generalizing s with
 | nil => rfl
 | cons c rest ih =>
  have hn : k ≠ c.key.string := fun hq => hk c mem_cons_self hq.symm
  refine (ih _ fun c' hc' => hk c' (mem_cons_of_mem _ hc')).trans ?_
  rw [register_handleResourceChange,if_neg hn]

lemma register_applyAll_of_mem {chs : List ResourceChange} (s : Server)
  (hnd : (chs.map (·.key.string)).Nodup) {c : ResourceChange} (hc : c ∈ chs) :
  (s.applyAll co pn rds chs).register c.key.string =
   (s.register c.key.string).receive co s.config c (rds c).1 (rds c).2 := by
 induction chs generalizing s with
 | nil => exact absurd hc not_mem_nil
 | cons c' rest ih =>
  obtain ⟨hn,hr⟩ := nodup_cons.mp hnd
  rcases mem_cons.mp hc with rfl | hc
  · refine (register_applyAll_of_notMem co pn rds rest _ ?_).trans ?_
    · intro c' hc' hq
      exact hn (mem_map.mpr ⟨c',hc',hq⟩)
    · rw [register_handleResourceChange,if_pos rfl]
  · have hne : c.key.string ≠ c'.key.string := by
     intro hq
     exact hn (mem_map.mpr ⟨c,hc,hq⟩)
    refine (ih _ hr hc).trans ?_
    rw [register_handleResourceChange,if_neg hne,config_handleResourceChange]

end

section
variable {s : Server} {vc : VectorClock} {nid : TrackedResource → String}

lemma mem_collectFullSyncResources {c : ResourceChange} :
  c ∈ s.collectFullSyncResources ⟨[],[],vc⟩ nid ↔
   ∃ k v, (s.register k).live = some v ∧ ¬ v.vectorClock.get < vc.get ∧
    c = fullSyncChange (nid v) v := by
 have hse : ∀ v : TrackedResource,
   (v.vectorClock.happenedAfter vc || v.vectorClock.concurrent vc) = true ↔
    ¬ v.vectorClock.get < vc.get := by
  intro v
  rw [Bool.or_eq_true,happenedAfter_iff,concurrent_iff]
  constructor
  · rintro (ha | hc)
    · exact lt_asymm ha
    · exact hc.1
  · intro hn
    by_cases ha : vc.get < v.vectorClock.get
    · exact .inl ha
    · exact .inr ⟨hn,ha⟩
 simp only [collectFullSyncResources,resourceMatchesFilter,isEmpty_nil,
  Bool.true_or,Bool.true_and,mem_map,mem_filter,hse,mem_values_iff]
 constructor
 · rintro ⟨v,⟨⟨k,hk⟩,hn⟩,rfl⟩
   exact ⟨k,v,hk,hn,rfl⟩
 · rintro ⟨k,v,hk,hn,rfl⟩
   exact ⟨v,⟨⟨k,hk⟩,hn⟩,rfl⟩

lemma collect_keys_nodup (h : WellKeyed s) (req : FullSyncRequest) :
  ((s.collectFullSyncResources req nid).map (·.key.string)).Nodup := by
 have hk : (s.resources.values.map (·.key.string)) = s.resources.pairs.map Prod.fst := by
  rw [values_eq_map_pairs,map_map]
  apply map_congr_left
  intro ⟨k,v⟩ hv
  exact (h k).live v (mem_pairs_iff.mp hv)
 have hu : (((s.collectFullSyncResources req nid).map (·.key.string))).Sublist
   (s.resources.values.map (·.key.string)) := by
  unfold collectFullSyncResources
  rw [map_map]
  exact List.Sublist.map _ filter_sublist
 rw [hk] at hu
 exact hu.nodup (pairs_keys_nodup _)

end

/-- Equal, causally after, or concurrent and preferred by the last-writer rule. -/
def Covers (config : Config) (v : TrackedResource) : Entry → Prop
 | .live r =>
  (r.vectorClock.get = v.vectorClock.get ∧ r.data = v.data) ∨
  v.vectorClock.get < r.vectorClock.get ∨
  (r.vectorClock.concurrent v.vectorClock = true ∧
   config.conflictResolutionStrategy = .lastWriterWins ∧ v.lastModified ≤ r.lastModified)
 | .tomb t => v.vectorClock.get < t.vectorClock.get

def Register.Covered (config : Config) (g : Register) (v : TrackedResource) : Prop :=
 ∃ e, g.Holds e ∧ Covers config v e

def Repaired (requester peer : Server) : Prop :=
 ∀ k v, (peer.register k).live = some v → (requester.register k).Covered requester.config v

def LeftOpen (codec : Codec) (config : Config) (g : Register) (v : TrackedResource) : Prop :=
 ∃ r, g.live = some r ∧ r.vectorClock.concurrent v.vectorClock = true ∧
  config.conflictResolutionStrategy ≠ .lastWriterWins ∧
  ¬ (config.conflictResolutionStrategy = .merge ∧ Mergeable codec r.data v.data)

/-- Versions that the sync does not carry over, or leaves in an open conflict, are covered
already. -/
def SyncReady (codec : Codec) (requester peer : Server) : Prop :=
 ∀ k v, (peer.register k).live = some v → v.vectorClock.get < requester.vectorClock.get ∨
   LeftOpen codec requester.config (requester.register k) v →
  (requester.register k).Covered requester.config v

/-- The clocks that a merge of the sync would produce stay within the `int64` range. -/
def CountersFit (requester peer : Server) : Prop :=
 requester.config.conflictResolutionStrategy = .merge →
  ∀ k r v, (requester.register k).live = some r → (peer.register k).live = some v →
  0 ≤ r.vectorClock.get ∧
   (r.vectorClock.mergeMap v.vectorClock).get requester.config.localMember < maxInt64

section
variable {co : Codec} {cfg : Config} {g : Register} {v : TrackedResource} (id : String)
 (d m : Instant)

lemma covered_stored (h : g.live = some (fullSyncChange id v).tracked) : g.Covered cfg v :=
 ⟨.live (fullSyncChange id v).tracked,h,.inl ⟨rfl,rfl⟩⟩

lemma lt_merged_of_fit {r mgd : TrackedResource} (h0 : 0 ≤ r.vectorClock.get)
  (hm : (r.vectorClock.mergeMap v.vectorClock).get cfg.localMember < maxInt64)
  (ho : mergeResources co cfg m r (fullSyncChange id v).tracked = .ok mgd) :
  v.vectorClock.get < mgd.vectorClock.get := by
 obtain ⟨-,-,hc⟩ := mergeResources_ok ho
 rw [hc]
 exact (mergeMap_ge h0 v.vectorClock).trans_lt (lt_increment hm)

lemma covered_conflict {r : TrackedResource} (hl : g.live = some r)
  (hc : r.vectorClock.concurrent v.vectorClock = true) (ho : ¬ LeftOpen co cfg g v)
  (hf : cfg.conflictResolutionStrategy = .merge → 0 ≤ r.vectorClock.get ∧
   (r.vectorClock.mergeMap v.vectorClock).get cfg.localMember < maxInt64) :
  (g.conflict co cfg r (fullSyncChange id v) d m).Covered cfg v := by
 unfold conflict
 cases hs : cfg.conflictResolutionStrategy with
 | lastWriterWins =>
  split_ifs with ht
  · exact covered_stored id rfl
  · exact ⟨.live r,hl,.inr (.inr ⟨hc,hs,not_lt.mp ht⟩)⟩
 | merge =>
  have hm : Mergeable co r.data v.data := by
   by_contra hn
   exact ho ⟨r,hl,hc,by simp [hs],fun h => hn h.2⟩
  obtain ⟨mgd,hk⟩ := mergeResources_isOk (v := (fullSyncChange id v).tracked) hm cfg m
  simp only [hk]
  exact ⟨.live mgd,rfl,.inr (.inl (lt_merged_of_fit id m (hf hs).1 (hf hs).2 hk))⟩
 | manual | other n => exact absurd ⟨r,hl,hc,by simp [hs],by simp [hs]⟩ ho

lemma covered_receive (ho : ¬ LeftOpen co cfg g v)
  (hf : cfg.conflictResolutionStrategy = .merge → ∀ r, g.live = some r → 0 ≤ r.vectorClock.get ∧
   (r.vectorClock.mergeMap v.vectorClock).get cfg.localMember < maxInt64) :
  (g.receive co cfg (fullSyncChange id v) d m).Covered cfg v := by
 unfold receive
 cases hl : g.live with
 | none => exact covered_stored id rfl
 | some r =>
  dsimp only
  split_ifs with hc hb
  · exact covered_conflict id d m hl hc ho fun hs => hf hs r hl
  · exact ⟨.live r,hl,.inr (.inl ((happenedBefore_iff _ _).mp hb))⟩
  · exact covered_stored id rfl

lemma covered_receive_of_leftOpen (hop : LeftOpen co cfg g v) :
  (g.receive co cfg (fullSyncChange id v) d m).Covered cfg v ↔ g.Covered cfg v := by
 obtain ⟨r,hli,hc,hl,hm⟩ := hop
 have hc' : r.vectorClock.concurrent (fullSyncChange id v).vectorClock = true := hc
 have hp : ∀ c, (g.park c).Covered cfg v ↔ g.Covered cfg v := by
  intro c
  constructor
  · intro ⟨e,he,ho⟩
    exact ⟨e,by cases e <;> exact he,ho⟩
  · intro ⟨e,he,ho⟩
    exact ⟨e,by cases e <;> exact he,ho⟩
 unfold receive
 simp only [hli,hc',if_true]
 unfold conflict
 cases hs : cfg.conflictResolutionStrategy with
 | lastWriterWins => exact absurd hs hl
 | merge =>
  have hn : ¬ Mergeable co r.data v.data := fun h => hm ⟨hs,h⟩
  obtain ⟨e,hr⟩ := mergeResources_isError (v := (fullSyncChange id v).tracked) hn cfg m
  simp only [hr]
  exact hp _
 | manual => exact hp _
 | other n => exact Iff.rfl

end

lemma covered_after_sync_iff {rq peer res : Server} (hke : WellKeyed peer)
  (hy : CompletesFullSync codec rq peer res) (hf : CountersFit rq peer)
  {k : String} {v : TrackedResource} (hl : (peer.register k).live = some v) :
  (res.register k).Covered res.config v ↔ (v.vectorClock.get < rq.vectorClock.get ∨
    LeftOpen codec rq.config (rq.register k) v → (rq.register k).Covered rq.config v) := by
 obtain ⟨peerName,newId,reads,collected,batches,hfi,hco,hrc⟩ := hy
 rw [transfer_lossless peer collected batches hrc,config_applyAll]
 rw [hfi] at hco
 have hm : ∀ c, c ∈ collected ↔ ∃ k v, (peer.register k).live = some v ∧
   ¬ v.vectorClock.get < rq.vectorClock.get ∧ c = fullSyncChange (newId v) v :=
  fun c => hco.mem_iff.trans mem_collectFullSyncResources
 by_cases hsk : v.vectorClock.get < rq.vectorClock.get
 · have hn : ∀ c ∈ collected, c.key.string ≠ k := by
    intro c hc hq
    obtain ⟨k',v',hl',hse,rfl⟩ := (hm c).mp hc
    have hk' : k' = k := ((hke k').live v' hl').symm.trans hq
    subst hk'
    obtain rfl := mem_unique hl hl'
    exact hse hsk
   rw [register_applyAll_of_notMem codec peerName reads collected rq hn]
   simp only [hsk,true_or,forall_const]
 · have hc : fullSyncChange (newId v) v ∈ collected := (hm _).mpr ⟨k,v,hl,hsk,rfl⟩
   have hk : (fullSyncChange (newId v) v).key.string = k := (hke k).live v hl
   have hnd : (collected.map (·.key.string)).Nodup :=
    (hco.map _).nodup_iff.mpr (collect_keys_nodup hke _)
   have hre := register_applyAll_of_mem codec peerName reads rq hnd hc
   rw [hk] at hre
   rw [hre]
   simp only [hsk,false_or]
   by_cases ho : LeftOpen codec rq.config (rq.register k) v
   · rw [covered_receive_of_leftOpen _ _ _ ho]
     simp only [ho,forall_const]
   · have hv := covered_receive (newId v) (reads (fullSyncChange (newId v) v)).1
      (reads (fullSyncChange (newId v) v)).2 ho fun hs r hr => hf hs k r v hr hl
     simp only [ho,false_imp_iff,hv]

theorem full_sync_repairs_iff (codec : Codec) (requester peer result : Server)
  (hpeer : (serverSystem codec).Reachable peer)
  (hsync : CompletesFullSync codec requester peer result) (hfit : CountersFit requester peer) :
  Repaired result peer ↔ SyncReady codec requester peer := by
 have hk := wellKeyed_reachable hpeer
 constructor
 · intro h k v hl
   exact (covered_after_sync_iff hk hsync hfit hl).mp (h k v hl)
 · intro h k v hl
   exact (covered_after_sync_iff hk hsync hfit hl).mpr (h k v hl)

def secondKey : ResourceKey := ⟨"ProxyGateway","default","edge"⟩

def missedChangePeer : Server := serverRun emptyObjectCodec (sampleConfig "a" .lastWriterWins)
  [.recordLocalChange "1" sampleKey .created emptyObject ∅ 10 11,.openOutbox "b",
   .recordLocalChange "2" secondKey .created emptyObject ∅ 20 21]

def missedChangeRequester (change : ResourceChange) : Server :=
 serverRun emptyObjectCodec (sampleConfig "b" .lastWriterWins)
  [.handleResourceChange "a" change 30 31]

/-- The second change raises the requester's clock past the first one, which the sync skips. -/
theorem full_sync_skips_missed_change :
  ∃ change result, (serverSystem emptyObjectCodec).Reachable missedChangePeer ∧
   (missedChangePeer.sendNext "b").2 = some change ∧
   CompletesFullSync emptyObjectCodec (missedChangeRequester change)
    (missedChangePeer.sendNext "b").1 result ∧
   ¬ Repaired result (missedChangePeer.sendNext "b").1 := by
 refine ⟨_,_,reachable_serverRun ..,rfl,
  .intro "a" (fun _ => "") (fun _ => (40,41)) [] [⟨true,[]⟩] rfl (List.Perm.of_eq rfl) rfl,?_⟩
 intro hr
 obtain ⟨e,he,-⟩ := hr sampleKey.string _ rfl
 cases e with
 | live r => exact absurd (Eq.symm he) (some_ne_none r)
 | tomb t => exact absurd (Eq.symm he) (some_ne_none t)

/-- A requester that has heard nothing from the peer gets everything. -/
theorem full_sync_repairs_fresh_requester :
  let peer := serverRun emptyObjectCodec (sampleConfig "a" .lastWriterWins)
   [.recordLocalChange "1" sampleKey .created emptyObject ∅ 10 11]
  let requester := newServer (sampleConfig "b" .lastWriterWins)
  ∃ result, CompletesFullSync emptyObjectCodec requester peer result ∧
   Repaired result peer := by
 intro peer requester
 have hy : CompletesFullSync emptyObjectCodec requester peer
   (requester.applyAll emptyObjectCodec "a" (fun _ => (40,41))
    (peer.collectFullSyncResources ⟨[],[],requester.vectorClock⟩ fun _ => "3")) :=
  .intro "a" (fun _ => "3") (fun _ => (40,41)) _
   [⟨true,peer.collectFullSyncResources ⟨[],[],requester.vectorClock⟩ fun _ => "3"⟩]
   rfl (List.Perm.refl _) rfl
 refine ⟨_,hy,?_⟩
 refine (full_sync_repairs_iff emptyObjectCodec requester peer _ (reachable_serverRun ..) hy
  (fun hs => ConflictStrategy.noConfusion hs)).mpr ?_
 intro k v hl hc
 have hre := register_recordLocalChange (newServer (sampleConfig "a" .lastWriterWins)) "1"
  sampleKey .created emptyObject ∅ 10 11 k
 have hp : (peer.register k) = _ := hre
 rw [hp] at hl
 split_ifs at hl with hk
 · cases hl
   rcases hc with ht | ⟨r,hr,-⟩
   · rw [← happenedBefore_iff] at ht
     cases ht
   · exact absurd (Eq.symm hr) (some_ne_none r)
 · exact absurd (Eq.symm hl) (some_ne_none v)

end NovaEdge.Federation
