import NovaEdge.FederationHub

/-! Receiving the same change twice in a row. The stored version has the clock of the change, and
the comparison gives zero for equal clocks as it does for concurrent ones, so the second delivery is
a conflict of the change with itself. -/
namespace NovaEdge.Federation
open Server VectorClock Register

def ResourceChange.Upserts (change : ResourceChange) : Prop :=
 change.changeType = .created ∨ change.changeType = .updated

def ResourceChange.HasEffect (change : ResourceChange) : Prop :=
 change.Upserts ∨ change.changeType = .deleted

/-- Whatever the wall clock shows, the second delivery leaves the three maps as the first left
them. -/
def RedeliveryHarmless (codec : Codec) (s : Server) (change : ResourceChange) : Prop :=
 ∀ peer peer' d m d' m',
  let once := (s.handleResourceChange codec peer change d m).1
  let twice := (once.handleResourceChange codec peer' change d' m').1
  ∀ k, twice.resources.find? k = once.resources.find? k ∧
   twice.tombstones.find? k = once.tombstones.find? k ∧
   twice.conflicts.find? k = once.conflicts.find? k

def mergedClock (config : Config) (r : TrackedResource) (change : ResourceChange) : VectorClock :=
 (r.vectorClock.mergeMap change.vectorClock).increment config.localMember

/-- The last clause leaves out merges whose clock is not after the change. -/
def RedeliverySafe (codec : Codec) (s : Server) (change : ResourceChange) : Prop :=
 match s.config.conflictResolutionStrategy with
 | .lastWriterWins | .other _ => True
 | .manual => (Passes s change → ¬ change.Upserts) ∧
   ∀ r, s.resources.find? change.key.string = some r →
    ¬ r.vectorClock.concurrent change.vectorClock = true
 | .merge => (Passes s change → ¬ change.Upserts) ∧
   ∀ r, s.resources.find? change.key.string = some r →
    r.vectorClock.concurrent change.vectorClock = true →
     Mergeable codec r.data change.resourceData ∧
      (change.vectorClock.happenedBefore (mergedClock s.config r change) = true ∨
       (mergedClock s.config r change).happenedBefore change.vectorClock = true ∧
        ¬ change.HasEffect)

lemma VectorClock.concurrent_self (vc : VectorClock) : vc.concurrent vc = true := by
 rw [concurrent_iff]
 exact ⟨lt_irrefl _,lt_irrefl _⟩

namespace Register
variable {co : Codec} {cfg : Config} {g : Register} {r : TrackedResource}
 {change : ResourceChange}

def Settles (codec : Codec) (config : Config) (g : Register) (change : ResourceChange) : Prop :=
 ∀ d m d' m', (g.receive codec config change d m).receive codec config change d' m' =
  g.receive codec config change d m

lemma receive_of_concurrent (hli : g.live = some r)
  (hc : r.vectorClock.concurrent change.vectorClock = true) (d m : Instant) :
  g.receive co cfg change d m = g.conflict co cfg r change d m := by
 unfold receive
 rw [hli]
 exact if_pos hc

lemma receive_of_older (hli : g.live = some r)
  (hl : change.vectorClock.get < r.vectorClock.get) (d m : Instant) :
  g.receive co cfg change d m = g := by
 have hc : ¬ r.vectorClock.concurrent change.vectorClock = true := by
  rw [concurrent_iff]
  exact fun hn => hn.2 hl
 unfold receive
 rw [hli]
 exact (if_neg hc).trans (if_pos ((happenedBefore_iff _ _).mpr hl))

lemma receive_of_newer
  (h : ∀ r, g.live = some r → r.vectorClock.get < change.vectorClock.get) (d m : Instant) :
  g.receive co cfg change d m = g.apply change := by
 cases hlive : g.live with
 | none =>
  unfold receive
  rw [hlive]
 | some r => exact receive_of_lt co cfg d m hlive (h r hlive)

/-- A conflict is parked with the time at which it was found. -/
lemma not_forall_park_eq (g g' : Register) (r : TrackedResource) (ch : ResourceChange) :
  ¬ ∀ d, g.park (pendingConflict r ch d) = g' := by
 intro h
 have hp : some (pendingConflict r ch 0) = some (pendingConflict r ch 1) :=
  congrArg parked ((h 0).trans (h 1).symm)
 have ht : (0 : Instant) = 1 := congrArg ConflictInfo.detectedAt (Option.some.inj hp)
 cases ht

end Register

lemma mergeResources_lastModified {co : Codec} {cfg : Config} {now : Instant}
  {old rem mgd : TrackedResource} (h : mergeResources co cfg now old rem = .ok mgd) :
  mgd.lastModified = now := by
 unfold mergeResources at h
 split at h
 · cases h
 · split at h
   · cases h
   · split at h
     · cases h
     · cases h
       rfl

namespace Register
variable {co : Codec} {cfg : Config} {g : Register} {r : TrackedResource}
 {ch : ResourceChange}

lemma conflict_self_eq_iff (h : g.live = some ch.tracked) :
  (∀ d m, g.conflict co cfg ch.tracked ch d m = g) ↔
   cfg.conflictResolutionStrategy ≠ .manual ∧ cfg.conflictResolutionStrategy ≠ .merge := by
 unfold conflict
 cases cfg.conflictResolutionStrategy with
 | lastWriterWins =>
  have hse : ¬ ch.tracked.lastModified < ch.timestamp := lt_irrefl _
  simp [hse]
 | merge =>
  refine iff_of_false (fun ha => ?_) (by simp)
  by_cases hm : Mergeable co ch.tracked.data ch.tracked.data
  · -- the stored version carries the time of the merge
    obtain ⟨mgd,ho⟩ := mergeResources_isOk hm cfg (ch.timestamp+1)
    have hp := ha 0 (ch.timestamp+1)
    simp only [ho] at hp
    have hsa : mgd = ch.tracked := Option.some.inj ((congrArg live hp).trans h)
    have ht : mgd.lastModified = ch.timestamp := hsa ▸ rfl
    rw [mergeResources_lastModified ho] at ht
    exact absurd ht (by simp)
  · obtain ⟨e,hr⟩ := mergeResources_isError hm cfg 0
    refine not_forall_park_eq g g ch.tracked ch fun d => ?_
    have hpa := ha d 0
    simpa only [hr] using hpa
 | manual =>
  exact iff_of_false (fun ha => not_forall_park_eq g g _ ch fun d => ha d 0) (by simp)
 | other n => simp

lemma apply_of_not_hasEffect (h : ¬ ch.HasEffect) (g : Register) : g.apply ch = g := by
 unfold ResourceChange.HasEffect ResourceChange.Upserts at h
 unfold apply
 cases ht : ch.changeType with
 | created | updated | deleted => simp [ht] at h
 | unspecified | unrecognized n => rfl

lemma settles_of_newer_iff (h : ∀ r, g.live = some r → r.vectorClock.get < ch.vectorClock.get) :
  g.Settles co cfg ch ↔ (ch.Upserts → cfg.conflictResolutionStrategy ≠ .manual ∧
    cfg.conflictResolutionStrategy ≠ .merge) := by
 unfold Settles
 simp only [receive_of_newer h]
 by_cases hu : ch.Upserts
 · have hst : g.apply ch = ⟨some ch.tracked,none,g.parked⟩ := by
    rcases hu with ht | ht <;> simp [apply,ht]
   have hlive : (g.apply ch).live = some ch.tracked := by rw [hst]
   simp only [receive_of_concurrent hlive (concurrent_self _)]
   rw [forall_prop_of_true hu,← conflict_self_eq_iff hlive]
   exact ⟨fun ha => ha 0 0,fun ha _ _ => ha⟩
 · refine iff_of_true (fun _ _ _ _ => ?_) fun hn => absurd hn hu
   by_cases hde : ch.changeType = .deleted
   · have hdee : g.apply ch = ⟨none,some ch.tombstone,g.parked⟩ := by simp [apply,hde]
     rw [hdee,receive_of_newer (by simp)]
     simp [apply,hde]
   · have hn : ¬ ch.HasEffect := by simp [ResourceChange.HasEffect,hu,hde]
     rw [apply_of_not_hasEffect hn,receive_of_newer h,apply_of_not_hasEffect hn]

lemma settles_of_older (hli : g.live = some r)
  (hl : ch.vectorClock.get < r.vectorClock.get) : g.Settles co cfg ch := by
 intro d m d' m'
 rw [receive_of_older hli hl,receive_of_older hli hl]

lemma receive_merged_eq_iff {mgd : TrackedResource} {m : Instant}
  (hs : cfg.conflictResolutionStrategy = .merge)
  (ho : mergeResources co cfg m r ch.tracked = .ok mgd) :
  (∀ d' m', (g.put mgd).receive co cfg ch d' m' = g.put mgd) ↔
   ch.vectorClock.happenedBefore (mergedClock cfg r ch) = true ∨
    (mergedClock cfg r ch).happenedBefore ch.vectorClock = true ∧ ¬ ch.HasEffect := by
 have hl : mergedClock cfg r ch = mgd.vectorClock := (mergeResources_ok ho).2.2.symm
 rw [hl,happenedBefore_iff,happenedBefore_iff]
 have hlive : (g.put mgd).live = some mgd := rfl
 by_cases hb : ch.vectorClock.get < mgd.vectorClock.get
 · exact iff_of_true (receive_of_older hlive hb) (.inl hb)
 by_cases hf : mgd.vectorClock.get < ch.vectorClock.get
 · simp only [receive_of_lt co cfg _ _ hlive hf,hb,hf,false_or,true_and]
   constructor
   · intro ha hef
     have hk := congrArg live (ha 0 0)
     rcases hef with (ht | ht) | ht
     · simp only [apply,ht,put,Option.some.injEq] at hk
       exact absurd hf (by rw [← hk]; exact lt_irrefl _)
     · simp only [apply,ht,put,Option.some.injEq] at hk
       exact absurd hf (by rw [← hk]; exact lt_irrefl _)
     · simp [apply,ht,put] at hk
   · intro hn _ _
     exact apply_of_not_hasEffect hn _
 · -- concurrent with the merged version too: it is merged again or parked, each with its time
   have hc : mgd.vectorClock.concurrent ch.vectorClock = true :=
    (concurrent_iff _ _).mpr ⟨hf,hb⟩
   refine iff_of_false (fun ha => ?_) (by simp [hb,hf])
   simp only [receive_of_concurrent hlive hc,conflict,hs] at ha
   by_cases hm : Mergeable co mgd.data ch.tracked.data
   · obtain ⟨again,hg⟩ := mergeResources_isOk hm cfg (m+1)
     have hp := ha 0 (m+1)
     simp only [hg] at hp
     have hsa : again = mgd := Option.some.inj (congrArg live hp)
     have hti := mergeResources_lastModified hg
     rw [hsa,mergeResources_lastModified ho] at hti
     exact absurd hti (by simp)
   · obtain ⟨e,hr⟩ := mergeResources_isError hm cfg 0
     refine not_forall_park_eq (g.put mgd) (g.put mgd) mgd ch fun d => ?_
     have hpa := ha d 0
     simpa only [hr] using hpa

variable (hli : g.live = some r)
include hli

variable (hc : r.vectorClock.concurrent ch.vectorClock = true)
include hc

/-- A conflict that is parked is found again by the second delivery, at another time. -/
lemma not_settles_of_parks (ha : ∀ (g' : Register) d, g'.conflict co cfg r ch d 0 =
      g'.park (pendingConflict r ch d)) : ¬ g.Settles co cfg ch := by
 intro h
 have hp : (g.park (pendingConflict r ch 0)).live = some r := hli
 refine not_forall_park_eq (g.park (pendingConflict r ch 0))
  (g.park (pendingConflict r ch 0)) r ch fun d => ?_
 have hg := h 0 0 d 0
 rw [receive_of_concurrent hli hc,ha,receive_of_concurrent hp hc,ha] at hg
 exact hg

/-- The merged version is stored, and the second delivery is settled by its clock. -/
lemma settles_of_merge_iff (hs : cfg.conflictResolutionStrategy = .merge) :
  g.Settles co cfg ch ↔ Mergeable co r.data ch.resourceData ∧
   (ch.vectorClock.happenedBefore (mergedClock cfg r ch) = true ∨
    (mergedClock cfg r ch).happenedBefore ch.vectorClock = true ∧ ¬ ch.HasEffect) := by
 by_cases hm : Mergeable co r.data ch.tracked.data
 · have hf := fun (m : Instant) (merged : TrackedResource) ho =>
    @receive_merged_eq_iff co cfg g r ch merged m hs ho
   constructor
   · intro ha
     obtain ⟨merged,ho⟩ := mergeResources_isOk hm cfg 0
     refine ⟨hm,(hf 0 merged ho).mp fun d' m' => ?_⟩
     have hg := ha 0 0 d' m'
     rw [receive_of_concurrent hli hc] at hg
     simpa only [conflict,hs,ho] using hg
   · rintro ⟨-,hl⟩ d m d' m'
     obtain ⟨merged,ho⟩ := mergeResources_isOk hm cfg m
     have hfi : g.conflict co cfg r ch d m = g.put merged := by
      simp only [conflict,hs,ho]
     rw [receive_of_concurrent hli hc,hfi]
     exact (hf m merged ho).mpr hl d' m'
 · refine iff_of_false (fun ha => ?_) fun h => hm h.1
   obtain ⟨e,hr⟩ := mergeResources_isError hm cfg 0
   refine not_settles_of_parks hli hc (fun g' d => ?_) ha
   simp only [conflict,hs,hr]

lemma settles_of_concurrent_iff : g.Settles co cfg ch ↔
      match cfg.conflictResolutionStrategy with
      | .lastWriterWins | .other _ => True
      | .manual => False
      | .merge => Mergeable co r.data ch.resourceData ∧
        (ch.vectorClock.happenedBefore (mergedClock cfg r ch) = true ∨
         (mergedClock cfg r ch).happenedBefore ch.vectorClock = true ∧ ¬ ch.HasEffect) := by
 cases hs : cfg.conflictResolutionStrategy with
 | lastWriterWins =>
  refine iff_of_true (fun d m d' m' => ?_) trivial
  have hf : g.conflict co cfg r ch d m =
    if r.lastModified < ch.timestamp then g.put ch.tracked else g := by
   simp only [conflict,hs]
  rw [receive_of_concurrent hli hc,hf]
  split_ifs with ht
  · have hp : (g.put ch.tracked).live = some ch.tracked := rfl
    rw [receive_of_concurrent hp (concurrent_self _)]
    exact (conflict_self_eq_iff hp).mpr (by simp [hs]) d' m'
  · rw [receive_of_concurrent hli hc]
    simp only [conflict,hs,if_neg ht]
 | merge => exact settles_of_merge_iff hli hc hs
 | manual =>
  refine iff_of_false (fun ha => ?_) not_false
  refine not_settles_of_parks hli hc (fun g' d => ?_) ha
  simp only [conflict,hs]
 | other n =>
  refine iff_of_true (fun d m d' m' => ?_) trivial
  have hsa : g.conflict co cfg r ch d m = g := by simp only [conflict,hs]
  rw [receive_of_concurrent hli hc,hsa,receive_of_concurrent hli hc]
  simp only [conflict,hs]

end Register

lemma redeliveryHarmless_iff_settles {co : Codec} {s : Server} {ch : ResourceChange} :
  RedeliveryHarmless co s ch ↔ (s.register ch.key.string).Settles co s.config ch := by
 have hr := fun (s : Server) peer d m k => register_handleResourceChange co s peer ch d m k
 constructor
 · intro h d m d' m'
   obtain ⟨hlive,ht,hp⟩ := h "" "" d m d' m' ch.key.string
   have ha : ((s.handleResourceChange co "" ch d m).1.handleResourceChange co ""
     ch d' m').1.register ch.key.string =
     (s.handleResourceChange co "" ch d m).1.register ch.key.string := by
    simp only [register,hlive,ht,hp]
   rw [hr,if_pos rfl,hr,if_pos rfl,config_handleResourceChange] at ha
   exact ha
 · intro h peer peer' d m d' m' once twice k
   have ha : twice.register k = once.register k := by
    rw [hr,config_handleResourceChange]
    split_ifs with hk
    · rw [hr,if_pos hk,hk]
      exact h d m d' m'
    · rfl
   exact ⟨congrArg live ha,congrArg tomb ha,congrArg parked ha⟩

theorem redelivery_harmless_iff (codec : Codec) (s : Server) (change : ResourceChange) :
  RedeliveryHarmless codec s change ↔ RedeliverySafe codec s change := by
 rw [redeliveryHarmless_iff_settles]
 unfold RedeliverySafe
 by_cases hp : Passes s change
 · have hn : ∀ r, s.resources.find? change.key.string = some r →
     ¬ r.vectorClock.concurrent change.vectorClock = true := fun r hr => hp.not_concurrent hr
   have hne : ∀ r, (s.register change.key.string).live = some r →
     r.vectorClock.get < change.vectorClock.get := hp
   rw [settles_of_newer_iff hne]
   cases s.config.conflictResolutionStrategy with
   | lastWriterWins | other n => simp
   | merge =>
    simp only [hp,true_implies]
    refine ⟨fun h => ⟨fun hu => (h hu).2 rfl,fun r hr hc => absurd hc (hn r hr)⟩,?_⟩
    exact fun h hu => absurd hu h.1
   | manual =>
    simp only [hp,true_implies]
    exact ⟨fun h => ⟨fun hu => (h hu).1 rfl,hn⟩,fun h hu => absurd hu h.1⟩
 · obtain ⟨r,hr,ho⟩ := not_passes_iff.mp hp
   have hlive : (s.register change.key.string).live = some r := hr
   by_cases hc : r.vectorClock.concurrent change.vectorClock = true
   · rw [settles_of_concurrent_iff hlive hc]
     cases s.config.conflictResolutionStrategy with
     | lastWriterWins | other n => simp
     | merge | manual => simp [hp,hr,hc,-concurrent_iff]
   · have hl := (happenedBefore_iff _ _).mp (ho.resolve_left hc)
     refine iff_of_true (settles_of_older hlive hl) ?_
     cases s.config.conflictResolutionStrategy with
     | lastWriterWins | other n => trivial
     | merge | manual => simp [hp,hr,hc,-concurrent_iff]

/-- A new resource that is delivered twice under the manual strategy conflicts with itself. -/
theorem redelivered_creation_is_parked :
  let s := newServer (sampleConfig "a" .manual)
  let change := sampleChange "1" (KeyedMap.set ∅ "b" 1) .created sampleKey emptyObject 5 "b"
  let once := (s.handleResourceChange emptyObjectCodec "b" change 10 11).1
  let twice := (once.handleResourceChange emptyObjectCodec "b" change 12 13).1
  once.conflicts.find? sampleKey.string = none ∧
   (twice.conflicts.find? sampleKey.string).map (fun c => (c.localVersion,c.remoteVersion)) =
    some (change.tracked,change.tracked) ∧
   ¬ RedeliveryHarmless emptyObjectCodec s change := by
 intro s change once twice
 have ho : once.conflicts.find? sampleKey.string = none := by decide
 have ht : (twice.conflicts.find? sampleKey.string).isSome = true := by decide
 refine ⟨ho,rfl,fun h => ?_⟩
 have ha : twice.conflicts.find? sampleKey.string = once.conflicts.find? sampleKey.string :=
  (h "b" "b" 10 11 12 13 sampleKey.string).2.2
 rw [ha,ho] at ht
 cases ht

end NovaEdge.Federation
