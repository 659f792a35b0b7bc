import NovaEdge.ShardedMap
import NovaEdge.DataplaneConfig

/-! The configuration store of the dataplane while a configuration is applied: `apply_full` as the
sequence of steps between which a concurrent `snapshot` can read. -/
namespace NovaEdge.Dataplane
open RuntimeConfig List Function KeyedMap


structure ConfigUpdate where
 version : String := ""
 gateways : List GatewayState := []
 routes : List RouteState := []
 clusters : List ClusterState := []
 policies : List PolicyState := []

/-- The hash of a map has a random seed, so that any spread can occur. -/
structure ShardLayout where
 shards : ℕ
 (gateways routes clusters policies : String → Fin shards)

open ShardLayout
/-- What `apply_full` does under one lock. -/
inductive StoreStep
 | gateways (e : Edit GatewayState)
 | routes (e : Edit RouteState)
 | clusters (e : Edit ClusterState)
 | policies (e : Edit PolicyState)
 | version (v : String)

def RuntimeConfig.step (L : ShardLayout) (now : Instant) (u : ConfigUpdate) (cfg : RuntimeConfig) :
  StoreStep → RuntimeConfig
 | .gateways e =>
  { cfg with gateways := cfg.gateways.edit (·.name) (fun _ g => g) (L.gateways ·) u.gateways e }
 | .routes e =>
  { cfg with routes := cfg.routes.edit (·.name) (fun _ r => r) (L.routes ·) u.routes e }
 | .clusters e =>
  { cfg with
    clusters := cfg.clusters.edit (·.name) (drainReplaced now) (L.clusters ·) u.clusters e }
 | .policies e =>
  { cfg with policies := cfg.policies.edit (·.name) (fun _ p => p) (L.policies ·) u.policies e }
 | .version v => { cfg with version := v }

/-- `retain` goes through the shards in order. -/
def ShardLayout.retains (L : ShardLayout) {ν : Type} (step : Edit ν → StoreStep) : List StoreStep :=
 ((List.range L.shards).map Edit.retain).map step

def inserts {ν : Type} (step : Edit ν → StoreStep) (l : List ν) : List StoreStep :=
 (l.map Edit.put).map step

def ShardLayout.allRetains (L : ShardLayout) : List StoreStep :=
 L.retains .gateways ++ L.retains .routes ++ L.retains .clusters ++ L.retains .policies

def ConfigUpdate.steps (L : ShardLayout) (u : ConfigUpdate) : List StoreStep :=
 L.allRetains ++ inserts .gateways u.gateways ++ inserts .routes u.routes ++
  inserts .clusters u.clusters ++ inserts .policies u.policies ++ [.version u.version]

def RuntimeConfig.during (L : ShardLayout) (now : Instant) (u : ConfigUpdate) (cfg : RuntimeConfig)
  (n : ℕ) : RuntimeConfig :=
 ((u.steps L).take n).foldl (step L now u) cfg

/-- When each shard is taken, in steps of the writer; maps and shards are read in order. -/
structure SnapshotReader where
 (gatewaysAt routesAt clustersAt policiesAt : ℕ → ℕ)
 versionAt : Option ℕ
 gateways_mono : Monotone gatewaysAt
 routes_mono : Monotone routesAt
 clusters_mono : Monotone clustersAt
 policies_mono : Monotone policiesAt
 gateways_le_routes : ∀ i j, gatewaysAt i ≤ routesAt j
 routes_le_clusters : ∀ i j, routesAt i ≤ clustersAt j
 clusters_le_policies : ∀ i j, clustersAt i ≤ policiesAt j
 policies_le_version : ∀ i, ∀ n ∈ versionAt, policiesAt i ≤ n

open SnapshotReader
/-- `snapshot`, for a reader to whom the store is `store n` after `n` steps of the writer. -/
def SnapshotReader.snapshot (rd : SnapshotReader) (L : ShardLayout) (store : ℕ → RuntimeConfig) :
  RuntimeConfig where
 gateways := KeyedMap.collect (L.gateways ·) L.shards fun i => (store (rd.gatewaysAt i)).gateways
 routes := KeyedMap.collect (L.routes ·) L.shards fun i => (store (rd.routesAt i)).routes
 clusters := KeyedMap.collect (L.clusters ·) L.shards fun i => (store (rd.clustersAt i)).clusters
 policies := KeyedMap.collect (L.policies ·) L.shards fun i => (store (rd.policiesAt i)).policies
 version := (rd.versionAt.map fun n => (store n).version).getD ""

def RouteState.clusterNames (r : RouteState) : List String :=
 r.backendRefs.map Prod.fst ++ r.mirrorCluster.toList ++ r.defaultBackend.toList

def ConfigUpdate.clusterNames (u : ConfigUpdate) : List String := u.clusters.map (·.name)

section
variable (old : RuntimeConfig) (now : Instant) (u : ConfigUpdate)

def NoClusterChange (seen : RuntimeConfig) : Prop :=
 ∀ k, seen.clusters.find? k = old.clusters.find? k

def HasOldClusters (seen : RuntimeConfig) (r : RouteState) : Prop := r ∈ old.routes.values ∧
  ∀ k ∈ r.clusterNames, (old.clusters.find? k).isSome → (seen.clusters.find? k).isSome

def HasNewClusters (seen : RuntimeConfig) (r : RouteState) : Prop :=
 r ∈ u.routes ∧ ∀ k ∈ r.clusterNames, k ∈ u.clusterNames → (seen.clusters.find? k).isSome

structure SeesConfig (seen : RuntimeConfig) : Prop where
 gateways : seen.gateways.values ≠ []
 routes : ∀ r ∈ seen.routes.values,
  NoClusterChange old seen ∨ HasOldClusters old seen r ∨ HasNewClusters u seen r
 clusters : ∀ k c, seen.clusters.find? k = some c → old.clusters.find? k = some c ∨
  ∃ c' ∈ u.clusters, c'.name = k ∧ ∃ existing, c = drainReplaced now existing c'

def KeepsClusters (r : RouteState) : Prop :=
 ∀ k ∈ r.clusterNames, (old.clusters.find? k).isSome → k ∈ u.clusterNames

def HasClusters (r : RouteState) : Prop :=
 ∀ k ∈ r.clusterNames, k ∈ u.clusterNames → (old.clusters.find? k).isSome

def OneClusterChanges : Prop := (∀ k, (old.clusters.find? k).isSome → k ∈ u.clusterNames) ∧
  ∃ k, ∀ c ∈ u.clusters, c.name ≠ k →
   old.clusters.find? c.name = some (drainReplaced now (old.clusters.find? c.name) c)

structure ReplacesSafely : Prop where
 gateways : ∃ gw ∈ u.gateways, (old.gateways.find? gw.name).isSome
 oldRoutes : ∀ r ∈ old.routes.values,
  KeepsClusters old u r ∨ (r ∈ u.routes ∧ HasClusters old u r)
 newRoutes : ∀ r ∈ u.routes, r ∉ old.routes.values →
  HasClusters old u r ∨ OneClusterChanges old now u

end

def StoreStep.gatewayEdit : StoreStep → Option (Edit GatewayState)
 | .gateways e => some e
 | _ => none

def StoreStep.routeEdit : StoreStep → Option (Edit RouteState)
 | .routes e => some e
 | _ => none

def StoreStep.clusterEdit : StoreStep → Option (Edit ClusterState)
 | .clusters e => some e
 | _ => none

def StoreStep.policyEdit : StoreStep → Option (Edit PolicyState)
 | .policies e => some e
 | _ => none

open StoreStep (gatewayEdit routeEdit clusterEdit policyEdit)

attribute [local simp] ShardLayout.retains ShardLayout.allRetains filterMap_map ConfigUpdate.steps
 comp_def filterMap_cons inserts

section
variable {L : ShardLayout} {old : RuntimeConfig} {now : Instant} {u : ConfigUpdate}

variable (sts : List StoreStep)

lemma gateways_foldl_step : (sts.foldl (step L now u) old).gateways =
      (sts.filterMap gatewayEdit).foldl
       (edit (·.name) (fun _ g => g) (L.gateways ·) u.gateways) old.gateways := by
 rw [foldl_filterMap]
 exact (foldl_hom gateways fun cfg s => by cases s <;> rfl).symm

lemma routes_foldl_step : (sts.foldl (step L now u) old).routes =
      (sts.filterMap routeEdit).foldl
       (edit (·.name) (fun _ r => r) (L.routes ·) u.routes) old.routes := by
 rw [foldl_filterMap]
 exact (foldl_hom routes fun cfg s => by cases s <;> rfl).symm

lemma clusters_foldl_step : (sts.foldl (step L now u) old).clusters =
      (sts.filterMap clusterEdit).foldl
       (edit (·.name) (drainReplaced now) (L.clusters ·) u.clusters) old.clusters := by
 rw [foldl_filterMap]
 exact (foldl_hom clusters fun cfg s => by cases s <;> rfl).symm

lemma policies_foldl_step : (sts.foldl (step L now u) old).policies =
      (sts.filterMap policyEdit).foldl
       (edit (·.name) (fun _ p => p) (L.policies ·) u.policies) old.policies := by
 rw [foldl_filterMap]
 exact (foldl_hom policies fun cfg s => by cases s <;> rfl).symm

/-- All steps together store what `applyFull` gives. -/
theorem during_steps (k : String) :
  let new := old.applyFull now u.version u.gateways u.routes u.clusters u.policies
  let reached := old.during L now u (u.steps L).length
  reached.gateways.find? k = new.gateways.find? k ∧ reached.routes.find? k = new.routes.find? k ∧
   reached.clusters.find? k = new.clusters.find? k ∧
   reached.policies.find? k = new.policies.find? k ∧ reached.version = new.version := by
 simp only [during,take_length]
 refine ⟨?_,?_,?_,?_,?_⟩
 · rw [gateways_foldl_step,applyFull,← find?_replace_edits fun k => (L.gateways k).isLt]
   simp [gatewayEdit]
 · rw [routes_foldl_step,applyFull,← find?_replace_edits fun k => (L.routes k).isLt]
   simp [routeEdit]
 · rw [clusters_foldl_step,applyFull,← find?_replace_edits fun k => (L.clusters k).isLt]
   simp [clusterEdit]
 · rw [policies_foldl_step,applyFull,← find?_replace_edits fun k => (L.policies k).isLt]
   simp [policyEdit]
 · rw [ConfigUpdate.steps,foldl_append]
   rfl

def StoreStep.Of (u : ConfigUpdate) : StoreStep → Prop
 | .gateways e => e.Of u.gateways
 | .routes e => e.Of u.routes
 | .clusters e => e.Of u.clusters
 | .policies e => e.Of u.policies
 | .version v => v = u.version

variable {ν : Type}

lemma retains_of {step : Edit ν → StoreStep} (h : ∀ i, (step (.retain i)).Of u) :
  ∀ s ∈ L.retains step, s.Of u := by
 intro s hs
 simp only [retains,mem_map] at hs
 obtain ⟨e,⟨i,-,rfl⟩,rfl⟩ := hs
 exact h i

lemma inserts_of {step : Edit ν → StoreStep} {l : List ν} (h : ∀ v ∈ l, (step (.put v)).Of u) :
  ∀ s ∈ inserts step l, s.Of u := by
 intro s hs
 simp only [inserts,mem_map] at hs
 obtain ⟨e,⟨v,hv,rfl⟩,rfl⟩ := hs
 exact h v hv

lemma steps_of : ∀ s ∈ u.steps L, s.Of u := by
 intro s hs
 simp only [ConfigUpdate.steps,allRetains,mem_append,mem_singleton] at hs
 rcases hs with ((((((((hs | hs) | hs) | hs) | hs) | hs) | hs) | hs) | rfl)
 · exact retains_of (by exact fun _ => trivial) s hs
 · exact retains_of (by exact fun _ => trivial) s hs
 · exact retains_of (by exact fun _ => trivial) s hs
 · exact retains_of (by exact fun _ => trivial) s hs
 · exact inserts_of (fun _ hv => hv) s hs
 · exact inserts_of (fun _ hv => hv) s hs
 · exact inserts_of (fun _ hv => hv) s hs
 · exact inserts_of (fun _ hv => hv) s hs
 · exact rfl

lemma clusterEdits_of {n : ℕ} :
  ∀ e ∈ ((u.steps L).take n).filterMap clusterEdit, e.Of u.clusters := by
 intro e he
 obtain ⟨s,hs,hse⟩ := mem_filterMap.mp he
 have ho := steps_of s (mem_of_mem_take hs)
 cases s with
 | clusters e' =>
  obtain rfl : e' = e := Option.some.inj hse
  exact ho
 | gateways | routes | policies | version => cases hse

lemma routeEdits_of {n : ℕ} :
  ∀ e ∈ ((u.steps L).take n).filterMap routeEdit, e.Of u.routes := by
 intro e he
 obtain ⟨s,hs,hse⟩ := mem_filterMap.mp he
 have ho := steps_of s (mem_of_mem_take hs)
 cases s with
 | routes e' =>
  obtain rfl : e' = e := Option.some.inj hse
  exact ho
 | gateways | clusters | policies | version => cases hse

variable (rd : SnapshotReader)

def SnapshotReader.seen (rd : SnapshotReader) (L : ShardLayout) (now : Instant) (u : ConfigUpdate)
  (old : RuntimeConfig) : RuntimeConfig :=
 rd.snapshot L (old.during L now u)

variable (k : String)

lemma gateways_seen : (rd.seen L now u old).gateways.find? k =
  (old.during L now u (rd.gatewaysAt (L.gateways k))).gateways.find? k :=
 find?_collect _ (L.gateways k).isLt

lemma routes_seen : (rd.seen L now u old).routes.find? k =
  (old.during L now u (rd.routesAt (L.routes k))).routes.find? k :=
 find?_collect _ (L.routes k).isLt

lemma clusters_seen : (rd.seen L now u old).clusters.find? k =
  (old.during L now u (rd.clustersAt (L.clusters k))).clusters.find? k :=
 find?_collect _ (L.clusters k).isLt

lemma isSome_gateways_seen {gw : GatewayState} (hg : gw ∈ u.gateways)
  (ho : (old.gateways.find? gw.name).isSome) :
  ((rd.seen L now u old).gateways.find? gw.name).isSome := by
 rw [gateways_seen,during,gateways_foldl_step]
 exact isSome_find?_edits (mem_map_of_mem hg) ho

lemma isSome_clusters_seen {k : String} (hk : k ∈ u.clusterNames)
  (ho : (old.clusters.find? k).isSome) : ((rd.seen L now u old).clusters.find? k).isSome := by
 rw [clusters_seen,during,clusters_foldl_step]
 exact isSome_find?_edits hk ho

lemma clusters_seen_eq_some {k : String} {c : ClusterState}
  (h : (rd.seen L now u old).clusters.find? k = some c) : old.clusters.find? k = some c ∨
   ∃ c' ∈ u.clusters, c'.name = k ∧ ∃ existing, c = drainReplaced now existing c' := by
 rw [clusters_seen,during,clusters_foldl_step] at h
 exact find?_edits_eq_some clusterEdits_of h

lemma clusters_seen_of_confirmed {k : String}
  (ht : (old.clusters.find? k).isSome → k ∈ u.clusterNames) (hc : ∀ c ∈ u.clusters, c.name = k →
   old.clusters.find? k = some (drainReplaced now (old.clusters.find? k) c)) :
  (rd.seen L now u old).clusters.find? k = old.clusters.find? k := by
 rw [clusters_seen,during,clusters_foldl_step]
 exact find?_edits_of_confirmed clusterEdits_of ht hc

variable {r : RouteState}

lemma mem_routes_seen (h : r ∈ (rd.seen L now u old).routes.values) :
  r ∈ old.routes.values ∨ r ∈ u.routes := by
 obtain ⟨k,hk⟩ := mem_values_iff.mp h
 rw [routes_seen,during,routes_foldl_step] at hk
 rcases find?_edits_eq_some routeEdits_of hk with ho | ⟨w,hw,-,-,hr⟩
 · exact .inl (mem_values_iff.mpr ⟨k,ho⟩)
 · exact .inr (hr ▸ hw)

lemma hasOldClusters_seen (hr : r ∈ old.routes.values) (hke : KeepsClusters old u r) :
  HasOldClusters old (rd.seen L now u old) r :=
 ⟨hr,fun k hk ho => isSome_clusters_seen rd (hke k hk ho) ho⟩

lemma hasNewClusters_seen (hr : r ∈ u.routes) (hh : HasClusters old u r) :
  HasNewClusters u (rd.seen L now u old) r :=
 ⟨hr,fun k hk hn => isSome_clusters_seen rd hn (hh k hk hn)⟩

lemma one_change_seen (hr : r ∈ u.routes) (hon : OneClusterChanges old now u) :
  NoClusterChange old (rd.seen L now u old) ∨ HasNewClusters u (rd.seen L now u old) r := by
 obtain ⟨ht,k,ho⟩ := hon
 have ha : ∀ k', k' ≠ k → (rd.seen L now u old).clusters.find? k' = old.clusters.find? k' := by
  intro k' hne
  refine clusters_seen_of_confirmed rd (ht k') fun c hc hna => ?_
  rw [← hna]
  exact ho c hc (hna ▸ hne)
 by_cases hk : (rd.seen L now u old).clusters.find? k = old.clusters.find? k
 · left
   intro k'
   by_cases hne : k' = k
   · rw [hne,hk]
   · exact ha k' hne
 · right
   refine ⟨hr,fun k' _ hn => ?_⟩
   by_cases hne : k' = k
   · subst hne
     -- the entry differs from the old one and the old one does not disappear
     cases hl : old.clusters.find? k' with
     | none =>
      rw [hl] at hk
      exact isSome_iff_ne_none.mpr hk
     | some c => exact isSome_clusters_seen rd hn (by rw [hl]; rfl)
   · obtain ⟨c,hc,rfl⟩ := mem_map.mp hn
     rw [ha _ hne,ho c hc hne]
     rfl

lemma ReplacesSafely.seesConfig (h : ReplacesSafely old now u) :
  SeesConfig old now u (rd.seen L now u old) where
 gateways := by
  obtain ⟨gw,hg,ho⟩ := h.gateways
  obtain ⟨v,hv⟩ := isSome_iff_exists.mp (isSome_gateways_seen rd hg ho)
  exact ne_nil_of_mem (mem_values_iff.mpr ⟨_,hv⟩)
 routes := by
  intro r hr
  by_cases ho : r ∈ old.routes.values
  · rcases h.oldRoutes r ho with hk | ⟨hn,hh⟩
    · exact .inr (.inl (hasOldClusters_seen rd ho hk))
    · exact .inr (.inr (hasNewClusters_seen rd hn hh))
  · have hn : r ∈ u.routes := (mem_routes_seen rd hr).resolve_left ho
    rcases h.newRoutes r hn ho with hh | hon
    · exact .inr (.inr (hasNewClusters_seen rd hn hh))
    · exact (one_change_seen rd hn hon).imp_right .inr
 clusters := fun k c hc => clusters_seen_eq_some rd hc

lemma during_of_isPrefix {sts : List StoreStep} (h : sts <+: u.steps L) :
  old.during L now u sts.length = sts.foldl (step L now u) old := by
 rw [during,← prefix_iff_eq_take.mp h]

def ConfigUpdate.stepsTo (L : ShardLayout) (u : ConfigUpdate) (routes : List RouteState)
  (clusters : List ClusterState) : List StoreStep :=
 L.allRetains ++ inserts .gateways u.gateways ++ inserts .routes routes ++
  inserts .clusters clusters

lemma inserts_isPrefix (step : Edit ν → StoreStep) {l l' : List ν} (h : l <+: l') :
  inserts step l <+: inserts step l' :=
 (h.map _).map _

lemma stepsTo_routes_isPrefix {rts : List RouteState} (h : rts <+: u.routes) :
  u.stepsTo L rts [] <+: u.steps L := by
 have hr := (prefix_append_right_inj (L.allRetains ++ inserts .gateways u.gateways)).mpr
  (inserts_isPrefix .routes h)
 simp only [ConfigUpdate.stepsTo,ConfigUpdate.steps,append_assoc,inserts,map_nil,append_nil] at hr ⊢
 exact hr.trans (by simp)

lemma stepsTo_clusters_isPrefix {cls : List ClusterState} (h : cls <+: u.clusters) :
  u.stepsTo L u.routes cls <+: u.steps L := by
 have hr := (prefix_append_right_inj
  (L.allRetains ++ inserts .gateways u.gateways ++ inserts .routes u.routes)).mpr
  (inserts_isPrefix .clusters h)
 simp only [ConfigUpdate.stepsTo,ConfigUpdate.steps,append_assoc] at hr ⊢
 exact hr.trans (by simp)

lemma filterMap_routeEdit_stepsTo (rts : List RouteState) (cls : List ClusterState) :
  (u.stepsTo L rts cls).filterMap routeEdit =
   (List.range L.shards).map Edit.retain ++ rts.map Edit.put := by
 simp [ConfigUpdate.stepsTo,routeEdit]

lemma filterMap_clusterEdit_stepsTo (rts : List RouteState) (cls : List ClusterState) :
  (u.stepsTo L rts cls).filterMap clusterEdit =
   (List.range L.shards).map Edit.retain ++ cls.map Edit.put := by
 simp [ConfigUpdate.stepsTo,clusterEdit]

lemma find?_foldl_retain_clusters : (((List.range L.shards).map Edit.retain).foldl
      (edit (·.name) (drainReplaced now) (L.clusters ·) u.clusters) old.clusters).find? k =
      if k ∈ u.clusterNames then old.clusters.find? k else none := by
 rw [find?_foldl_retain]
 by_cases hk : k ∈ u.clusterNames
 · rw [if_pos hk,if_neg fun h => h.2 hk]
 · rw [if_neg hk,if_pos ⟨(L.clusters k).isLt,hk⟩]

lemma clusters_during_routes {rts : List RouteState} (h : rts <+: u.routes) (k : String) :
  (old.during L now u (u.stepsTo L rts []).length).clusters.find? k =
   if k ∈ u.clusterNames then old.clusters.find? k else none := by
 rw [during_of_isPrefix (stepsTo_routes_isPrefix h),clusters_foldl_step,
  filterMap_clusterEdit_stepsTo,map_nil,append_nil,find?_foldl_retain_clusters]

lemma clusters_during_insert {pre : List ClusterState} {c : ClusterState}
  (h : pre ++ [c] <+: u.clusters) :
  (old.during L now u (u.stepsTo L u.routes (pre ++ [c])).length).clusters.find? c.name =
   some (drainReplaced now ((old.during L now u
    (u.stepsTo L u.routes pre).length).clusters.find? c.name) c) := by
 have hb : pre <+: u.clusters := (prefix_append pre [c]).trans h
 rw [during_of_isPrefix (stepsTo_clusters_isPrefix h),
  during_of_isPrefix (stepsTo_clusters_isPrefix hb),clusters_foldl_step,clusters_foldl_step,
  filterMap_clusterEdit_stepsTo,filterMap_clusterEdit_stepsTo,map_append,
  ← append_assoc,foldl_append,map_cons,map_nil,foldl_cons,
  foldl_nil,edit,upsert,find?_set_self]

lemma routes_during_insert {pre : List RouteState} (h : pre ++ [r] <+: u.routes) :
  (old.during L now u (u.stepsTo L (pre ++ [r]) []).length).routes.find? r.name = some r := by
 rw [during_of_isPrefix (stepsTo_routes_isPrefix h),routes_foldl_step,filterMap_routeEdit_stepsTo,
  map_append,← append_assoc,foldl_append,map_cons,map_nil,
  foldl_cons,foldl_nil,edit,upsert,find?_set_self]

lemma gateways_during_retain : (old.during L now u L.shards).gateways.find? k =
      if k ∈ u.gateways.map (·.name) then old.gateways.find? k else none := by
 have hp : L.retains .gateways <+: u.steps L := by simp [append_assoc]
 have hl : (L.retains .gateways).length = L.shards := by simp
 have hed : (L.retains .gateways).filterMap gatewayEdit =
   (List.range L.shards).map Edit.retain := by
  simp [gatewayEdit]
 rw [← hl,during_of_isPrefix hp,gateways_foldl_step,hed,find?_foldl_retain]
 by_cases hk : k ∈ u.gateways.map (·.name)
 · rw [if_pos hk,if_neg fun h => h.2 hk]
 · rw [if_neg hk,if_pos ⟨(L.gateways k).isLt,hk⟩]

def ShardLayout.split (k : String) : ShardLayout where
 shards := 2
 gateways := fun _ => ⟨0,Nat.two_pos⟩
 routes := fun _ => ⟨0,Nat.two_pos⟩
 clusters := fun k' => if k' = k then ⟨0,Nat.two_pos⟩ else ⟨1,Nat.one_lt_two⟩
 policies := fun _ => ⟨0,Nat.two_pos⟩

def SnapshotReader.staged (g r c d : ℕ) (hgr : g ≤ r) (hrc : r ≤ c) (hcd : c ≤ d) :
  SnapshotReader where
 gatewaysAt := fun _ => g
 routesAt := fun _ => r
 clustersAt := fun i => if i = 0 then c else d
 policiesAt := fun _ => d
 versionAt := some d
 gateways_mono := monotone_const
 routes_mono := monotone_const
 clusters_mono := by
  intro i j hij
  dsimp only
  split_ifs <;> omega
 policies_mono := monotone_const
 gateways_le_routes := fun _ _ => hgr
 routes_le_clusters := by
  intro _ j
  split_ifs <;> omega
 clusters_le_policies := by
  intro i _
  split_ifs <;> omega
 policies_le_version := by
  intro _ n hn
  exact le_of_eq (Option.some.inj hn)

section
variable (hse : ∀ (L : ShardLayout) (rd : SnapshotReader),
 SeesConfig old now u (rd.seen L now u old))
include hse

lemma gateway_stays : ∃ gw ∈ u.gateways, (old.gateways.find? gw.name).isSome := by
 let L := split ""
 let rd := staged L.shards L.shards L.shards L.shards le_rfl le_rfl le_rfl
 obtain ⟨gw,hg⟩ := exists_mem_of_ne_nil _ (hse L rd).gateways
 obtain ⟨k,hk⟩ := mem_values_iff.mp hg
 rw [gateways_seen] at hk
 change (old.during L now u L.shards).gateways.find? k = some gw at hk
 rw [gateways_during_retain] at hk
 split_ifs at hk with hm
 obtain ⟨gw',hg',rfl⟩ := mem_map.mp hm
 exact ⟨gw',hg',isSome_of_eq_some hk⟩

variable {r : RouteState}

lemma old_route_clusters (hr : r ∈ old.routes.values) :
  KeepsClusters old u r ∨ (r ∈ u.routes ∧ HasClusters old u r) := by
 let L := split ""
 let rd := staged 0 0 (u.stepsTo L [] []).length (u.stepsTo L [] []).length le_rfl
  (Nat.zero_le _) le_rfl
 have hc : ∀ k, (rd.seen L now u old).clusters.find? k =
   if k ∈ u.clusterNames then old.clusters.find? k else none := by
  intro k
  rw [clusters_seen,← @clusters_during_routes L old now u [] nil_prefix]
  simp [rd,staged]
 have hsn : r ∈ (rd.seen L now u old).routes.values := by
  obtain ⟨k,hk⟩ := mem_values_iff.mp hr
  refine mem_values_iff.mpr ⟨k,?_⟩
  rw [routes_seen]
  exact hk
 have ht : ∀ k, ((rd.seen L now u old).clusters.find? k).isSome →
   k ∈ u.clusterNames ∧ (old.clusters.find? k).isSome := by
  intro k hk
  rw [hc] at hk
  split_ifs at hk with hm
  · exact ⟨hm,hk⟩
  · cases hk
 rcases (hse L rd).routes r hsn with hno | ⟨-,ho⟩ | ⟨hn,hh⟩
 · exact .inl fun k _ hk => (ht k (by rwa [hno k])).1
 · exact .inl fun k hm hk => (ht k (ho k hm hk)).1
 · exact .inr ⟨hn,fun k hm hk => (ht k (hh k hm hk)).2⟩

/-- A reader of a new route that missed a cluster of it must find the other clusters as they were.
-/
lemma other_clusters_unchanged (ho : r ∉ old.routes.values) {pre : List RouteState}
  (hr : pre ++ [r] <+: u.routes) {k : String} (hk : k ∈ r.clusterNames)
  (hn : k ∈ u.clusterNames) (hm : ¬ (old.clusters.find? k).isSome)
  (cls : List ClusterState) {k' : String} (hne : k' ≠ k) : (old.during (split k) now u
   (u.stepsTo (split k) u.routes cls).length).clusters.find? k' =
   old.clusters.find? k' := by
 let L := split k
 have hl : (u.stepsTo L (pre ++ [r]) []).length ≤ (u.stepsTo L u.routes cls).length := by
  have := hr.length_le
  simp only [ConfigUpdate.stepsTo,inserts,length_append,length_map,length_nil] at this ⊢
  omega
 let rd := staged _ _ _ _ le_rfl le_rfl hl
 have hsn : r ∈ (rd.seen L now u old).routes.values := by
  refine mem_values_iff.mpr ⟨r.name,?_⟩
  rw [routes_seen]
  exact routes_during_insert hr
 rcases (hse L rd).routes r hsn with hno | ⟨hme,-⟩ | ⟨-,ht⟩
 · rw [← hno k',clusters_seen]
   simp [rd,staged,L,split,hne]
 · exact absurd hme ho
 · have ht := ht k hk hn
   rw [clusters_seen] at ht
   simp only [rd,staged,L,split,if_true] at ht
   rw [clusters_during_routes hr,if_pos hn] at ht
   exact absurd ht hm

/-- Read right after its insertion, while the map of clusters is still without one of its
clusters. -/
lemma new_route_clusters (hr : r ∈ u.routes) (ho : r ∉ old.routes.values) :
  HasClusters old u r ∨ OneClusterChanges old now u := by
 by_cases hh : HasClusters old u r
 · exact .inl hh
 right
 obtain ⟨k,hk,hn,hm⟩ : ∃ k ∈ r.clusterNames, k ∈ u.clusterNames ∧
   ¬ (old.clusters.find? k).isSome := by
  simpa [HasClusters] using hh
 obtain ⟨pre,post,hp⟩ := append_of_mem hr
 have hro : pre ++ [r] <+: u.routes := ⟨post,by simp [hp]⟩
 have ha := other_clusters_unchanged hse ho hro hk hn hm
 refine ⟨fun k' hk' => ?_,k,fun c hc hne => ?_⟩
 · by_cases hne : k' = k
   · rw [hne]
     exact hn
   · have ht := ha [] hne
     rw [clusters_during_routes prefix_rfl] at ht
     by_contra hme
     rw [if_neg hme] at ht
     rw [← ht] at hk'
     cases hk'
 · obtain ⟨front,back,hp⟩ := append_of_mem hc
   have hf : front ++ [c] <+: u.clusters := ⟨back,by simp [hp]⟩
   have hin := @clusters_during_insert (split k) old now u front c hf
   rw [ha _ hne,ha _ hne] at hin
   exact hin

end

end

/-- Some gateway name stays, and every route finds its clusters among the old ones or waits for one.
-/
theorem readers_see_config_iff (old : RuntimeConfig) (now : Instant) (u : ConfigUpdate) :
  (∀ (L : ShardLayout) (rd : SnapshotReader),
    SeesConfig old now u (rd.snapshot L (old.during L now u))) ↔ ReplacesSafely old now u := by
 constructor
 · intro hsees
   exact ⟨gateway_stays hsees,fun _ => old_route_clusters hsees, fun _ => new_route_clusters hsees⟩
 · intro hf L rd
   exact hf.seesConfig rd

def singleRoute (gateway cluster : String) : ConfigUpdate where
 gateways := [gatewayFromProto { name := gateway, port := 80, protocol := .http }]
 routes := [routeFromProto { name := "api", gatewayRef := gateway
                             backendRefs := [{ clusterName := cluster, weight := 1 }] }]
 clusters := [clusterFromProto { name := cluster }]

/-- A reader sees no gateway, or a route to the old cluster and no cluster at all. -/
theorem renamed_gateway_leaves_none :
  let old : RuntimeConfig :=
   { gateways := replaceAll (·.name) (fun _ g => g) ∅ (singleRoute "web" "a").gateways
     routes := replaceAll (·.name) (fun _ r => r) ∅ (singleRoute "web" "a").routes
     clusters := replaceAll (·.name) (drainReplaced 0) ∅ (singleRoute "web" "a").clusters }
  let L := split "a"
  let early := staged 2 2 2 2 le_rfl le_rfl le_rfl
  let late := staged 0 0 8 8 le_rfl (by decide) le_rfl
  let seen := late.snapshot L (old.during L 0 (singleRoute "web" "b"))
  (early.snapshot L (old.during L 0 (singleRoute "edge" "a"))).gateways.values.length = 0 ∧
   seen.routes.values.map RouteState.clusterNames = [["a"]] ∧ seen.clusters.keys = [] := by
 decide

end NovaEdge.Dataplane
