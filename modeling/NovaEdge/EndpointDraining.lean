import NovaEdge.DataplaneConfig
import NovaEdge.KeyedMapPatch

/-! Endpoints that a configuration drops stay in their cluster and drain. -/
namespace NovaEdge.Dataplane
open List EndpointState

def EndpointState.addressPort (e : EndpointState) : String × UInt32 := (e.address,e.port)

def cleanupCluster (now : Instant) (c : ClusterState) : ClusterState :=
 { c with endpoints := c.endpoints.filter fun e => !e.draining || stillDraining now e }

def RuntimeConfig.cleanupDrainingEndpoints (cfg : RuntimeConfig) (now : Instant) : RuntimeConfig :=
 { cfg with
   clusters := KeyedMap.putWhere (fun _ => true) (cleanupCluster now) cfg.clusters cfg.clusters }

lemma sameAddress_iff {e e' : EndpointState} :
  sameAddress e e' = true ↔ e'.addressPort = e.addressPort := by
 rw [eq_comm (a := e'.addressPort)]
 simp [sameAddress,addressPort]

lemma carryDraining_cons (now : Instant) (eps rest : List EndpointState) (e : EndpointState) :
  carryDraining now eps (e::rest) = carryDraining now
   (if stillDraining now e = true ∧ e.addressPort ∉ eps.map addressPort
    then eps ++ [e] else eps) rest := by
 have ha : eps.any (sameAddress e) = true ↔ e.addressPort ∈ eps.map addressPort := by
  simp only [any_eq_true,mem_map,sameAddress_iff]
 simp only [carryDraining,foldl_cons,Bool.and_eq_true,Bool.not_eq_true',← ha,Bool.not_eq_true]

/-- The carried endpoints come last; each still drains, and has an address that was not there. -/
lemma carryDraining_spec (now : Instant) (eps old : List EndpointState) :
  ∃ ex, carryDraining now eps old = eps ++ ex ∧ (∀ e ∈ ex, e ∈ old ∧ stillDraining now e = true) ∧
   ((eps.map addressPort).Nodup → ((eps ++ ex).map addressPort).Nodup) ∧
   ∀ e ∈ old, stillDraining now e = true →
    e.addressPort ∈ (eps ++ ex).map addressPort := by
 induction old generalizing eps with
 | nil => exact ⟨[],by simp [carryDraining],by simp,by simp,by simp⟩
 | cons e rest ih =>
  rw [carryDraining_cons]
  split_ifs with hc
  · obtain ⟨ex,hq,hex,hn,hk⟩ := ih (eps ++ [e])
    rw [append_assoc,singleton_append] at hq hn hk
    refine ⟨e::ex,hq,?_,fun hp => hn ?_,?_⟩
    · refine forall_mem_cons.mpr ⟨⟨mem_cons_self,hc.1⟩,fun x hx => ?_⟩
      exact ⟨mem_cons_of_mem _ (hex x hx).1,(hex x hx).2⟩
    · rw [map_append,nodup_append']
      exact ⟨hp,by simp,by simpa using hc.2⟩
    · exact forall_mem_cons.mpr ⟨fun _ => by simp,hk⟩
  · obtain ⟨ex,hq,hex,hn,hk⟩ := ih eps
    refine ⟨ex,hq,fun x hx => ⟨mem_cons_of_mem _ (hex x hx).1,(hex x hx).2⟩,
     hn,forall_mem_cons.mpr ⟨fun hr => ?_,hk⟩⟩
    rw [map_append,mem_append]
    exact .inl (by simpa [hr] using hc)

variable {d : EndpointState}

lemma mem_startDraining_iff {now : Instant} {old new : List EndpointState} :
  d ∈ startDraining now old new ↔ ∃ e ∈ old, e.addressPort ∉ new.map addressPort ∧
   e.draining = false ∧
   d = { e with draining := true, drainStart := some now, healthy := false } := by
 simp only [startDraining,mem_map,mem_filter,Bool.and_eq_true,Bool.not_eq_true',
  any_eq_false,sameAddress_iff,not_exists,not_and,and_assoc,eq_comm (a := d)]

lemma nodup_startDraining (now : Instant) {old new : List EndpointState}
  (ho : (old.map addressPort).Nodup) :
  ((startDraining now old new).map addressPort).Nodup := by
 rw [startDraining,map_map]
 exact (filter_sublist.map addressPort).nodup ho

structure Drained (configured stored : List EndpointState) : Prop where
 nodup : (stored.map EndpointState.addressPort).Nodup
 configured : (stored.filter fun e => !e.draining) = configured
 unhealthy : ∀ e ∈ stored, e.draining = true → e.healthy = false

section
variable {now : Instant} {con : List EndpointState} {old c : ClusterState}

lemma drainReplaced_eq (now : Instant) (old c : ClusterState) : ∃ ex,
  (drainReplaced now (some old) c).endpoints =
    c.endpoints ++ startDraining now old.endpoints c.endpoints ++ ex ∧
   (∀ e ∈ ex, e ∈ old.endpoints ∧ stillDraining now e = true) ∧
   ((old.endpoints.map addressPort).Nodup →
    (c.endpoints.map addressPort).Nodup →
    ((drainReplaced now (some old) c).endpoints.map addressPort).Nodup) ∧
   ∀ e ∈ old.endpoints, stillDraining now e = true →
    e.addressPort ∈ (drainReplaced now (some old) c).endpoints.map addressPort := by
 obtain ⟨ex,hq,hx,hno,hk⟩ := carryDraining_spec now
  (c.endpoints ++ startDraining now old.endpoints c.endpoints) old.endpoints
 have hen : (drainReplaced now (some old) c).endpoints = _ := hq
 rw [hen]
 refine ⟨ex,rfl,hx,fun ho hn => hno ?_,hk⟩
 rw [map_append,nodup_append']
 refine ⟨hn,nodup_startDraining now ho,fun adr hm hm' => ?_⟩
 obtain ⟨d,hd,rfl⟩ := mem_map.mp hm'
 obtain ⟨e,-,hg,-,rfl⟩ := mem_startDraining_iff.mp hd
 exact hg hm

lemma exists_drainReplaced (now : Instant) (old : Option ClusterState) (c : ClusterState) :
  ∃ ex, (drainReplaced now old c).endpoints = c.endpoints ++ ex ∧ ∀ e ∈ ex, e.draining = true := by
 cases old with
 | none => exact ⟨[],by simp [drainReplaced],by simp⟩
 | some old =>
  obtain ⟨ex,hq,hx,-⟩ := drainReplaced_eq now old c
  refine ⟨startDraining now old.endpoints c.endpoints ++ ex,?_,fun e he => ?_⟩
  · rw [hq,append_assoc]
  · rcases mem_append.mp he with he | he
    · obtain ⟨_,-,-,-,rfl⟩ := mem_startDraining_iff.mp he
      rfl
    · exact (Bool.and_eq_true_iff.mp (hx e he).2).1

variable (h : Drained con old.endpoints)
include h

/-- A call with distinct endpoints that are not draining. -/
lemma Drained.replace (hn : (c.endpoints.map addressPort).Nodup)
  (hf : ∀ e ∈ c.endpoints, e.draining = false) :
  Drained c.endpoints (drainReplaced now (some old) c).endpoints := by
 obtain ⟨ex,hq,hx,hdi,-⟩ := drainReplaced_eq now old c
 refine ⟨hdi h.nodup hn,?_,?_⟩
 · obtain ⟨added,ha,hda⟩ := exists_drainReplaced now (some old) c
   rw [ha,filter_append,filter_eq_self.mpr,filter_eq_nil_iff.mpr,append_nil]
   · exact fun e he => by simp [hda e he]
   · exact fun e he => by simp [hf e he]
 · intro d hd hr
   rw [hq,mem_append,mem_append] at hd
   rcases hd with (hd | hd) | hd
   · simp [hf d hd] at hr
   · obtain ⟨e,-,-,-,rfl⟩ := mem_startDraining_iff.mp hd
     rfl
   · exact h.unhealthy d (hx d hd).1 hr

lemma Drained.mem_replace_of_dropped {e : EndpointState} (he : e ∈ con)
  (hg : e.addressPort ∉ c.endpoints.map addressPort) :
  { e with draining := true, drainStart := some now, healthy := false } ∈
    (drainReplaced now (some old) c).endpoints := by
 obtain ⟨ex,hq,-⟩ := drainReplaced_eq now old c
 rw [← h.configured,mem_filter] at he
 rw [hq,mem_append,mem_append]
 exact .inl (.inr (mem_startDraining_iff.mpr ⟨e,he.1,hg,by simpa using he.2,rfl⟩))

/-- What drains already has its address for itself, so it is carried on as it is. -/
lemma Drained.mem_replace_of_draining (hd : d ∈ old.endpoints) (hr : stillDraining now d = true)
  (hg : d.addressPort ∉ c.endpoints.map addressPort) :
  d ∈ (drainReplaced now (some old) c).endpoints := by
 obtain ⟨ex,hq,hex,-,hk⟩ := drainReplaced_eq now old c
 obtain ⟨x,hx,ha⟩ := mem_map.mp (hk d hd hr)
 suffices hxd : x = d by rwa [hxd] at hx
 have hsa : ∀ y ∈ old.endpoints, y.addressPort = d.addressPort → y = d :=
  fun y hy => inj_on_of_nodup_map h.nodup hy hd
 rw [hq,mem_append,mem_append] at hx
 rcases hx with (hx | hx) | hx
 · exact absurd (ha ▸ mem_map_of_mem hx) hg
 · obtain ⟨e,he,-,hl,rfl⟩ := mem_startDraining_iff.mp hx
   rw [hsa e he ha] at hl
   simp [stillDraining,hl] at hr
 · exact hsa x (hex x hx).1 ha

lemma Drained.cleanup : Drained con (cleanupCluster now old).endpoints := by
 refine ⟨(filter_sublist.map _).nodup h.nodup,?_,fun e he => ?_⟩
 · rw [cleanupCluster,filter_filter,← h.configured]
   refine filter_congr fun e _ => ?_
   cases e.draining <;> simp
 · exact h.unhealthy e (mem_of_mem_filter he)

end

/-- The endpoints have distinct addresses and do not drain, as `clusterFromProto` makes them. -/
structure FullCall (name : String) where
 now : Instant
 version : String := ""
 gateways : List GatewayState := []
 routes : List RouteState := []
 clusters : List ClusterState
 policies : List PolicyState := []
 names_nodup : (clusters.map (·.name)).Nodup
 cluster : ClusterState
 mem_clusters : cluster ∈ clusters
 name_eq : cluster.name = name
 distinct : (cluster.endpoints.map EndpointState.addressPort).Nodup
 fresh : ∀ e ∈ cluster.endpoints, e.draining = false

inductive DrainOp (name : String)
 | applyFull (call : FullCall name)
 | cleanup (now : Instant)

open DrainOp
section
variable {name : String}

def DrainOp.now : DrainOp name → Instant
 | .applyFull call => call.now
 | .cleanup now => now

def DrainOp.step (cfg : RuntimeConfig) : DrainOp name → RuntimeConfig
 | .applyFull call =>
  cfg.applyFull call.now call.version call.gateways call.routes call.clusters call.policies
 | .cleanup now => cfg.cleanupDrainingEndpoints now

def DrainOp.configures (before : List EndpointState) : DrainOp name → List EndpointState
 | .applyFull call => call.cluster.endpoints
 | .cleanup _ => before

def lastConfigured (ops : List (DrainOp name)) : List EndpointState :=
 ops.foldl DrainOp.configures []

def storedEndpoints (cfg : RuntimeConfig) (name : String) : List EndpointState :=
 ((cfg.clusters.find? name).map ClusterState.endpoints).getD []

structure DrainsOnReplace (cfg : RuntimeConfig) (ops : List (DrainOp name)) : Prop where
 nodup : ((storedEndpoints (ops.foldl DrainOp.step cfg) name).map EndpointState.addressPort).Nodup
 configured : (storedEndpoints (ops.foldl DrainOp.step cfg) name).filter (fun e => !e.draining) =
  lastConfigured ops
 dropped : ∀ before call after e, ops = before ++ .applyFull call::after →
  e ∈ lastConfigured before →
  e.addressPort ∉ call.cluster.endpoints.map EndpointState.addressPort →
  (∀ op ∈ after, op.now < call.now+drainDeadlineMs ∧
   e.addressPort ∉ (op.configures []).map EndpointState.addressPort) →
  { e with draining := true, drainStart := some call.now, healthy := false } ∈
    storedEndpoints (ops.foldl DrainOp.step cfg) name
 unhealthy : ∀ e ∈ storedEndpoints (ops.foldl DrainOp.step cfg) name,
  e.draining = true → e.healthy = false

variable {cfg : RuntimeConfig} {con : List EndpointState}

lemma storedEndpoints_applyFull (cfg : RuntimeConfig) (call : FullCall name) :
  storedEndpoints (step cfg (.applyFull call)) name =
   (drainReplaced call.now (cfg.clusters.find? name) call.cluster).endpoints := by
 have hf := KeyedMap.find?_replaceAll_of_nodup (·.name) (drainReplaced call.now) cfg.clusters
  call.clusters call.names_nodup call.mem_clusters
 rw [call.name_eq] at hf
 simp [storedEndpoints,step,RuntimeConfig.applyFull,hf]

lemma storedEndpoints_cleanup (cfg : RuntimeConfig) (now : Instant) :
  storedEndpoints (step cfg (.cleanup now : DrainOp name)) name =
   ((cfg.clusters.find? name).map fun c => (cleanupCluster now c).endpoints).getD [] := by
 simp only [storedEndpoints,step,RuntimeConfig.cleanupDrainingEndpoints,
  KeyedMap.find?_putWhere]
 cases cfg.clusters.find? name <;> rfl

variable (h : Drained con (storedEndpoints cfg name))
include h

lemma drained_step (op : DrainOp name) :
  Drained (op.configures con) (storedEndpoints (op.step cfg) name) := by
 unfold storedEndpoints at h
 cases op with
 | applyFull call =>
  rw [storedEndpoints_applyFull]
  cases ho : cfg.clusters.find? name with
  | none =>
   refine ⟨call.distinct,filter_eq_self.mpr fun e he => by simp [call.fresh e he],?_⟩
   exact fun e he hr => by simp [call.fresh e he] at hr
  | some old =>
   rw [ho] at h
   exact Drained.replace h call.distinct call.fresh
 | cleanup now =>
  rw [storedEndpoints_cleanup]
  cases ho : cfg.clusters.find? name with
  | none => rwa [ho] at h
  | some old =>
   rw [ho] at h
   exact Drained.cleanup h

lemma drained_run (ops : List (DrainOp name)) : Drained (ops.foldl configures con)
      (storedEndpoints (ops.foldl step cfg) name) := by
 induction ops generalizing cfg con with
 | nil => exact h
 | cons op ops ih => exact ih (drained_step h op)

/-- An endpoint that drains stays until its deadline, unless it is configured. -/
lemma mem_step_of_draining {op : DrainOp name}
  (hd : d ∈ storedEndpoints cfg name) (hr : stillDraining op.now d = true)
  (hg : d.addressPort ∉ (op.configures []).map addressPort) :
  d ∈ storedEndpoints (op.step cfg) name := by
 unfold storedEndpoints at h hd
 cases ho : cfg.clusters.find? name with
 | none => simp [ho] at hd
 | some old =>
  rw [ho] at h hd
  cases op with
  | applyFull call =>
   rw [storedEndpoints_applyFull,ho]
   exact Drained.mem_replace_of_draining h hd hr hg
  | cleanup now =>
   rw [storedEndpoints_cleanup,ho]
   exact mem_filter.mpr ⟨hd,by simpa using .inr hr⟩

lemma mem_run_of_draining (ops : List (DrainOp name))
  (hd : d ∈ storedEndpoints cfg name) (hops : ∀ op ∈ ops, stillDraining op.now d = true ∧
   d.addressPort ∉ (op.configures []).map addressPort) :
  d ∈ storedEndpoints (ops.foldl step cfg) name := by
 induction ops generalizing cfg con with
 | nil => exact hd
 | cons op ops ih =>
  have ho := hops op mem_cons_self
  exact ih (drained_step h op) (mem_step_of_draining h hd ho.1 ho.2) fun op' ho' =>
   hops op' (mem_cons_of_mem _ ho')

end

theorem drains_on_replace {name : String} (cfg : RuntimeConfig)
  (hcfg : cfg.clusters.find? name = none) (ops : List (DrainOp name)) :
  DrainsOnReplace cfg ops := by
 have hin : Drained [] (storedEndpoints cfg name) := by
  rw [storedEndpoints,hcfg]
  exact ⟨nodup_nil,rfl,by simp⟩
 have hr := drained_run hin ops
 refine ⟨hr.nodup,hr.configured,?_,hr.unhealthy⟩
 rintro pre call post e rfl he hg ha
 have hb := drained_run hin pre
 have ht : { e with draining := true, drainStart := some call.now, healthy := false } ∈
   storedEndpoints (step (pre.foldl step cfg) (.applyFull call)) name := by
  rw [storedEndpoints_applyFull]
  unfold storedEndpoints at hb
  cases ho : (pre.foldl step cfg).clusters.find? name with
  | none =>
   rw [ho] at hb
   rw [lastConfigured,← hb.configured] at he
   exact absurd he not_mem_nil
  | some old =>
   rw [ho] at hb
   exact Drained.mem_replace_of_dropped hb he hg
 rw [foldl_append,foldl_cons]
 refine mem_run_of_draining (drained_step hb (.applyFull call)) post ht fun op hp => ?_
 have hde : ∀ a b : ℕ, a < b+drainDeadlineMs → a - b < drainDeadlineMs := by
  unfold drainDeadlineMs
  omega
 have hn := hde _ _ (ha op hp).1
 exact ⟨by simpa [stillDraining] using hn,(ha op hp).2⟩

def drainEndpoint (address : String) : EndpointState := ⟨address,80,1,true,none,0,false,none⟩

def drainCall (now : Instant) (addresses : List String) (h : addresses.Nodup) : FullCall "web" where
 now := now
 clusters := [{ clusterFromProto { name := "web" } with endpoints := addresses.map drainEndpoint }]
 names_nodup := by simp
 cluster := { clusterFromProto { name := "web" } with endpoints := addresses.map drainEndpoint }
 mem_clusters := by simp
 name_eq := rfl
 distinct := by
  rw [map_map]
  exact h.map fun a b hab => congrArg Prod.fst hab
 fresh := by simp [drainEndpoint]

/-- An endpoint that is dropped after a second drains for the next call too. -/
theorem dropped_endpoint_drains :
  let ops := [.applyFull (drainCall 0 ["10.0.0.1","10.0.0.2"] (by decide)),
   .applyFull (drainCall 1000 ["10.0.0.1"] (by decide)),
   .applyFull (drainCall 30999 ["10.0.0.1","10.0.0.3"] (by decide))]
  DrainsOnReplace {} ops ∧ ⟨"10.0.0.2",80,1,false,none,0,true,some 1000⟩ ∈
    storedEndpoints (ops.foldl step {}) "web" :=
 ⟨drains_on_replace {} rfl _,by decide⟩

end NovaEdge.Dataplane
