import NovaEdge.EndpointDraining
import NovaEdge.ProxyHandler
import NovaEdge.TransitionSystem

/-! Active health checks: the checker's state of each address, the loop that probes the endpoints
of the configuration and writes their health flags, and how the flags follow the probes. A counter
at its maximum wraps around. -/
namespace NovaEdge.Dataplane
open KeyedMap RuntimeConfig List

structure HealthCheckConfig where
 healthyThreshold : UInt32 := 2
 unhealthyThreshold : UInt32 := 3

inductive HealthState
 | healthy (consecutiveSuccesses : UInt32)
 | unhealthy (consecutiveFailures : UInt32) (lastError : String)
 | unknown

def HealthState.isHealthy : HealthState → Bool
 | .healthy _ => true
 | .unhealthy _ _ | .unknown => false

def HealthState.countSuccess : HealthState → UInt32
 | .healthy consecutiveSuccesses => consecutiveSuccesses+1
 | .unhealthy _ _ | .unknown => 1

structure HealthChecker where
 states : KeyedMap SocketAddr HealthState := ∅
 failureCounts : KeyedMap SocketAddr UInt32 := ∅

open HealthChecker
namespace HealthChecker

def stateOf (checker : HealthChecker) (addr : SocketAddr) : HealthState :=
 (checker.states.find? addr).getD .unknown

def failuresOf (checker : HealthChecker) (addr : SocketAddr) : UInt32 :=
 (checker.failureCounts.find? addr).getD 0

def isHealthy (checker : HealthChecker) (addr : SocketAddr) : Bool :=
 ((checker.states.find? addr).map HealthState.isHealthy).getD false

def recordSuccess (checker : HealthChecker) (addr : SocketAddr) : HealthChecker where
 failureCounts := checker.failureCounts.delete addr
 states := checker.states.set addr (.healthy (checker.stateOf addr).countSuccess)

def recordFailure (config : HealthCheckConfig) (checker : HealthChecker) (addr : SocketAddr)
  (err : String) : HealthChecker where
 failureCounts := checker.failureCounts.set addr (checker.failuresOf addr+1)
 states := checker.states.set addr (if config.unhealthyThreshold ≤ checker.failuresOf addr+1 then
   .unhealthy (checker.failuresOf addr+1) err
  else checker.stateOf addr)

def updateState (config : HealthCheckConfig) (checker : HealthChecker) (addr : SocketAddr) :
  Except String Unit → HealthChecker
 | .ok () => checker.recordSuccess addr
 | .error err => checker.recordFailure config addr err

end HealthChecker

structure Target where
 (cluster address : String)
 port : UInt32
 deriving DecidableEq

def Target.names (k : Target) (e : EndpointState) : Bool := e.address = k.address && e.port = k.port

def setFirst (k : Target) (healthy : Bool) : List EndpointState → List EndpointState
 | [] => []
 | e::rest => if k.names e then { e with healthy := healthy }::rest
  else e::setFirst k healthy rest

def RuntimeConfig.updateEndpointHealth (cfg : RuntimeConfig) (k : Target) (healthy : Bool) :
  RuntimeConfig :=
 match cfg.clusters.find? k.cluster with
 | none => cfg
 | some c =>
  { cfg with
    clusters := cfg.clusters.set k.cluster
     { c with endpoints := setFirst k healthy c.endpoints } }

structure HealthLoop where
 config : RuntimeConfig := {}
 checker : HealthChecker := {}
 pending : List Target := []
 history : List (SocketAddr × Bool) := []

def roundTargets (clusters : List (String × ClusterState)) : List Target :=
 clusters.flatMap fun (name,cluster) =>
  if cluster.healthCheckPath = "" then []
  else cluster.endpoints.map fun e => ⟨name,e.address,e.port⟩

inductive HealthOp
 | apply (req : Proto.ApplyConfigRequest) (now : Instant)
 | tick (clusters : List (String × ClusterState))
 | probe (result : Except String Unit)

section
variable (parseIp : String → Option String)

def Target.socket (k : Target) : Option SocketAddr :=
 (parseIp k.address).map (·,k.port.toUInt16.toNat)

def probeTarget (config : HealthCheckConfig) (s : HealthLoop) (k : Target) (rest : List Target)
  (result : Except String Unit) : HealthLoop :=
 match k.socket parseIp with
 | none => { s with pending := rest }
 | some sock =>
  let checker := s.checker.updateState config sock result
  { config := s.config.updateEndpointHealth k (checker.isHealthy sock)
    checker := checker
    pending := rest
    history := (sock,result.toBool)::s.history }

variable (config : HealthCheckConfig) (render : JsonValue → String)

/-- A round goes over a copy of the clusters; requests that apply a configuration come between any
two probes. -/
def healthSystem : TransitionSystem HealthLoop HealthOp where
 init s := s = {}
 step s op t := match op with
  | .apply req now => t = { s with config := s.config.applyConfig render now req }
  | .tick clusters => s.pending = [] ∧ clusters.Perm s.config.clusters.pairs ∧
    t = { s with pending := roundTargets clusters }
  | .probe result => ∃ k rest, s.pending = k::rest ∧
    t = probeTarget parseIp config s k rest result

end

def RuntimeConfig.flag (cfg : RuntimeConfig) (k : Target) : Option Bool :=
 (cfg.clusters.find? k.cluster).bind fun c =>
  (c.endpoints.find? k.names).bind fun e => if e.draining then none else some e.healthy

def streak (sock : SocketAddr) (ok : Bool) : List (SocketAddr × Bool) → ℕ
 | [] => 0
 | (addr,result)::rest =>
  if addr = sock then if result = ok then streak sock ok rest+1 else 0
  else streak sock ok rest

def requestedEndpoint (req : Proto.ApplyConfigRequest) (k : Target) : Option Proto.Endpoint :=
 ((req.clusters.filter fun c => c.name = k.cluster).getLast?).bind fun c =>
  c.endpoints.find? fun e => e.ip = k.address && e.port = k.port

section
variable (parseIp : String → Option String) (config : HealthCheckConfig)

structure FlagsObey (s : HealthLoop) (op : HealthOp) (t : HealthLoop) : Prop where
 rises : ∀ k, s.config.flag k = some false → t.config.flag k = some true →
  ∃ sock, k.socket parseIp = some sock ∧
   config.healthyThreshold.toNat ≤ streak sock true t.history
 falls : ∀ k, s.config.flag k = some true → t.config.flag k = some false →
  ∃ sock, k.socket parseIp = some sock ∧
   config.unhealthyThreshold.toNat ≤ streak sock false t.history
 reapply : ∀ req now, op = .apply req now → ∀ k e flag, requestedEndpoint req k = some e →
  s.config.flag k = some flag → t.config.flag k = some flag

/-- A probe completes its series, or the flag already says whether any probe succeeded. -/
def ProbeFits (history : List (SocketAddr × Bool)) (sock : SocketAddr) (flag : Bool) :
  Except String Unit → Prop
 | .ok () => flag = true ∨ config.healthyThreshold.toNat ≤ streak sock true history+1
 | .error _ => config.unhealthyThreshold.toNat ≤ streak sock false history+1 ∨
   (flag = true ↔ (sock,true) ∈ history) ∨ flag = false ∧ config.healthyThreshold = 0

def StepFits (s : HealthLoop) : HealthOp → Prop
 | .apply req _ => ∀ k e flag, requestedEndpoint req k = some e → s.config.flag k = some flag →
   e.healthy = flag
 | .tick _ => True
 | .probe result => ∀ k rest sock flag, s.pending = k::rest → k.socket parseIp = some sock →
   s.config.flag k = some flag → ProbeFits config s.history sock flag result

end

lemma find?_setFirst_self (k : Target) (ok : Bool) (eps : List EndpointState) :
  (setFirst k ok eps).find? k.names =
   (eps.find? k.names).map fun e => { e with healthy := ok } := by
 induction eps with
 | nil => rfl
 | cons e rest ih =>
  unfold setFirst
  split_ifs with he
  · have he' : k.names { e with healthy := ok } = true := he
    rw [find?_cons_of_pos he',find?_cons_of_pos he,Option.map_some]
  · rw [find?_cons_of_neg he,find?_cons_of_neg he,ih]

lemma find?_setFirst_ne {k k' : Target} (h : ¬ (k'.address = k.address ∧ k'.port = k.port))
  (ok : Bool) (eps : List EndpointState) :
  (setFirst k ok eps).find? k'.names = eps.find? k'.names := by
 induction eps with
 | nil => rfl
 | cons e rest ih =>
  unfold setFirst
  split_ifs with he
  · have hn : ¬ k'.names e = true := by
     simp only [Target.names,Bool.and_eq_true,decide_eq_true_eq] at he ⊢
     rintro ⟨ha,hp⟩
     exact h ⟨ha.symm.trans he.1,hp.symm.trans he.2⟩
    have hn' : ¬ k'.names { e with healthy := ok } = true := hn
    rw [find?_cons_of_neg hn',find?_cons_of_neg hn]
  · by_cases he' : k'.names e = true
    · rw [find?_cons_of_pos he',find?_cons_of_pos he']
    · rw [find?_cons_of_neg he',find?_cons_of_neg he',ih]

lemma flag_updateEndpointHealth_self (cfg : RuntimeConfig) (k : Target) (hea : Bool) :
  (cfg.updateEndpointHealth k hea).flag k = (cfg.flag k).map fun _ => hea := by
 unfold flag updateEndpointHealth
 cases hc : cfg.clusters.find? k.cluster with
 | none => simp [hc]
 | some c =>
  simp only [find?_set_self,Option.bind_some,find?_setFirst_self]
  cases c.endpoints.find? k.names with
  | none => rfl
  | some e => by_cases hd : e.draining <;> simp [hd]

lemma flag_updateEndpointHealth_ne (cfg : RuntimeConfig) {k k' : Target} (h : k' ≠ k)
  (ok : Bool) : (cfg.updateEndpointHealth k ok).flag k' = cfg.flag k' := by
 unfold flag updateEndpointHealth
 cases hc : cfg.clusters.find? k.cluster with
 | none => rfl
 | some c =>
  by_cases hn : k'.cluster = k.cluster
  · have hk : ¬ (k'.address = k.address ∧ k'.port = k.port) := by
     rintro ⟨ha,hp⟩
     cases k
     cases k'
     simp_all
    simp only [hn,hc,find?_set_self,Option.bind_some,find?_setFirst_ne hk]
  · simp only [find?_set_ne _ _ hn]

/-- A request sets every flag to what it says itself. -/
lemma flag_applyConfig (rd : JsonValue → String) (cfg : RuntimeConfig) (now : Instant)
  (req : Proto.ApplyConfigRequest) (k : Target) :
  (cfg.applyConfig rd now req).flag k = (requestedEndpoint req k).map fun e => e.healthy := by
 obtain ⟨old,ho⟩ := exists_find?_replaceAll ClusterState.name (drainReplaced now)
  cfg.clusters (req.clusters.map clusterFromProto) k.cluster
 have hc : (cfg.applyConfig rd now req).clusters.find? k.cluster =
   ((req.clusters.filter fun c => c.name = k.cluster).getLast?).map fun c =>
    drainReplaced now old (clusterFromProto c) := by
  refine ho.trans ?_
  rw [filter_map,getLast?_map,Option.map_map]
  rfl
 unfold flag requestedEndpoint
 rw [hc]
 cases (req.clusters.filter fun c => c.name = k.cluster).getLast? with
 | none => rfl
 | some c =>
  obtain ⟨ex,hq,hr⟩ := exists_drainReplaced now old (clusterFromProto c)
  have hf : (clusterFromProto c).endpoints.find? k.names =
    (c.endpoints.find? fun e => e.ip = k.address && e.port = k.port).map endpointFromProto :=
   find?_map
  simp only [Option.map_some,Option.bind_some,hq,find?_append,hf]
  cases c.endpoints.find? fun e => e.ip = k.address && e.port = k.port with
  | some e => rfl
  | none =>
   cases hx : ex.find? k.names with
   | none => rfl
   | some e => simp [hr e (mem_of_find?_eq_some hx)]

@[simp] lemma streak_cons_same (sock : SocketAddr) (ok : Bool) (hist : List (SocketAddr × Bool)) :
  streak sock ok ((sock,ok)::hist) = streak sock ok hist+1 := by
 simp [streak]

@[simp] lemma streak_cons_not (sock : SocketAddr) (ok : Bool) (hist : List (SocketAddr × Bool)) :
  streak sock ok ((sock,!ok)::hist) = 0 := by
 simp [streak]

lemma streak_cons_ne {sock addr : SocketAddr} (h : addr ≠ sock) (ok res : Bool)
  (hist : List (SocketAddr × Bool)) : streak sock ok ((addr,res)::hist) = streak sock ok hist := by
 simp [streak,h]

namespace HealthChecker
variable {cfg : HealthCheckConfig} {che : HealthChecker} {addr sock : SocketAddr}

lemma isHealthy_eq : che.isHealthy addr = (che.stateOf addr).isHealthy := by
 unfold isHealthy stateOf
 cases che.states.find? addr with
 | none | some state => rfl

lemma stateOf_recordSuccess :
  (che.recordSuccess addr).stateOf addr = .healthy (che.stateOf addr).countSuccess := by
 rw [stateOf,recordSuccess,find?_set_self]
 rfl

lemma failuresOf_recordSuccess : (che.recordSuccess addr).failuresOf addr = 0 := by
 simp [failuresOf,recordSuccess]

lemma stateOf_recordFailure (err : String) : (che.recordFailure cfg addr err).stateOf addr =
      if cfg.unhealthyThreshold ≤ che.failuresOf addr+1 then
       .unhealthy (che.failuresOf addr+1) err
      else che.stateOf addr := by
 rw [stateOf,recordFailure,find?_set_self]
 rfl

lemma failuresOf_recordFailure (err : String) :
  (che.recordFailure cfg addr err).failuresOf addr = che.failuresOf addr+1 := by
 rw [failuresOf,recordFailure,find?_set_self]
 rfl

lemma updateState_ne (chk : HealthChecker) (h : sock ≠ addr) (res : Except String Unit) :
  (chk.updateState cfg addr res).stateOf sock = chk.stateOf sock ∧
   (chk.updateState cfg addr res).failuresOf sock = chk.failuresOf sock := by
 cases res with
 | ok _ => simp [updateState,recordSuccess,stateOf,failuresOf,h]
 | error err => simp [updateState,recordFailure,stateOf,failuresOf,h]

end HealthChecker

/-- Only in the unhealthy state may the failure counter have wrapped around. -/
inductive Tracks (config : HealthCheckConfig) (history : List (SocketAddr × Bool))
  (sock : SocketAddr) : HealthState → UInt32 → Prop
 | down {n : UInt32} {err : String} {count : UInt32}
   (h : config.unhealthyThreshold.toNat ≤ streak sock false history) :
   Tracks config history sock (.unhealthy n err) count
 | undecided {state : HealthState} {count : UInt32}
   (hstate : state.isHealthy = true ↔ (sock,true) ∈ history)
   (hcount : count.toNat = streak sock false history)
   (hbelow : streak sock false history < max config.unhealthyThreshold.toNat 1) :
   Tracks config history sock state count

section
variable {cfg : HealthCheckConfig} {hist : List (SocketAddr × Bool)} {sock : SocketAddr}

variable {cou : UInt32}

lemma Tracks.other {st : HealthState} (h : Tracks cfg hist sock st cou)
  {addr : SocketAddr} (hn : addr ≠ sock) (res : Bool) :
  Tracks cfg ((addr,res)::hist) sock st cou := by
 cases h with
 | down h => exact .down (by rwa [streak_cons_ne hn])
 | undecided ha hc hb =>
  refine .undecided ?_ ?_ ?_
  · simp [ha,Ne.symm hn]
  · rwa [streak_cons_ne hn]
  · rwa [streak_cons_ne hn]

variable {chk : HealthChecker}

lemma Tracks.success : Tracks cfg ((sock,true)::hist) sock ((chk.recordSuccess sock).stateOf sock)
   ((chk.recordSuccess sock).failuresOf sock) := by
 have hz : streak sock false ((sock,true)::hist) = 0 := streak_cons_not sock false hist
 rw [stateOf_recordSuccess,failuresOf_recordSuccess]
 refine .undecided ?_ ?_ ?_
 · simp [HealthState.isHealthy]
 · simp [hz]
 · omega

lemma toNat_succ_of_lt {th : UInt32} (h : cou.toNat < max th.toNat 1) :
  (cou+1).toNat = cou.toNat+1 := by
 have hl := th.toNat_lt
 rw [UInt32.toNat_add]
 have ho : (1 : UInt32).toNat = 1 := rfl
 omega

lemma reached_iff {th : UInt32} (h : cou.toNat < max th.toNat 1) :
  th ≤ cou+1 ↔ th.toNat ≤ cou.toNat+1 := by
 rw [UInt32.le_iff_toNat_le,toNat_succ_of_lt h]

section
variable (h : Tracks cfg hist sock (chk.stateOf sock) (chk.failuresOf sock))
include h

lemma Tracks.failure (err : String) : Tracks cfg ((sock,false)::hist) sock
      ((chk.recordFailure cfg sock err).stateOf sock)
      ((chk.recordFailure cfg sock err).failuresOf sock) := by
 have ht := streak_cons_same sock false hist
 rw [stateOf_recordFailure,failuresOf_recordFailure]
 generalize chk.stateOf sock = sta at h
 generalize chk.failuresOf sock = cou at h
 cases h with
 | down h =>
  split_ifs <;> exact .down (by omega)
 | undecided ha hc hb =>
  have hu := toNat_succ_of_lt (hc ▸ hb)
  have hf := reached_iff (hc ▸ hb)
  split_ifs with hr
  · rw [hf] at hr
    exact .down (by omega)
  · rw [hf] at hr
    refine .undecided ?_ ?_ ?_
    · simp [ha]
    · omega
    · omega

lemma isHealthy_recordFailure_iff (err : String) :
  (chk.recordFailure cfg sock err).isHealthy sock = true ↔
   streak sock false hist+1 < cfg.unhealthyThreshold.toNat ∧ (sock,true) ∈ hist := by
 rw [isHealthy_eq,stateOf_recordFailure]
 generalize chk.stateOf sock = state at h
 generalize chk.failuresOf sock = cou at h
 cases h with
 | down h =>
  have hn : ¬ streak sock false hist+1 < cfg.unhealthyThreshold.toNat := by omega
  split_ifs <;> simp [HealthState.isHealthy,hn]
 | undecided ha hc hb =>
  have hf := reached_iff (hc ▸ hb)
  split_ifs with hr
  · rw [hf] at hr
    have hn : ¬ streak sock false hist+1 < cfg.unhealthyThreshold.toNat := by omega
    simp [HealthState.isHealthy,hn]
  · rw [hf] at hr
    have hh : streak sock false hist+1 < cfg.unhealthyThreshold.toNat := by omega
    simp [ha,hh]

end

lemma Tracks.update (h : ∀ sock, Tracks cfg hist sock (chk.stateOf sock) (chk.failuresOf sock))
  (addr : SocketAddr) (res : Except String Unit) (sock : SocketAddr) :
  Tracks cfg ((addr,res.toBool)::hist) sock ((chk.updateState cfg addr res).stateOf sock)
   ((chk.updateState cfg addr res).failuresOf sock) := by
 by_cases ho : sock = addr
 · subst ho
   cases res with
   | ok _ => exact .success
   | error err => exact (h sock).failure err
 · obtain ⟨ha,hc⟩ := updateState_ne chk ho res
   rw [ha,hc]
   exact (h sock).other (Ne.symm ho) res.toBool

end

attribute [local simp] probeTarget

section
variable {pip : String → Option String} {cfg : HealthCheckConfig}
 {rd : JsonValue → String} {s t : HealthLoop}

lemma tracks_of_reachable (hs : (healthSystem pip cfg rd).Reachable s) (sock : SocketAddr) :
  Tracks cfg s.history sock (s.checker.stateOf sock) (s.checker.failuresOf sock) := by
 induction hs generalizing sock with
 | start hn =>
  rw [show _ = _ from hn]
  refine .undecided ?_ rfl ?_
  · simp [stateOf,HealthState.isHealthy]
  · simp [streak]
 | @next s t op _ ht ih =>
  cases op with
  | apply req now =>
   rw [show t = _ from ht]
   exact ih sock
  | tick clusters =>
   obtain ⟨-,-,rfl⟩ := ht
   exact ih sock
  | probe result =>
   obtain ⟨k,rest,-,rfl⟩ := ht
   unfold probeTarget
   split
   · exact ih sock
   · exact Tracks.update ih _ result sock

lemma flagsObey_apply_iff (req : Proto.ApplyConfigRequest) (now : Instant)
  (ht : (healthSystem pip cfg rd).step s (.apply req now) t) :
  FlagsObey pip cfg s (.apply req now) t ↔ StepFits pip cfg s (.apply req now) := by
 have hf : ∀ k, t.config.flag k = (requestedEndpoint req k).map fun e => e.healthy := by
  intro k
  rw [show t = _ from ht]
  exact flag_applyConfig rd s.config now req k
 constructor
 · intro h k e flag hr ho
   have hn := h.reapply req now rfl k e flag hr ho
   rw [hf,hr] at hn
   exact Option.some.inj hn
 · intro h
   -- a flag before and a flag after mean that the request has the endpoint
   have hm : ∀ k flag flag', s.config.flag k = some flag → t.config.flag k = some flag' →
     flag' = flag := by
    intro k flag flag' ho hn
    rw [hf] at hn
    obtain ⟨e,hr,rfl⟩ := map_eq_some_iff.mp hn
    exact h k e flag hr ho
   constructor
   · intro k ho hn
     exact absurd (hm k _ _ ho hn) (by simp)
   · intro k ho hn
     exact absurd (hm k _ _ ho hn) (by simp)
   · rintro req' now' ⟨⟩ k e flag hr ho
     rw [hf,hr]
     exact congrArg some (h k e flag hr ho)

lemma probeFits_iff {chk : HealthChecker} {hist : List (SocketAddr × Bool)}
  {sock : SocketAddr} (h : Tracks cfg hist sock (chk.stateOf sock) (chk.failuresOf sock))
  (res : Except String Unit) (flag : Bool) : ProbeFits cfg hist sock flag res ↔
   (flag = false → (chk.updateState cfg sock res).isHealthy sock = true →
    cfg.healthyThreshold.toNat ≤ streak sock true ((sock,res.toBool)::hist)) ∧
   (flag = true → (chk.updateState cfg sock res).isHealthy sock = false →
    cfg.unhealthyThreshold.toNat ≤ streak sock false ((sock,res.toBool)::hist)) := by
 cases res with
 | ok _ =>
  have hu : (chk.updateState cfg sock (.ok ())).isHealthy sock = true := by
   rw [isHealthy_eq,updateState,stateOf_recordSuccess]
   rfl
  have ht : streak sock true ((sock,(Except.ok () : Except String Unit).toBool)::hist) =
    streak sock true hist+1 := streak_cons_same sock true hist
  rw [hu,ht]
  cases flag <;> simp [ProbeFits]
 | error err =>
  have hf := isHealthy_recordFailure_iff h err
  have ho := Bool.eq_false_iff.trans (not_congr hf)
  have hz : streak sock true
    ((sock,(Except.error err : Except String Unit).toBool)::hist) = 0 :=
   streak_cons_not sock true hist
  have ht : streak sock false ((sock,(Except.error err : Except String Unit).toBool)::hist) =
    streak sock false hist+1 := streak_cons_same sock false hist
  rw [hz,ht,updateState,hf,ho,ProbeFits,← UInt32.toNat_inj]
  by_cases hm : (sock,true) ∈ hist
  · cases flag
    · simp [hm]
      omega
    · simp [hm]
  · cases flag <;> simp [hm]

lemma flagsObey_of_same {op : HealthOp} (hp : ∀ req now, op ≠ .apply req now)
  (hm : ∀ k, t.config.flag k = s.config.flag k) : FlagsObey pip cfg s op t := by
 constructor
 · intro k ho hn
   rw [hm,ho] at hn
   cases hn
 · intro k ho hn
   rw [hm,ho] at hn
   cases hn
 · intro req now hq
   exact absurd hq (hp req now)

lemma flagsObey_iff_of_target {op : HealthOp} (hp : ∀ req now, op ≠ .apply req now) {k : Target}
  (ht : ∀ k', k' ≠ k → t.config.flag k' = s.config.flag k') {sock : SocketAddr}
  (hso : k.socket pip = some sock) :
  FlagsObey pip cfg s op t ↔ (s.config.flag k = some false → t.config.flag k = some true →
    cfg.healthyThreshold.toNat ≤ streak sock true t.history) ∧
   (s.config.flag k = some true → t.config.flag k = some false →
    cfg.unhealthyThreshold.toNat ≤ streak sock false t.history) := by
 constructor
 · intro h
   constructor
   · intro ho hn
     obtain ⟨sock',hs',hl⟩ := h.rises k ho hn
     obtain rfl := mem_unique hso hs'
     exact hl
   · intro ho hn
     obtain ⟨sock',hs',hl⟩ := h.falls k ho hn
     obtain rfl := mem_unique hso hs'
     exact hl
 · intro ⟨hr,hf⟩
   -- another flag that was the one value is not the other one now
   have hk : ∀ k' flag, k' ≠ k → s.config.flag k' = some flag → t.config.flag k' ≠ some !flag := by
    intro k' flag hne ho hn
    rw [ht k' hne,ho] at hn
    cases flag <;> cases hn
   constructor
   · intro k' ho hn
     obtain rfl : k' = k := by
      by_contra hne
      exact hk k' false hne ho hn
     exact ⟨sock,hso,hr ho hn⟩
   · intro k' ho hn
     obtain rfl : k' = k := by
      by_contra hne
      exact hk k' true hne ho hn
     exact ⟨sock,hso,hf ho hn⟩
   · intro req now hq
     exact absurd hq (hp req now)

lemma flagsObey_probe_iff (hs : (healthSystem pip cfg rd).Reachable s) (res : Except String Unit)
  (hst : (healthSystem pip cfg rd).step s (.probe res) t) :
  FlagsObey pip cfg s (.probe res) t ↔ StepFits pip cfg s (.probe res) := by
 obtain ⟨k,rest,hp,ht⟩ := hst
 have hop : ∀ req now, HealthOp.probe res ≠ .apply req now := by simp
 have hste : StepFits pip cfg s (.probe res) ↔ ∀ sock flag,
   k.socket pip = some sock → s.config.flag k = some flag →
    ProbeFits cfg s.history sock flag res := by
  simp only [StepFits,hp,List.cons.injEq,and_imp]
  constructor
  · intro h sock flag
    exact h k rest sock flag rfl rfl
  · rintro h _ _ sock flag rfl rfl
    exact h sock flag
 rw [hste]
 cases ho : k.socket pip with
 | none =>
  have hc : t.config = s.config := by simp [ht,ho]
  exact iff_of_true (flagsObey_of_same hop fun k' => by rw [hc]) (by simp)
 | some sock =>
  have hse : t.config.flag k = (s.config.flag k).map fun _ =>
    (s.checker.updateState cfg sock res).isHealthy sock := by
   simp [ht,ho,flag_updateEndpointHealth_self]
  have hot : ∀ k', k' ≠ k → t.config.flag k' = s.config.flag k' := by
   intro k' hk'
   simp [ht,ho,flag_updateEndpointHealth_ne _ hk']
  have hh : t.history = (sock,res.toBool)::s.history := by simp [ht,ho]
  have hf := probeFits_iff (tracks_of_reachable hs sock) res
  rw [flagsObey_iff_of_target hop hot ho,hse,hh]
  cases hl : s.config.flag k with
  | none => simp
  | some flag => simp [hf]

end

/-- In every run, a step keeps the flags to the thresholds just if it fits. -/
theorem health_flags_obey_iff (parseIp : String → Option String) (config : HealthCheckConfig)
  (render : JsonValue → String) {s t : HealthLoop} {op : HealthOp}
  (hs : (healthSystem parseIp config render).Reachable s)
  (hstep : (healthSystem parseIp config render).step s op t) :
  FlagsObey parseIp config s op t ↔ StepFits parseIp config s op := by
 cases op with
 | apply req now => exact flagsObey_apply_iff req now hstep
 | probe result => exact flagsObey_probe_iff hs result hstep
 | tick clusters =>
  obtain ⟨-,-,rfl⟩ := hstep
  exact iff_of_true (flagsObey_of_same (by simp) fun _ => rfl) trivial

def readyRequest : Proto.ApplyConfigRequest :=
 { clusters := [{ name := "web", healthCheck := some { httpPath := "/healthz" }
                  endpoints := [{ ip := "10.0.0.7", port := 80, healthy := true }] }] }

def readyTarget : Target := ⟨"web","10.0.0.7",80⟩

def withReady (s : HealthLoop) : HealthLoop :=
 { s with config := s.config.applyConfig (fun _ => "") 0 readyRequest }

def inRound (s : HealthLoop) : HealthLoop :=
 { s with pending := roundTargets s.config.clusters.pairs }

def probed (s : HealthLoop) (result : Except String Unit) : HealthLoop :=
 probeTarget some {} s readyTarget [] result

lemma reachable_inRound_withReady :
  (healthSystem some {} fun _ => "").Reachable (inRound (withReady {})) := by
 have hr : (healthSystem some {} fun _ => "").Reachable (withReady {}) :=
  .next (i := .apply readyRequest 0) (.start rfl) rfl
 exact hr.next (i := .tick _) ⟨rfl,List.Perm.refl _,rfl⟩

theorem ready_endpoint_stays_ready :
  (healthSystem some {} fun _ => "").Reachable (inRound (withReady {})) ∧
   (healthSystem some {} fun _ => "").step (inRound (withReady {})) (.probe (.ok ()))
    (probed (inRound (withReady {})) (.ok ())) ∧
   FlagsObey some {} (inRound (withReady {})) (.probe (.ok ()))
    (probed (inRound (withReady {})) (.ok ())) := by
 have ht : (healthSystem some {} fun _ => "").step (inRound (withReady {})) (.probe (.ok ()))
   (probed (inRound (withReady {})) (.ok ())) := ⟨readyTarget,[],rfl,rfl⟩
 refine ⟨reachable_inRound_withReady,ht,
  (health_flags_obey_iff some {} _ reachable_inRound_withReady ht).mpr ?_⟩
 intro k rest sock flag hp ho hf
 obtain ⟨rfl,-⟩ := List.cons.inj (show [readyTarget] = k::rest from hp)
 exact .inl (Option.some.inj (show some flag = some true from hf.symm))

/-- One failure of three takes the flag down, one success or a stale request up again. -/
theorem flag_follows_one_probe :
  let s := inRound (withReady {})
  let down := probed s (.error "connection refused")
  let up := probed (inRound down) (.ok ())
  (healthSystem some {} fun _ => "").Reachable s ∧
   (healthSystem some {} fun _ => "").step s (.probe (.error "connection refused")) down ∧
   streak ("10.0.0.7",80) false down.history = 1 ∧
   ¬ FlagsObey some {} s (.probe (.error "connection refused")) down ∧
   (healthSystem some {} fun _ => "").step (inRound down) (.probe (.ok ())) up ∧
   streak ("10.0.0.7",80) true up.history = 1 ∧
   ¬ FlagsObey some {} (inRound down) (.probe (.ok ())) up ∧
   (healthSystem some {} fun _ => "").step down (.apply readyRequest 0) (withReady down) ∧
   ¬ FlagsObey some {} down (.apply readyRequest 0) (withReady down) := by
 intro s down up
 refine ⟨reachable_inRound_withReady,⟨readyTarget,[],rfl,rfl⟩,rfl,?_,
  ⟨readyTarget,[],rfl,rfl⟩,rfl,?_,rfl,?_⟩
 · intro h
   obtain ⟨sock,ho,hl⟩ := h.falls readyTarget rfl rfl
   obtain rfl := Option.some.inj ho
   exact absurd hl (by decide)
 · intro h
   obtain ⟨sock,ho,hl⟩ := h.rises readyTarget rfl rfl
   obtain rfl := Option.some.inj ho
   exact absurd hl (by decide)
 · intro h
   have hf : (withReady down).config.flag readyTarget = some false :=
    h.reapply readyRequest 0 rfl readyTarget _ false rfl rfl
   exact absurd (hf.symm.trans (rfl : _ = some true)) (by decide)

end NovaEdge.Dataplane
