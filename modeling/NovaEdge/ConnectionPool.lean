import NovaEdge.ProxyHandler
import NovaEdge.TransitionSystem

/-! The connection pool and the slots that the attempts and hedged requests of the proxy handler
take from it. Every lock of the pool is an await point, so one acquisition is several steps, and a
request may be dropped between any two of them. -/
namespace NovaEdge.Dataplane

structure PoolConfig where
 maxConnectionsPerHost : UInt32 := 100
 maxIdlePerHost : UInt32 := 10
 idleTimeout : ℕ := 90000
 maxRequestsPerConnection : UInt32 := 0

structure PooledConn where
 (created lastUsed : Instant)

/-- `permits` are the available permits of the semaphore. The last connection that was pushed is
the head of `idle`. -/
structure HostPool where
 idle : List PooledConn := []
 active : UInt32 := 0
 permits : ℕ
 consecutiveFailures : UInt32 := 0
 lastFailure : Option Instant := none
 (requestCount queued : UInt32 := 0)

def saturatingSucc (n : UInt32) : UInt32 := if n+1 = 0 then n else n+1

def maxConnAge : ℕ := 600000

namespace HostPool

def new (config : PoolConfig) : HostPool := { permits := config.maxConnectionsPerHost.toNat }

def inBackoff (host : HostPool) (now : Instant) : Bool :=
 0 < host.consecutiveFailures && host.lastFailure.any fun t =>
  now - t < min (100*2 ^ min host.consecutiveFailures.toNat 8) 30000

def popIdle (config : PoolConfig) (now : Instant) : List PooledConn → List PooledConn
 | [] => []
 | conn::rest => if now - conn.lastUsed < config.idleTimeout then rest else popIdle config now rest

def queue (host : HostPool) : HostPool := { host with queued := host.queued+1 }

def unqueue (host : HostPool) : HostPool := { host with queued := host.queued - 1 }

def grant (host : HostPool) : HostPool :=
 { host with permits := host.permits - 1, queued := host.queued - 1 }

def openSlot (config : PoolConfig) (now : Instant) (host : HostPool) : HostPool :=
 { host with idle := popIdle config now host.idle, active := host.active+1 }

def addPermit (host : HostPool) : HostPool := { host with permits := host.permits+1 }

def release (config : PoolConfig) (now : Instant) (host : HostPool) : HostPool :=
 let requestCount := saturatingSucc host.requestCount
 let shouldRecycle := 0 < config.maxRequestsPerConnection &&
  config.maxRequestsPerConnection ≤ requestCount
 { host with
   active := if host.active = 0 then 0 else host.active - 1
   requestCount := if shouldRecycle then 0 else requestCount
   idle := if !shouldRecycle && host.idle.length < config.maxIdlePerHost.toNat then
    ⟨now,now⟩::host.idle else host.idle
   permits := if host.active = 0 then host.permits else host.permits+1 }

def recordConnectionSuccess (host : HostPool) : HostPool :=
 { host with consecutiveFailures := 0, lastFailure := none }

def recordConnectionFailure (now : Instant) (host : HostPool) : HostPool :=
 { host with consecutiveFailures := saturatingSucc host.consecutiveFailures
             lastFailure := some now }

def cleanupIdle (config : PoolConfig) (now : Instant) (host : HostPool) : HostPool :=
 { host with idle := host.idle.filter fun c =>
    now - c.lastUsed < config.idleTimeout && now - c.created < maxConnAge }

end HostPool

/-- The hedged request runs beside the first attempt of its request. -/
inductive SlotRole
 | attempt
 | hedge

structure SlotUser where
 request : ℕ
 role : SlotRole
 addr : SocketAddr

/-- Where a user awaits: the semaphore, the lock, with its guard, or the lock inside `release`. -/
inductive SlotPhase
 | waiting
 | locking
 | guarded
 | releasing
 deriving DecidableEq

open SlotPhase
abbrev PoolSlot := SlotUser × SlotPhase

structure PoolState where
 pools : KeyedMap SocketAddr HostPool := ∅
 slots : List PoolSlot := []

/-- A `drop` ends the future or the guard of a user where it awaits. -/
inductive PoolOp
 | acquire (user : SlotUser) (now : Instant)
 | timeout (user : SlotUser)
 | grant (user : SlotUser)
 | openSlot (user : SlotUser) (now : Instant)
 | markReleased (user : SlotUser)
 | release (user : SlotUser) (now : Instant)
 | drop (user : SlotUser) (phase : SlotPhase)
 | recordSuccess (addr : SocketAddr)
 | recordFailure (addr : SocketAddr) (now : Instant)
 | cleanupIdle (addr : SocketAddr) (now : Instant)

open PoolOp
namespace PoolOp

def addr : PoolOp → SocketAddr
 | acquire user _ | timeout user | grant user | openSlot user _ | markReleased user
 | release user _ | drop user _ => user.addr
 | recordSuccess addr | recordFailure addr _ | cleanupIdle addr _ => addr

def removed : PoolOp → List PoolSlot
 | timeout user | grant user => [(user,.waiting)]
 | openSlot user _ => [(user,.locking)]
 | markReleased user => [(user,.guarded)]
 | release user _ => [(user,.releasing)]
 | drop user phase => [(user,phase)]
 | acquire _ _ | recordSuccess _ | recordFailure _ _ | cleanupIdle _ _ => []

def added : PoolOp → List PoolSlot
 | acquire user _ => [(user,.waiting)]
 | grant user => [(user,.locking)]
 | openSlot user _ => [(user,.guarded)]
 | markReleased user => [(user,.releasing)]
 | timeout _ | release _ _ | drop _ _ | recordSuccess _ | recordFailure _ _ | cleanupIdle _ _ => []

/-- A guard that is dropped unmarked returns its permit, and nothing else. -/
def onHost (config : PoolConfig) (op : PoolOp) (host : HostPool) : HostPool :=
 match op with
 | acquire _ _ => host.queue
 | timeout _ => host.unqueue
 | grant _ => host.grant
 | openSlot _ now => host.openSlot config now
 | release _ now => host.release config now
 | drop _ .guarded => host.addPermit
 | drop _ .waiting | drop _ .locking | drop _ .releasing | markReleased _ => host
 | recordSuccess _ => host.recordConnectionSuccess
 | recordFailure _ now => host.recordConnectionFailure now
 | cleanupIdle _ now => host.cleanupIdle config now

def inserts : PoolOp → Bool
 | acquire _ _ | recordFailure _ _ => true
 | _ => false

def onPools (config : PoolConfig) (op : PoolOp) (pools : KeyedMap SocketAddr HostPool) :
  KeyedMap SocketAddr HostPool :=
 match pools.find? op.addr with
 | some host => pools.set op.addr (op.onHost config host)
 | none => if op.inserts then pools.set op.addr (op.onHost config (.new config)) else pools

end PoolOp

/-- The hedge starts while the attempt has its guard, which goes on when the hedge is gone. -/
def PoolState.enabled (s : PoolState) : PoolOp → Prop
 | .acquire user now =>
  (∀ host, s.pools.find? user.addr = some host → host.inBackoff now = false) ∧
   match user.role with
   | .attempt => ∀ slot ∈ s.slots, slot.1.request ≠ user.request
   | .hedge => (∃ slot ∈ s.slots, slot.1.request = user.request ∧ slot.2 = .guarded) ∧
     ∀ slot ∈ s.slots, slot.1.request = user.request → slot.1.role = .attempt
 | .grant user => ∃ host, s.pools.find? user.addr = some host ∧ 0 < host.permits
 | .markReleased user => user.role = .attempt ∧
   ∀ slot ∈ s.slots, slot.1.request = user.request → slot.1.role = .attempt
 | _ => True

def poolSystem (config : PoolConfig) : TransitionSystem PoolState PoolOp where
 init s := s = {}
 step s op t := s.enabled op ∧ ∃ rest, s.slots.Perm (op.removed ++ rest) ∧
  t = ⟨op.onPools config s.pools,op.added ++ rest⟩

/-- Permits that a phase has taken; a user that is about to make its guard holds one already. -/
def SlotPhase.permits : SlotPhase → ℕ
 | waiting => 0
 | locking | guarded | releasing => 1

def SlotPhase.guards : SlotPhase → ℕ
 | waiting | locking => 0
 | guarded | releasing => 1

def countAt (weight : SlotPhase → ℕ) (addr : SocketAddr) (slots : List PoolSlot) : ℕ :=
 (slots.map fun slot => if slot.1.addr = addr then weight slot.2 else 0).sum

def PoolState.host (config : PoolConfig) (s : PoolState) (addr : SocketAddr) : HostPool :=
 (s.pools.find? addr).getD (.new config)

structure ConservedAt (config : PoolConfig) (s : PoolState) (addr : SocketAddr) : Prop where
 permits : (s.host config addr).permits+countAt SlotPhase.permits addr s.slots =
  config.maxConnectionsPerHost.toNat
 active : (s.host config addr).active.toNat = countAt SlotPhase.guards addr s.slots

def KeepsPermits (_ : PoolState) (op : PoolOp) : Prop :=
 ∀ user phase, op = .drop user phase → phase = .waiting

variable (weight : SlotPhase → ℕ)

@[simp] lemma countAt_nil (addr : SocketAddr) : countAt weight addr [] = 0 := rfl

@[simp] lemma countAt_cons (addr : SocketAddr) (slot : PoolSlot) (slo : List PoolSlot) :
  countAt weight addr (slot::slo) =
   (if slot.1.addr = addr then weight slot.2 else 0)+countAt weight addr slo := by
 simp [countAt]

lemma countAt_append (addr : SocketAddr) (l l' : List PoolSlot) :
  countAt weight addr (l ++ l') = countAt weight addr l+countAt weight addr l' := by
 simp [countAt]

lemma countAt_perm (addr : SocketAddr) {l l' : List PoolSlot} (h : l.Perm l') :
  countAt weight addr l = countAt weight addr l' :=
 (h.map _).sum_eq

lemma guards_le_permits (addr : SocketAddr) (slo : List PoolSlot) :
  countAt guards addr slo ≤ countAt permits addr slo := by
 induction slo with
 | nil => exact le_refl _
 | cons slot slo ih =>
  have hp : slot.2.guards ≤ slot.2.permits := by cases slot.2 <;> decide
  simp only [countAt_cons]
  split_ifs <;> omega

attribute [local simp] PoolOp.removed SlotPhase.permits PoolOp.added PoolOp.onHost SlotPhase.guards

section
variable {config : PoolConfig} {s t : PoolState} {op : PoolOp}

lemma countAt_step (hst : (poolSystem config).step s op t) (wt : SlotPhase → ℕ)
  (addr : SocketAddr) : countAt wt addr t.slots+countAt wt addr op.removed =
   countAt wt addr s.slots+countAt wt addr op.added := by
 obtain ⟨-,rest,hp,rfl⟩ := hst
 rw [countAt_perm wt addr hp,countAt_append,countAt_append]
 omega

lemma PoolOp.addr_of_mem {slot : PoolSlot} (h : slot ∈ op.removed ∨ slot ∈ op.added) :
  slot.1.addr = op.addr := by
 cases op <;> simp at h <;> rcases h with rfl | rfl <;> rfl

variable {addr : SocketAddr}

lemma countAt_eq_zero {slo : List PoolSlot} (h : ∀ slot ∈ slo, slot.1.addr ≠ addr)
  (wt : SlotPhase → ℕ) : countAt wt addr slo = 0 := by
 induction slo with
 | nil => rfl
 | cons slot slo ih =>
  obtain ⟨hl,hr⟩ := List.forall_mem_cons.mp h
  simp [hl,ih hr]

section
variable (hst : (poolSystem config).step s op t)
include hst

lemma countAt_step_of_ne (hn : addr ≠ op.addr) (wt : SlotPhase → ℕ) :
  countAt wt addr t.slots = countAt wt addr s.slots := by
 have hr : countAt wt addr op.removed = 0 :=
  countAt_eq_zero (fun slot hm hq => hn (hq.symm.trans (op.addr_of_mem (.inl hm)))) wt
 have ha : countAt wt addr op.added = 0 :=
  countAt_eq_zero (fun slot hm hq => hn (hq.symm.trans (op.addr_of_mem (.inr hm)))) wt
 have hc := countAt_step hst wt addr
 omega

lemma host_step_of_ne (hn : addr ≠ op.addr) : t.host config addr = s.host config addr := by
 obtain ⟨-,rest,-,rfl⟩ := hst
 unfold PoolState.host onPools
 split
 · rw [KeyedMap.find?_set_ne _ _ hn]
 · split_ifs
   · rw [KeyedMap.find?_set_ne _ _ hn]
   · rfl

lemma host_step : t.host config op.addr = op.onHost config (s.host config op.addr) ∨
      s.host config op.addr = .new config ∧ t.host config op.addr = .new config ∧
       s.pools.find? op.addr = none ∧ op.inserts = false := by
 obtain ⟨-,rest,-,rfl⟩ := hst
 unfold PoolState.host onPools
 cases hf : s.pools.find? op.addr with
 | some host => exact .inl (by simp)
 | none =>
  by_cases hn : op.inserts = true
  · exact .inl (by simp [hn])
  · exact .inr ⟨rfl,by simp [hn,hf],rfl,by simpa using hn⟩

lemma conservedAt_step_of_ne (hn : addr ≠ op.addr) :
  ConservedAt config t addr ↔ ConservedAt config s addr := by
 have hh := host_step_of_ne hst hn
 have hc := countAt_step_of_ne hst hn
 constructor
 · rintro ⟨hp,ha⟩
   rw [hh,hc] at hp ha
   exact ⟨hp,ha⟩
 · rintro ⟨hp,ha⟩
   rw [← hh,← hc] at hp ha
   exact ⟨hp,ha⟩

lemma countAt_removed_le (wt : SlotPhase → ℕ) (addr : SocketAddr) :
  countAt wt addr op.removed ≤ countAt wt addr s.slots := by
 obtain ⟨-,rest,hp,-⟩ := hst
 rw [countAt_perm wt addr hp,countAt_append]
 omega

end

/-- A slot that holds a permit has an entry, so that only idle calls meet a host without one. -/
lemma conservedAt_step_of_fresh (h : ConservedAt config s op.addr)
  (hste : (poolSystem config).step s op t) (hs : s.host config op.addr = .new config)
  (ht : t.host config op.addr = .new config) (ho : s.pools.find? op.addr = none)
  (hn : op.inserts = false) : ConservedAt config t op.addr ∧ KeepsPermits s op := by
 have hz : countAt permits op.addr s.slots = 0 := by
  have hp := h.permits
  rw [hs] at hp
  simpa [HostPool.new] using hp
 have hl := countAt_removed_le hste permits op.addr
 have hst := countAt_step hste permits op.addr
 have hg := guards_le_permits op.addr t.slots
 have hen := hste.1
 suffices hc : countAt permits op.addr op.added = 0 ∧ KeepsPermits s op by
  refine ⟨⟨?_,?_⟩,hc.2⟩
  · rw [ht]
    simp only [HostPool.new]
    omega
  · rw [ht]
    change 0 = _
    omega
 cases op with
 | acquire user now | recordFailure addr now => cases hn
 | grant user =>
  obtain ⟨host,hf,-⟩ := hen
  cases ho.symm.trans hf
 | timeout user | recordSuccess addr | cleanupIdle addr now | release user now =>
  exact ⟨rfl,fun _ _ h => by cases h⟩
 | openSlot user now | markReleased user => simp [addr] at hl hz; omega
 | drop user ph =>
  refine ⟨rfl,?_⟩
  rintro user' phase' ⟨⟩
  cases ph with
  | waiting => rfl
  | locking | guarded | releasing => simp [addr] at hl hz; omega

/-- In a conserving state the counter of a host with a guard to come does not wrap around. -/
lemma toNat_active_succ {act : UInt32} {cfg : PoolConfig}
  (h : act.toNat < cfg.maxConnectionsPerHost.toNat) : (act+1).toNat = act.toNat+1 := by
 have hl := cfg.maxConnectionsPerHost.toNat_lt
 rw [UInt32.toNat_add]
 have ho : (1 : UInt32).toNat = 1 := rfl
 omega

lemma toNat_active_pred {act : UInt32} (h : 0 < act.toNat) : (act - 1).toNat = act.toNat - 1 := by
 rw [UInt32.toNat_sub_of_le]
 · rfl
 · exact UInt32.le_iff_toNat_le.mpr h

lemma onHost_permits (cfg : PoolConfig) (hk : KeepsPermits s op) {ho : HostPool}
  (hg : ∀ user, op = .grant user → 0 < ho.permits)
  (hh : countAt guards op.addr op.removed ≤ ho.active.toNat) :
  (op.onHost cfg ho).permits+countAt permits op.addr op.added =
   ho.permits+countAt permits op.addr op.removed := by
 cases op with
 | grant user =>
  have hp := hg user rfl
  simp [HostPool.grant,addr]
  omega
 | release user now =>
  have hn : ho.active ≠ 0 := by
   rintro h0
   simp [h0,addr] at hh
  simp [HostPool.release,hn,addr]
 | drop user ph =>
  obtain rfl := hk user ph rfl
  simp
 | _ =>
  simp [HostPool.queue,HostPool.unqueue,HostPool.openSlot,HostPool.recordConnectionSuccess,
   HostPool.recordConnectionFailure,HostPool.cleanupIdle,addr]

lemma onHost_active (cfg : PoolConfig) (hk : KeepsPermits s op) {ho : HostPool}
  (hr : ho.active.toNat+countAt guards op.addr op.added ≤
   cfg.maxConnectionsPerHost.toNat+countAt guards op.addr op.removed)
  (hh : countAt guards op.addr op.removed ≤ ho.active.toNat) :
  (op.onHost cfg ho).active.toNat+countAt guards op.addr op.removed =
   ho.active.toNat+countAt guards op.addr op.added := by
 cases op with
 | openSlot user now =>
  simp [addr] at hr ⊢
  exact toNat_active_succ hr
 | release user now =>
  simp [addr] at hh
  have hn : ho.active ≠ 0 := by
   rintro h0
   simp [h0] at hh
  have hp := toNat_active_pred hh
  simp [HostPool.release,hn,addr]
  omega
 | drop user ph =>
  obtain rfl := hk user ph rfl
  simp
 | _ =>
  simp [HostPool.queue,HostPool.unqueue,HostPool.grant,HostPool.recordConnectionSuccess,
   HostPool.recordConnectionFailure,HostPool.cleanupIdle,addr]

lemma onHost_drop {user : SlotUser} {ph : SlotPhase} (hp : ph ≠ .waiting) (ho : HostPool) :
  (drop user ph).onHost config ho = ho ∧ ph.permits = 1 ∨
   ((drop user ph).onHost config ho).active = ho.active ∧ ph.guards = 1 := by
 cases ph with
 | waiting => exact absurd rfl hp
 | locking | releasing => exact .inl ⟨rfl,rfl⟩
 | guarded => exact .inr ⟨rfl,rfl⟩

lemma conservedAt_step_of_entry (h : ConservedAt config s op.addr)
  (hst : (poolSystem config).step s op t)
  (ht : t.host config op.addr = op.onHost config (s.host config op.addr)) :
  ConservedAt config t op.addr ↔ KeepsPermits s op := by
 obtain ⟨hp,ha⟩ := h
 have hc := countAt_step hst permits op.addr
 have hcg := countAt_step hst guards op.addr
 constructor
 · rintro ⟨hp',ha'⟩ user phase rfl
   by_contra hh
   rw [ht] at hp' ha'
   have hr : ∀ weight : SlotPhase → ℕ, countAt weight (drop user phase).addr
     (drop user phase).removed = weight phase := by
    intro weight
    simp [addr]
   have had : ∀ weight : SlotPhase → ℕ, countAt weight (drop user phase).addr
     (drop user phase).added = 0 := fun _ => rfl
   rw [hr,had] at hc hcg
   rcases onHost_drop hh (s.host config (drop user phase).addr) with
    ⟨hsa,ho⟩ | ⟨hsa,ho⟩
   · rw [hsa] at hp'
     omega
   · rw [hsa] at ha'
     omega
 · intro hk
   have hg := guards_le_permits op.addr t.slots
   have hl := countAt_removed_le hst guards op.addr
   have hgr : ∀ user, op = .grant user → 0 < (s.host config op.addr).permits := by
    rintro user rfl
    obtain ⟨host,hf,hpo⟩ := hst.1
    have hho : s.host config user.addr = host := by rw [PoolState.host,hf,Option.getD_some]
    exact hho ▸ hpo
   have hpe := onHost_permits config hk hgr (ha ▸ hl)
   have hac := onHost_active config hk (by omega) (ha ▸ hl)
   rw [← ht] at hpe hac
   exact ⟨by omega,by omega⟩

lemma conserved_step_iff (h : ∀ addr, ConservedAt config s addr)
  (hst : (poolSystem config).step s op t) :
  (∀ addr, ConservedAt config t addr) ↔ KeepsPermits s op := by
 have hse : ConservedAt config t op.addr ↔ KeepsPermits s op := by
  rcases host_step hst with ht | ⟨hs,ht,hn,hin⟩
  · exact conservedAt_step_of_entry (h op.addr) hst ht
  · obtain ⟨hc,hk⟩ := conservedAt_step_of_fresh (h op.addr) hst hs ht hn hin
    exact iff_of_true hc hk
 refine ⟨fun ha => hse.mp (ha op.addr),fun hk addr => ?_⟩
 by_cases hr : addr = op.addr
 · exact hr ▸ hse.mpr hk
 · exact (conservedAt_step_of_ne hst hr).mpr (h addr)

end

lemma conserved_of_reachable {cfg : PoolConfig} {s : PoolState}
  (hs : ((poolSystem cfg).restrict KeepsPermits).Reachable s) : ∀ addr, ConservedAt cfg s addr := by
 induction hs with
 | start hn =>
  intro addr
  rw [show _ = _ from hn]
  exact ⟨rfl,rfl⟩
 | next _ hstep ih => exact (conserved_step_iff ih hstep.1).mpr hstep.2

def PoolState.next (config : PoolConfig) (s : PoolState) (op : PoolOp) : PoolState :=
 ⟨op.onPools config s.pools,op.added ++ s.slots.drop op.removed.length⟩

def PoolState.startsWith (s : PoolState) (op : PoolOp) : Prop :=
 s.enabled op ∧ s.slots.take op.removed.length = op.removed

lemma step_next (cfg : PoolConfig) {s : PoolState} {op : PoolOp} (h : s.startsWith op) :
  (poolSystem cfg).step s op (s.next cfg op) := by
 refine ⟨h.1,s.slots.drop op.removed.length,?_,rfl⟩
 nth_rewrite 1 [← List.take_append_drop op.removed.length s.slots]
 rw [h.2]

def backendA : SocketAddr := ("10.0.0.1",80)

def backendB : SocketAddr := ("10.0.0.2",80)

def attemptRun : List PoolOp := [.acquire ⟨1,.attempt,backendA⟩ 0,.grant ⟨1,.attempt,backendA⟩,
   .openSlot ⟨1,.attempt,backendA⟩ 0]

/-- Its hedge gets a guard and the race ends; a second request is cancelled at the lock. -/
def hedgeRun : List PoolOp := [.acquire ⟨1,.hedge,backendB⟩ 50,.grant ⟨1,.hedge,backendB⟩,
   .openSlot ⟨1,.hedge,backendB⟩ 50,.drop ⟨1,.hedge,backendB⟩ .guarded,
   .markReleased ⟨1,.attempt,backendA⟩,.release ⟨1,.attempt,backendA⟩ 60,
   .acquire ⟨2,.attempt,backendA⟩ 70,.grant ⟨2,.attempt,backendA⟩,
   .drop ⟨2,.attempt,backendA⟩ .locking]

def attempted : PoolState := attemptRun.foldl (PoolState.next {}) {}

def hedged : PoolState := hedgeRun.foldl (PoolState.next {}) attempted

lemma reachable_attempted : ((poolSystem {}).restrict KeepsPermits).Reachable attempted := by
 have ha : Along (PoolState.next {})
   (fun s op => s.startsWith op ∧ KeepsPermits s op) {} attemptRun := by
  refine ⟨⟨⟨⟨?_,?_⟩,rfl⟩,?_⟩,⟨⟨⟨_,rfl,by decide⟩,rfl⟩,?_⟩,⟨⟨trivial,rfl⟩,?_⟩,trivial⟩
  · rintro host ⟨⟩
  · rintro slot ⟨⟩
  · rintro user ph ⟨⟩
  · rintro user ph ⟨⟩
  · rintro user ph ⟨⟩
 exact .foldl (.start rfl) ha fun s op ho => ⟨step_next {} ho.1,ho.2⟩

lemma reachable_hedged : (poolSystem {}).Reachable hedged := by
 have ha : Along (PoolState.next {}) PoolState.startsWith attempted
   hedgeRun := by
  refine ⟨⟨⟨?_,⟨_,List.mem_cons_self,rfl,rfl⟩,?_⟩,rfl⟩,⟨⟨_,rfl,by decide⟩,rfl⟩,
   ⟨trivial,rfl⟩,⟨trivial,rfl⟩,⟨⟨rfl,?_⟩,rfl⟩,⟨trivial,rfl⟩,⟨⟨?_,?_⟩,rfl⟩,
   ⟨⟨_,rfl,by decide⟩,rfl⟩,⟨trivial,rfl⟩,trivial⟩
  · intro host hf
    exact absurd (show none = some host from hf) (by simp)
  · intro slot hl _
    obtain rfl := List.mem_singleton.mp hl
    rfl
  · intro slot hl _
    obtain rfl := List.mem_singleton.mp hl
    rfl
  · intro host hf
    cases hf
    rfl
  · rintro slot ⟨⟩
 exact .foldl reachable_attempted.of_restrict ha fun s op ho => step_next {} ho

end NovaEdge.Dataplane
