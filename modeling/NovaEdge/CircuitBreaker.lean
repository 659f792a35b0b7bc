import NovaEdge.TransitionSystem
import NovaEdge.ProxyHandler

/-! The circuit breaker of a cluster and the requests that the proxy handler takes through it.
The counters stay below the `u32` thresholds they are compared with, and are natural numbers
here. Requests interleave wherever the handler awaits; a call of the breaker is one step. -/
namespace NovaEdge.Dataplane
open List Option

inductive CircuitState
 | closed
 | opened
 | halfOpen
 deriving DecidableEq

structure CircuitBreakerConfig where
 failureThreshold : ℕ := 5
 successThreshold : ℕ := 3
 openDuration : ℕ := 30000
 halfOpenMaxRequests : ℕ := 1
 deriving DecidableEq

structure CircuitBreaker where
 state : CircuitState
 (failures successes lastFailureMs halfOpenPermits : ℕ)
 config : CircuitBreakerConfig

namespace CircuitBreaker

def new (config : CircuitBreakerConfig) : CircuitBreaker :=
 ⟨.closed,0,0,0,max config.halfOpenMaxRequests 1,config⟩

def allowRequest (b : CircuitBreaker) (now : ℕ) : CircuitBreaker × Bool :=
 match b.state with
 | .closed => (b,true)
 | .opened =>
  if b.config.openDuration ≤ now - b.lastFailureMs then
   -- the transition itself counts as the first probe
   ({ b with
    state := .halfOpen
    successes := 0
    halfOpenPermits := max b.config.halfOpenMaxRequests 1 - 1 },true)
  else (b,false)
 | .halfOpen =>
  if 0 < b.halfOpenPermits then ({ b with halfOpenPermits := b.halfOpenPermits - 1 },true)
  else (b,false)

def recordSuccess (b : CircuitBreaker) : CircuitBreaker :=
 match b.state with
 | .closed => { b with failures := 0 }
 | .halfOpen =>
  if b.config.successThreshold ≤ b.successes+1 then
   { b with state := .closed, failures := 0, successes := 0 }
  else { b with successes := b.successes+1 }
 | .opened => b

def recordFailure (b : CircuitBreaker) (now : ℕ) : CircuitBreaker :=
 match b.state with
 | .closed =>
  if b.config.failureThreshold ≤ b.failures+1 then
   { b with state := .opened, failures := b.failures+1, lastFailureMs := now }
  else { b with failures := b.failures+1 }
 | .halfOpen => { b with state := .opened, lastFailureMs := now, successes := 0 }
 | .opened => { b with lastFailureMs := now }

def reset (b : CircuitBreaker) : CircuitBreaker := new b.config

end CircuitBreaker

def circuitBreakerConfig : Option ClusterState → CircuitBreakerConfig
 | some c =>
  { failureThreshold := if 0 < c.cbFailureThreshold then c.cbFailureThreshold.toNat else 5
    successThreshold := if 0 < c.cbSuccessThreshold then c.cbSuccessThreshold.toNat else 3
    openDuration := if 0 < c.cbOpenDurationMs then c.cbOpenDurationMs.toNat else 30000
    halfOpenMaxRequests :=
     if 0 < c.cbHalfOpenMaxRequests then c.cbHalfOpenMaxRequests.toNat else 1 }
 | none => {}

lemma circuitBreakerConfig_pos (c : Option ClusterState) :
  0 < (circuitBreakerConfig c).successThreshold ∧
   0 < (circuitBreakerConfig c).halfOpenMaxRequests := by
 cases c with
 | none => decide
 | some c =>
  simp only [circuitBreakerConfig]
  constructor
  · split_ifs with h
    · exact UInt32.lt_iff_toNat_lt.mp h
    · decide
  · split_ifs with h
    · exact UInt32.lt_iff_toNat_lt.mp h
    · decide

inductive Report
 | success
 | failure
 deriving DecidableEq

def Report.apply (b : CircuitBreaker) (now : ℕ) : Report → CircuitBreaker
 | .success => b.recordSuccess
 | .failure => b.recordFailure now

/-- The last two end it from outside: the client goes away, or an upgraded connection is over. -/
inductive Answer
 | retryDenied
 | noBackend
 | poolFull
 | unbuildable
 | responded (status : ℕ)
 | bodyFailed
 | bodyRead
 | failed
 | dropped
 | upgradeOver

/-- `pending` is the status of a response whose body is being read; the last two are histories. -/
structure Exchange where
 websocket : Bool
 (remaining attempt : ℕ)
 retryOn : List String
 gotResponse : Bool
 (pending probe : Option ℕ)
 reported : Bool
 deriving DecidableEq

namespace Exchange

def retry (x : Exchange) (retryable : Bool) : Option Exchange :=
 if 0 < x.remaining && retryable then
  some { x with remaining := x.remaining - 1, attempt := x.attempt+1, pending := none }
 else none

/-- The report and the request that goes on, if it does; no result if the answer cannot come now. -/
def answer (parseU64 : String → Option ℕ) (x : Exchange) :
  Answer → Option (Option Report × Option Exchange)
 | .dropped => some (none,none)
 -- no exit of the upgrade path reports to the breaker
 | .upgradeOver => if x.websocket then some (none,none) else none
 | .retryDenied =>
  if !x.websocket && x.pending.isNone && 0 < x.attempt then some (none,none) else none
 | .noBackend =>
  if !x.websocket && x.pending.isNone then
   some (if x.gotResponse then none else some .failure,none)
  else none
 | .poolFull =>
  if !x.websocket && x.pending.isNone then
   some (none,x.retry (isRetryableCondition "connect-failure" x.retryOn))
  else none
 | .unbuildable => if !x.websocket && x.pending.isNone then some (none,none) else none
 | .responded status =>
  if !x.websocket && x.pending.isNone then
   some (some (if isServerError status then .failure else .success),
    some { x with pending := some status })
  else none
 | .failed =>
  if !x.websocket && x.pending.isNone then
   some (some .failure,{ x with gotResponse := true }.retry
    (isRetryableCondition "connect-failure" x.retryOn))
  else none
 | .bodyFailed =>
  if x.pending.isSome then
   some (some .failure,x.retry (isRetryableCondition "reset" x.retryOn))
  else none
 | .bodyRead =>
  x.pending.map fun status => (none,{ x with gotResponse := true }.retry
    (isServerError status && isRetryableStatus parseU64 status x.retryOn))

def probing (period : ℕ) (x : Exchange) : Bool := x.probe = some period && !x.reported

end Exchange

inductive BreakerEvent
 | arrive (websocket : Bool) (retryMax : ℕ) (retryOn : List String) (now : ℕ)
 | answer (i : ℕ) (a : Answer) (now : ℕ)
 | reset

/-- `period` counts half-open periods, `leaked` probes of the present one that ended unreported. -/
structure BreakerRun where
 breaker : CircuitBreaker
 inFlight : List Exchange
 (period leaked : ℕ)

open BreakerRun
namespace BreakerRun

def arrive (r : BreakerRun) (websocket : Bool) (retryMax : ℕ) (retryOn : List String)
  (now : ℕ) : BreakerRun :=
 let (b,admitted) := r.breaker.allowRequest now
 let starts := r.breaker.state = .opened ∧ b.state = .halfOpen
 let period := if starts then r.period+1 else r.period
 { breaker := b
   inFlight :=
    if admitted then
     { websocket := websocket
       remaining := retryMax
       attempt := 0
       retryOn := retryOn
       gotResponse := false
       pending := none
       probe := if b.state = .halfOpen then some period else none
       reported := false }::r.inFlight
    else r.inFlight
   period := period
   leaked := if starts then 0 else r.leaked }

def settle (r : BreakerRun) (i : ℕ) (x : Exchange) (report : Option Report)
  (next : Option Exchange) (now : ℕ) : BreakerRun :=
 let leaks := x.probing r.period = true ∧ report = none ∧ next = none
 { r with
   breaker := (report.map (Report.apply r.breaker now)).getD r.breaker
   inFlight := (next.map fun y => { y with reported := x.reported || report.isSome }).toList ++
    r.inFlight.eraseIdx i
   leaked := if leaks then r.leaked+1 else r.leaked }

def step (parseU64 : String → Option ℕ) (r : BreakerRun) : BreakerEvent → Option BreakerRun
 | .arrive websocket retryMax retryOn now => some (r.arrive websocket retryMax retryOn now)
 | .answer i a now =>
  r.inFlight[i]?.bind fun x =>
   (x.answer parseU64 a).map fun (report,next) => r.settle i x report next now
 | .reset => some { r with breaker := r.breaker.reset }

def initial (cluster : Option ClusterState) : BreakerRun :=
 ⟨.new (circuitBreakerConfig cluster),[],0,0⟩

def Fresh (r : BreakerRun) : Prop := ∃ cluster, r = initial cluster

lemma fresh_initial (cl : Option ClusterState) : (initial cl).Fresh := ⟨cl,rfl⟩

def Wedged (r : BreakerRun) : Prop :=
 r.breaker.state = .halfOpen ∧ r.breaker.halfOpenPermits = 0 ∧ r.inFlight = []

def maxProbes (r : BreakerRun) : ℕ := max r.breaker.config.halfOpenMaxRequests 1

/-- Unless the breaker is closed, the probes that ended without a report leave enough of them to
reach the success threshold. -/
def Affords (r : BreakerRun) : Prop :=
 r.breaker.state ≠ .closed → r.breaker.config.successThreshold+r.leaked ≤ r.maxProbes

def Affordable (parseU64 : String → Option ℕ) (r : BreakerRun) (e : BreakerEvent) : Prop :=
 ∀ t ∈ r.step parseU64 e, t.Affords

instance (r : BreakerRun) : Decidable r.Affords := inferInstanceAs (Decidable (_ → _))

instance (parseU64 : String → Option ℕ) (r : BreakerRun) (e : BreakerEvent) :
  Decidable (r.Affordable parseU64 e) :=
 inferInstanceAs (Decidable (∀ t ∈ r.step parseU64 e, t.Affords))

end BreakerRun

def breakerSystem (parseU64 : String → Option ℕ) : TransitionSystem BreakerRun BreakerEvent where
 init := BreakerRun.Fresh
 step r e t := r.step parseU64 e = some t

def CircuitBreaker.recover (b : CircuitBreaker) (now : ℕ) : ℕ → Option CircuitBreaker
 | 0 => some b
 | n+1 =>
  if (b.allowRequest now).2 then (b.allowRequest now).1.recordSuccess.recover now n else none

namespace CircuitBreaker

inductive Admission (b : CircuitBreaker) (now : ℕ) : CircuitBreaker → Bool → Prop
 | closed (hs : b.state = .closed) : Admission b now b true
 | first (hs : b.state = .opened) (ht : b.config.openDuration ≤ now - b.lastFailureMs) :
   Admission b now
    { b with
      state := .halfOpen
      successes := 0
      halfOpenPermits := max b.config.halfOpenMaxRequests 1 - 1 } true
 | further (hs : b.state = .halfOpen) (hp : 0 < b.halfOpenPermits) :
   Admission b now { b with halfOpenPermits := b.halfOpenPermits - 1 } true
 | refused : Admission b now b false

variable (b : CircuitBreaker)

lemma allowRequest_admission (now : ℕ) :
  Admission b now (b.allowRequest now).1 (b.allowRequest now).2 := by
 unfold allowRequest
 split
 · next hs => exact .closed hs
 · next hs =>
   split_ifs with ht
   · exact .first hs ht
   · exact .refused
 · next hs =>
   split_ifs with hp
   · exact .further hs hp
   · exact .refused

@[simp] lemma recordSuccess_config : b.recordSuccess.config = b.config := by
 unfold recordSuccess
 split
 · rfl
 · split_ifs <;> rfl
 · rfl

@[simp] lemma recordFailure_config (now : ℕ) : (b.recordFailure now).config = b.config := by
 unfold recordFailure
 split
 · split_ifs <;> rfl
 · rfl
 · rfl

lemma recordSuccess_halfOpen {b : CircuitBreaker} (h : b.recordSuccess.state = .halfOpen) :
  b.state = .halfOpen ∧ b.successes+1 < b.config.successThreshold ∧
   b.recordSuccess = { b with successes := b.successes+1 } := by
 unfold recordSuccess at h ⊢
 split at h
 · next hs => simp [hs] at h
 · next hs =>
   split_ifs at h ⊢ with ht
   exact ⟨hs,by omega,rfl⟩
 · next hs => simp [hs] at h

lemma recordFailure_not_halfOpen (now : ℕ) : (b.recordFailure now).state ≠ .halfOpen := by
 unfold recordFailure
 split
 · next hs => split_ifs <;> simp [hs]
 · simp
 · next hs => simp [hs]

end CircuitBreaker

lemma Exchange.retry_probe {x y : Exchange} {ret : Bool} (h : x.retry ret = some y) :
  x.probe = y.probe := by
 unfold retry at h
 split_ifs at h
 cases h
 rfl

variable {parseU64 : String → Option ℕ}

lemma Exchange.answer_probe {x y : Exchange} {a : Answer}
  {rep : Option Report} (h : x.answer parseU64 a = some (rep,some y)) : x.probe = y.probe := by
 cases a with
 | responded sta =>
  simp only [answer] at h
  split at h
  · obtain rfl := Option.some.inj (Prod.mk.inj (Option.some.inj h)).2
    rfl
  · cases h
 | poolFull | bodyFailed =>
  simp only [answer] at h
  split_ifs at h
  exact retry_probe (Prod.mk.inj (Option.some.inj h)).2
 | failed =>
  simp only [answer] at h
  split_ifs at h
  have hp := retry_probe (Prod.mk.inj (Option.some.inj h)).2
  exact hp
 | bodyRead =>
  obtain ⟨sta,-,h⟩ := map_eq_some_iff.mp h
  have hp := retry_probe (Prod.mk.inj h).2
  exact hp
 | retryDenied | noBackend | unbuildable | dropped | upgradeOver => simp [answer] at h

namespace BreakerRun

def probes (r : BreakerRun) : ℕ := r.inFlight.countP (Exchange.probing r.period)

structure Inv (r : BreakerRun) : Prop where
 positive : 0 < r.breaker.config.successThreshold
 below : r.breaker.state = .halfOpen → r.breaker.successes < r.breaker.config.successThreshold
 budget : r.breaker.state = .halfOpen →
  r.maxProbes ≤ r.breaker.halfOpenPermits+r.breaker.successes+r.probes+r.leaked
 affordable : r.Affords

variable {r : BreakerRun}

lemma Fresh.inv (h : r.Fresh) : r.Inv := by
 obtain ⟨cl,rfl⟩ := h
 refine ⟨(circuitBreakerConfig_pos cl).1,?_,?_,fun hs => absurd rfl hs⟩ <;> intro hs <;> cases hs

variable {now : ℕ}

lemma Inv.arrive (h : r.Inv) {web : Bool} {rm : ℕ} {ro : List String}
  (hk : (r.arrive web rm ro now).Affords) : (r.arrive web rm ro now).Inv := by
 have ha := r.breaker.allowRequest_admission now
 unfold BreakerRun.arrive at hk ⊢
 generalize r.breaker.allowRequest now = answer at ha hk ⊢
 obtain ⟨b,admitted⟩ := answer
 obtain ⟨hpo,hbe,hu,hf⟩ := h
 cases ha with
 | closed hs =>
  refine ⟨hpo,?_,?_,hk⟩ <;> intro hh <;> exact absurd (hs.symm.trans hh) (by decide)
 | first hs ht =>
  simp only [hs,and_self,if_true] at hk ⊢
  refine ⟨hpo,fun _ => hpo,fun _ => ?_,hk⟩
  simp only [maxProbes,probes,countP_cons,Exchange.probing]
  simp
  omega
 | further hs hp =>
  have hb := hu hs
  simp only [hs,reduceCtorEq,false_and,if_false,if_true] at hk ⊢
  refine ⟨hpo,fun _ => hbe hs,fun _ => ?_,hk⟩
  simp only [maxProbes,probes,countP_cons,Exchange.probing] at hb ⊢
  simp only [decide_true,Bool.not_false,Bool.and_self,if_true]
  omega
 | refused =>
  have hst : ¬ (r.breaker.state = .opened ∧ r.breaker.state = .halfOpen) := by
   rintro ⟨ho,hh⟩
   simp [ho] at hh
  simp only [hst,if_false,Bool.false_eq_true]
  exact ⟨hpo,hbe,hu,hf⟩

variable {i : ℕ} {x : Exchange}

lemma probes_eraseIdx (hx : r.inFlight[i]? = some x) :
  r.probes = (r.inFlight.eraseIdx i).countP (Exchange.probing r.period) +
   if x.probing r.period then 1 else 0 := by
 obtain ⟨hi,rfl⟩ := List.getElem?_eq_some_iff.mp hx
 rw [probes,← (getElem_cons_eraseIdx_perm hi).countP_eq,countP_cons]

variable {re : Option Report} {next : Option Exchange}

lemma settle_state (hs : (r.settle i x re next now).breaker.state = .halfOpen) :
  re = none ∨ re = some .success := by
 cases re with
 | none => exact .inl rfl
 | some rep =>
  cases rep with
  | success => exact .inr rfl
  | failure => exact absurd hs (r.breaker.recordFailure_not_halfOpen now)

lemma settle_config : (r.settle i x re next now).breaker.config = r.breaker.config := by
 cases re with
 | none => rfl
 | some rep =>
  cases rep with
  | success => exact r.breaker.recordSuccess_config
  | failure => exact r.breaker.recordFailure_config now

lemma settle_silent (hx : r.inFlight[i]? = some x) (hn : ∀ y, next = some y → x.probe = y.probe) :
  (r.settle i x none next now).probes+(r.settle i x none next now).leaked = r.probes+r.leaked := by
 have hp := probes_eraseIdx hx
 cases next with
 | none =>
  simp only [settle,probes,map_none,toList_none,nil_append] at hp ⊢
  by_cases hr : x.probing r.period = true
  · simp only [hr,if_true,and_self] at hp ⊢
    omega
  · simp only [hr,if_false,false_and,Bool.false_eq_true] at hp ⊢
    omega
 | some y =>
  have hy : Exchange.probing r.period { y with reported := x.reported } = x.probing r.period := by
   simp [Exchange.probing,hn y rfl]
  simp only [settle,probes,map_some,toList_some,cons_append,
   nil_append,countP_cons,isSome_none,Bool.or_false,hy,reduceCtorEq,
   and_false,if_false] at hp ⊢
  omega

lemma settle_probes_le (hx : r.inFlight[i]? = some x) :
  r.probes ≤ (r.settle i x re next now).probes+1 := by
 have hp := probes_eraseIdx hx
 have hu : (r.inFlight.eraseIdx i).countP (Exchange.probing r.period) ≤
   (r.settle i x re next now).probes := by
  simp only [settle,probes,countP_append]
  omega
 split_ifs at hp <;> omega

lemma settle_leaked (hr : re.isSome) : (r.settle i x re next now).leaked = r.leaked := by
 cases re with
 | none => cases hr
 | some rep => simp [settle]

lemma Inv.settle (h : r.Inv) (hx : r.inFlight[i]? = some x)
  (hn : ∀ y, next = some y → x.probe = y.probe)
  (ho : (r.settle i x re next now).Affords) : (r.settle i x re next now).Inv := by
 have hc : (r.settle i x re next now).breaker.config = r.breaker.config := settle_config
 have hm : (r.settle i x re next now).maxProbes = r.maxProbes := by simp only [maxProbes,hc]
 refine ⟨by rw [hc]; exact h.positive,fun hs => ?_,fun hs => ?_,ho⟩
 · rw [hc]
   rcases settle_state hs with rfl | rfl
   · exact h.below hs
   · obtain ⟨-,hl,he⟩ := CircuitBreaker.recordSuccess_halfOpen hs
     change r.breaker.recordSuccess.successes < _
     rw [he]
     exact hl
 · rcases settle_state hs with rfl | rfl
   · have hb := h.budget hs
     have hmo : (r.settle i x none next now).probes+(r.settle i x none next now).leaked =
       r.probes+r.leaked := settle_silent hx hn
     have ha : (r.settle i x none next now).breaker = r.breaker := rfl
     rw [ha]
     omega
   · obtain ⟨hh,-,he⟩ := CircuitBreaker.recordSuccess_halfOpen hs
     have hb := h.budget hh
     have hle : r.probes ≤ (r.settle i x (some .success) next now).probes+1 := settle_probes_le hx
     have hk : (r.settle i x (some .success) next now).leaked = r.leaked := settle_leaked rfl
     have ha : (r.settle i x (some .success) next now).breaker = r.breaker.recordSuccess := rfl
     rw [ha,he,hk]
     dsimp only
     omega

theorem Inv.step {t : BreakerRun} {e : BreakerEvent} (h : r.Inv)
  (ho : r.Affordable parseU64 e) (hs : r.step parseU64 e = some t) : t.Inv := by
 cases e with
 | arrive websocket retryMax retryOn now =>
  cases hs
  exact h.arrive (ho _ rfl)
 | answer i a now =>
  obtain ⟨x,hx,hm⟩ := bind_eq_some_iff.mp hs
  obtain ⟨⟨re,next⟩,ha,rfl⟩ := map_eq_some_iff.mp hm
  refine h.settle hx ?_ (ho _ hs)
  rintro y rfl
  exact Exchange.answer_probe ha
 | reset =>
  cases hs
  refine ⟨h.positive,?_,?_,fun hh => absurd rfl hh⟩ <;> intro hh <;> cases hh

end BreakerRun

namespace CircuitBreaker

attribute [local simp] recordSuccess

/-- With as many permits as successes are missing, that many successful requests close a
half-open breaker. -/
lemma recover_halfOpen (now k : ℕ) (b : CircuitBreaker) (hs : b.state = .halfOpen)
  (hk : b.successes+(k+1) = b.config.successThreshold) (hp : k+1 ≤ b.halfOpenPermits) :
  ∃ c, b.recover now (k+1) = some c ∧ c.state = .closed := by
 have ho : 0 < b.halfOpenPermits := by omega
 have ha : b.allowRequest now = ({ b with halfOpenPermits := b.halfOpenPermits - 1 },true) := by
  simp [allowRequest,hs,ho]
 induction k generalizing b with
 | zero =>
  have ht : b.config.successThreshold ≤ b.successes+1 := by omega
  refine ⟨(b.allowRequest now).1.recordSuccess,by simp [recover,ha],?_⟩
  simp [ha,hs,ht]
 | succ k ih =>
  have hl : ¬ b.config.successThreshold ≤ b.successes+1 := by omega
  have hn : (b.allowRequest now).1.recordSuccess =
    { b with halfOpenPermits := b.halfOpenPermits - 1, successes := b.successes+1 } := by
   simp [ha,hs,hl]
  have hp' : 0 < b.halfOpenPermits - 1 := by omega
  obtain ⟨c,hc,hcl⟩ := ih
   { b with halfOpenPermits := b.halfOpenPermits - 1, successes := b.successes+1 } hs
   (by dsimp only; omega) (by dsimp only; omega) hp' (by simp [allowRequest,hs,hp'])
  refine ⟨c,?_,hcl⟩
  rw [recover,hn,ha]
  simpa using hc

/-- Once its waiting time is over, an open breaker with enough probes closes as well. -/
lemma recover_opened (now : ℕ) (b : CircuitBreaker) (hs : b.state = .opened)
  (ht : b.config.openDuration ≤ now - b.lastFailureMs)
  (hle : b.config.successThreshold ≤ max b.config.halfOpenMaxRequests 1) :
  ∃ n c, b.recover now n = some c ∧ c.state = .closed := by
 have ha : b.allowRequest now = ({ b with
       state := .halfOpen
       successes := 0
       halfOpenPermits := max b.config.halfOpenMaxRequests 1 - 1 },true) := by
  simp [allowRequest,hs,ht]
 by_cases ho : b.config.successThreshold ≤ 1
 · refine ⟨1,(b.allowRequest now).1.recordSuccess,by simp [recover,ha],?_⟩
   simp [ha,ho]
 · have hn : (b.allowRequest now).1.recordSuccess =
     { b with
       state := .halfOpen
       successes := 1
       halfOpenPermits := max b.config.halfOpenMaxRequests 1 - 1 } := by
    simp [ha,ho]
   obtain ⟨k,hk⟩ := Nat.exists_eq_add_of_lt (not_le.mp ho)
   obtain ⟨c,hc,hl⟩ := recover_halfOpen now k
    { b with
      state := .halfOpen
      successes := 1
      halfOpenPermits := max b.config.halfOpenMaxRequests 1 - 1 } rfl
    (by dsimp only; omega) (by dsimp only; omega)
   refine ⟨k+2,c,?_,hl⟩
   rw [recover,hn,ha]
   simpa using hc

end CircuitBreaker

/-- Probes that end unreported must leave enough permits; then the breaker can always close. -/
theorem breaker_never_wedges (parseU64 : String → Option ℕ) {r : BreakerRun}
  (h : ((breakerSystem parseU64).restrict (Affordable parseU64)).Reachable r) :
  ¬ r.Wedged ∧ ∀ now, r.inFlight = [] → (r.breaker.state = .opened →
        r.breaker.config.openDuration ≤ now - r.breaker.lastFailureMs) →
    ∃ n c, r.breaker.recover now n = some c ∧ c.state = .closed := by
 have hin : r.Inv := h.invariant (fun _ => Fresh.inv)
  (fun _ _ _ hi hs => hi.step hs.2 hs.1)
 have hpe : r.breaker.state = .halfOpen → r.inFlight = [] →
   r.breaker.config.successThreshold ≤ r.breaker.halfOpenPermits+r.breaker.successes := by
  intro hs hn
  have hb := hin.budget hs
  have ha := hin.affordable (by simp [hs])
  simp only [probes,hn,countP_nil] at hb
  omega
 refine ⟨?_,fun now hn hw => ?_⟩
 · rintro ⟨hs,hp,hn⟩
   have hl := hin.below hs
   have hle := hpe hs hn
   omega
 · cases hs : r.breaker.state with
   | closed => exact ⟨0,r.breaker,rfl,hs⟩
   | opened =>
    have ha := hin.affordable (by simp [hs])
    exact r.breaker.recover_opened now hs (hw hs) (Nat.le_of_add_right_le ha)
   | halfOpen =>
    have hl := hin.below hs
    have hle := hpe hs hn
    obtain ⟨k,hk⟩ := Nat.exists_eq_add_of_lt hl
    obtain ⟨c,hc,hcl⟩ := r.breaker.recover_halfOpen now k hs (by omega) (by omega)
    exact ⟨k+1,c,hc,hcl⟩

def tripEvents : List BreakerEvent :=
 (List.range 5).flatMap fun t => [.arrive false 0 [] t,.answer 0 .failed t]

def recoveryEvents : List BreakerEvent := tripEvents ++
  [.arrive false 0 [] 40000,.answer 0 (.responded 200) 40001,.answer 0 .bodyRead 40002]

/-- One probe and three successes to close: the first success leaves it half-open for good. -/
theorem default_breaker_wedges : ∃ r, (breakerSystem fun _ => none).Reachable r ∧ r.Wedged ∧
      r.breaker.config = circuitBreakerConfig none := by
 have hr : Along (advance (step fun _ => none))
   (fun r e => (r.step (fun _ => none) e).isSome ∧ True)
   (.initial none) recoveryEvents := by
  decide
 have hre : (breakerSystem fun _ => none).Reachable _ :=
  .advance_foldl (.start (fresh_initial _)) hr fun _ _ _ ht _ => ht
 exact ⟨_,hre,⟨by decide,by decide,by decide⟩,by decide⟩

def twoProbeCluster : ClusterState := clusterFromProto
  { name := "web"
    circuitBreaker := some { successThreshold := 1, halfOpenMaxRequests := 2 } }

def upgradeProbeEvents : List BreakerEvent :=
 tripEvents ++ [.arrive true 0 [] 40000,.answer 0 .upgradeOver 40001]

theorem two_probe_breaker_survives_upgrade :
  ∃ r, (breakerSystem fun _ => none).Reachable r ∧ r.breaker.state = .halfOpen ∧
   r.leaked = 1 ∧ ¬ r.Wedged ∧ ∃ n c, r.breaker.recover 40002 n = some c ∧ c.state = .closed := by
 have hr : Along (advance (step fun _ => none))
   (fun r e => (r.step (fun _ => none) e).isSome ∧ r.Affordable (fun _ => none) e)
   (.initial (some twoProbeCluster)) upgradeProbeEvents := by
  decide
 have hre : ((breakerSystem fun _ => none).restrict
   (Affordable fun _ => none)).Reachable _ :=
  .advance_foldl (.start (fresh_initial _)) hr fun _ _ _ ht hc => ⟨ht,hc⟩
 have hf := breaker_never_wedges (fun _ => none) hre
 exact ⟨_,hre.of_restrict,by decide,by decide,hf.1,hf.2 40002 (by decide) (by decide)⟩

end NovaEdge.Dataplane
