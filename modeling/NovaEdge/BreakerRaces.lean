import NovaEdge.CircuitBreaker

/-! The circuit breaker shared by threads. Its state, its counters and its timestamp are atomics of
their own, and a call is a sequence of atomic operations on them, between which other calls may do
theirs. The log of trips, changes of state and admissions is kept for the statements. -/
namespace NovaEdge.Dataplane
open Option Function CircuitState

inductive BreakerCall
 | allowRequest
 | recordSuccess
 | recordFailure
 deriving DecidableEq

/-- The atomic operation that a thread does next. The last read of a call is kept where a later
operation depends on it. -/
inductive BreakerPc
 | idle
 | loadState (call : BreakerCall)
 | allowClock
 | allowLoadLast (nowMs : ℕ)
 | allowExchange
 | allowResetSuccesses
 | allowStorePermits
 | allowTakePermit
 | successResetFailures
 | successCount
 | successClose
 | closedResetFailures
 | closedResetSuccesses
 | failureCount
 | failureOpen (loaded : CircuitState)
 | failureClock (loaded : CircuitState)
 | failureStoreLast (loaded : CircuitState) (nowMs : ℕ)
 | failureResetSuccesses
 deriving DecidableEq

inductive BreakerMark
 | tripped (time : ℕ)
 | halfOpened
 | closed
 | admitted (time : ℕ)
 deriving DecidableEq

def tripTimes : List BreakerMark → List ℕ
 | [] => []
 | .tripped t::log => t::tripTimes log
 | .halfOpened::log => tripTimes log
 | .closed::log => tripTimes log
 | .admitted _::log => tripTimes log

def probes : List BreakerMark → Option ℕ
 | [] => none
 | .tripped _::_ => none
 | .halfOpened::_ => some 0
 | .closed::_ => none
 | .admitted _::log => (probes log).map (· + 1)

structure SharedBreaker where
 breaker : CircuitBreaker
 clock : ℕ
 log : List BreakerMark

namespace SharedBreaker

def trips (sh : SharedBreaker) : ℕ := (tripTimes sh.log).length

def mark (sh : SharedBreaker) (m : BreakerMark) : SharedBreaker := { sh with log := m::sh.log }

end SharedBreaker

structure BreakerThread where
 pc : BreakerPc
 seen : ℕ

/-- The next atomic operation of a thread. A request is admitted by the operation that decides
it. -/
def atomicStep (sh : SharedBreaker) (c : BreakerThread) : SharedBreaker × BreakerThread :=
 let b := sh.breaker
 let idle : BreakerThread := ⟨.idle,c.seen⟩
 match c.pc with
 | .idle => (sh,c)
 | .loadState .allowRequest => match b.state with
  | .closed => (sh.mark (.admitted sh.clock),idle)
  | .opened => (sh,⟨.allowClock,sh.trips⟩)
  | .halfOpen => (sh,⟨.allowTakePermit,sh.trips⟩)
 | .allowClock => (sh,⟨.allowLoadLast sh.clock,c.seen⟩)
 | .allowLoadLast nowMs =>
  if b.config.openDuration ≤ nowMs - b.lastFailureMs then (sh,⟨.allowExchange,sh.trips⟩)
  else (sh,idle)
 | .allowExchange =>
  if b.state = .opened then
   (({ sh with breaker := { b with state := .halfOpen } }.mark .halfOpened).mark
    (.admitted sh.clock),⟨.allowResetSuccesses,c.seen⟩)
  else (sh,idle)
 | .allowResetSuccesses =>
  ({ sh with breaker := { b with successes := 0 } },⟨.allowStorePermits,c.seen⟩)
 | .allowStorePermits =>
  ({ sh with breaker := { b with halfOpenPermits := max b.config.halfOpenMaxRequests 1 - 1 } },
   idle)
 | .allowTakePermit =>
  if 0 < b.halfOpenPermits then
   ({ sh with breaker := { b with halfOpenPermits := b.halfOpenPermits - 1 } }.mark
    (.admitted sh.clock),idle)
  else (sh,idle)
 | .loadState .recordSuccess => match b.state with
  | .closed => (sh,⟨.successResetFailures,sh.trips⟩)
  | .opened => (sh,idle)
  | .halfOpen => (sh,⟨.successCount,sh.trips⟩)
 | .successResetFailures => ({ sh with breaker := { b with failures := 0 } },idle)
 | .successCount =>
  ({ sh with breaker := { b with successes := b.successes+1 } },
   if b.config.successThreshold ≤ b.successes+1 then ⟨.successClose,c.seen⟩ else idle)
 | .successClose =>
  ({ sh with breaker := { b with state := .closed } }.mark .closed, ⟨.closedResetFailures,c.seen⟩)
 | .closedResetFailures =>
  ({ sh with breaker := { b with failures := 0 } },⟨.closedResetSuccesses,c.seen⟩)
 | .closedResetSuccesses => ({ sh with breaker := { b with successes := 0 } },idle)
 | .loadState .recordFailure => match b.state with
  | .closed => (sh,⟨.failureCount,sh.trips⟩)
  | .opened => (sh,⟨.failureClock .opened,sh.trips⟩)
  | .halfOpen => (sh,⟨.failureOpen .halfOpen,sh.trips⟩)
 | .failureCount =>
  ({ sh with breaker := { b with failures := b.failures+1 } },
   if b.config.failureThreshold ≤ b.failures+1 then ⟨.failureOpen .closed,c.seen⟩ else idle)
 | .failureOpen loaded =>
  -- a store of open over open is no trip
  let sh' := if b.state = .opened then sh
   else { sh with breaker := { b with state := .opened } }.mark (.tripped sh.clock)
  (sh',⟨.failureClock loaded,sh'.trips⟩)
 | .failureClock loaded => (sh,⟨.failureStoreLast loaded sh.clock,c.seen⟩)
 | .failureStoreLast loaded nowMs =>
  ({ sh with breaker := { b with lastFailureMs := nowMs } },
   if loaded = .halfOpen then ⟨.failureResetSuccesses,c.seen⟩ else idle)
 | .failureResetSuccesses => ({ sh with breaker := { b with successes := 0 } },idle)

def BreakerCall.apply (b : CircuitBreaker) (now : ℕ) : BreakerCall → CircuitBreaker
 | .allowRequest => (b.allowRequest now).1
 | .recordSuccess => b.recordSuccess
 | .recordFailure => b.recordFailure now

def runAlone (sh : SharedBreaker) (call : BreakerCall) : SharedBreaker × BreakerThread :=
 (fun p => atomicStep p.1 p.2)^[6] (sh,⟨.loadState call,0⟩)

attribute [local simp] BreakerCall.apply CircuitBreaker.allowRequest atomicStep runAlone
 SharedBreaker.mark

/-- A call that is not interrupted does what the sequential breaker does. -/
theorem runAlone_breaker (sh : SharedBreaker) (call : BreakerCall) :
  (runAlone sh call).1.breaker = call.apply sh.breaker sh.clock ∧
   (runAlone sh call).2.pc = .idle := by
 obtain ⟨⟨sta,failures,successes,last,permits,cfg⟩,clock,log⟩ := sh
 cases call with
 | allowRequest =>
  cases sta with
  | closed => exact ⟨rfl,rfl⟩
  | opened =>
   by_cases hl : cfg.openDuration ≤ clock - last <;> simp [hl]
  | halfOpen =>
   by_cases hp : 0 < permits <;> simp [hp]
 | recordSuccess =>
  cases sta with
  | closed | opened => exact ⟨rfl,rfl⟩
  | halfOpen =>
   by_cases hn : cfg.successThreshold ≤ successes+1 <;> simp [CircuitBreaker.recordSuccess,hn]
 | recordFailure =>
  cases sta with
  | closed =>
   by_cases hn : cfg.failureThreshold ≤ failures+1 <;> simp [CircuitBreaker.recordFailure,hn]
  | opened | halfOpen => exact ⟨rfl,rfl⟩

structure BreakerRace (n : ℕ) where
 shared : SharedBreaker
 threads : Fin n → BreakerThread

inductive RaceStep (n : ℕ)
 | call (t : Fin n) (call : BreakerCall)
 | run (t : Fin n)
 | elapse (ms : ℕ)

namespace BreakerRace
variable {n : ℕ}

def start (config : CircuitBreakerConfig) (clock : ℕ) : BreakerRace n :=
 ⟨⟨.new config,clock,[]⟩,fun _ => ⟨.idle,0⟩⟩

def step (s : BreakerRace n) : RaceStep n → BreakerRace n
 | .call t call =>
  if (s.threads t).pc = .idle then
   { s with threads := Function.update s.threads t ⟨.loadState call,(s.threads t).seen⟩ }
  else s
 | .run t =>
  let r := atomicStep s.shared (s.threads t)
  ⟨r.1,Function.update s.threads t r.2⟩
 | .elapse ms => { s with shared := { s.shared with clock := s.shared.clock+ms } }

def run (config : CircuitBreakerConfig) (clock : ℕ) (steps : List (RaceStep n)) : BreakerRace n :=
 steps.foldl step (start config clock)

end BreakerRace

def AdmitsLate (openDuration : ℕ) : List BreakerMark → Prop
 | [] => True
 | .admitted t::log => (∀ t₀ ∈ tripTimes log, t₀+openDuration ≤ t) ∧ AdmitsLate openDuration log
 | _::log => AdmitsLate openDuration log

def EpisodesBounded (limit : ℕ) : List BreakerMark → Prop
 | [] => True
 | m::log => (∀ k, probes (m::log) = some k → k ≤ limit) ∧ EpisodesBounded limit log

structure BreakerBounds (config : CircuitBreakerConfig) (log : List BreakerMark) : Prop where
 late : AdmitsLate config.openDuration log
 episodes : EpisodesBounded config.halfOpenMaxRequests log

def BoundsThroughout {n : ℕ} (config : CircuitBreakerConfig) (clock : ℕ)
  (steps : List (RaceStep n)) : Prop :=
 ∀ k, BreakerBounds config (BreakerRace.run config clock (steps.take k)).shared.log

def BreakerThread.stamping (c : BreakerThread) : Bool :=
 match c.pc with
 | .failureClock loaded => loaded ≠ .opened
 | .failureStoreLast loaded _ => loaded ≠ .opened
 | _ => false

def BreakerThread.settingUp (c : BreakerThread) : Bool :=
 match c.pc with
 | .allowResetSuccesses => true
 | .allowStorePermits => true
 | _ => false

/-- What an operation must find: no trip since the call looked, and nothing that is about to be
stored. -/
def undisturbed {n : ℕ} (s : BreakerRace n) : RaceStep n → Bool
 | .run t =>
  let c := s.threads t
  match c.pc with
  | .allowLoadLast _ => decide (∀ t', (s.threads t').stamping = false)
  | .allowExchange => decide (s.shared.breaker.state = .opened → c.seen = s.shared.trips ∧
    0 < s.shared.breaker.config.halfOpenMaxRequests)
  | .allowTakePermit => decide (0 < s.shared.breaker.halfOpenPermits → c.seen = s.shared.trips ∧
    ∀ t', (s.threads t').settingUp = false)
  | .successClose => decide (c.seen = s.shared.trips)
  | .failureStoreLast _ _ => decide (c.seen = s.shared.trips)
  | _ => true
 | .call _ _ => true
 | .elapse _ => true

def SharedBreaker.Clear (sh : SharedBreaker) : Prop :=
 ∀ t₀ ∈ tripTimes sh.log, t₀+sh.breaker.config.openDuration ≤ sh.clock

structure SharedBreaker.Sound (sh : SharedBreaker) : Prop where
 past : ∀ t₀ ∈ tripTimes sh.log, t₀ ≤ sh.clock
 clear : sh.breaker.state ≠ .opened → sh.Clear
 episode : (probes sh.log).isSome = true ↔ sh.breaker.state = .halfOpen
 late : AdmitsLate sh.breaker.config.openDuration sh.log

def BreakerThread.Knows (sh : SharedBreaker) (c : BreakerThread) : Prop :=
 match c.pc with
 | .allowLoadLast nowMs => nowMs ≤ sh.clock
 | .allowExchange => c.seen = sh.trips → sh.Clear
 | .allowTakePermit => c.seen = sh.trips → sh.Clear
 | .successCount => c.seen = sh.trips → sh.Clear
 | .successClose => c.seen = sh.trips → sh.Clear
 | .failureOpen loaded => loaded ≠ .opened
 | .failureStoreLast _ nowMs => c.seen = sh.trips → ∀ t₀ ∈ tripTimes sh.log, t₀ ≤ nowMs
 | _ => True

structure SharedBreaker.Extends (sh sh' : SharedBreaker) : Prop where
 clock : sh.clock ≤ sh'.clock
 config : sh'.breaker.config = sh.breaker.config
 trips : tripTimes sh'.log = tripTimes sh.log ∨ sh.trips < sh'.trips

variable {sh sh' : SharedBreaker}

lemma SharedBreaker.Clear.extends (hc : sh.Clear) (hx : sh.Extends sh')
  (ht : tripTimes sh'.log = tripTimes sh.log) : sh'.Clear := by
 intro t₀ ht₀
 rw [ht] at ht₀
 rw [hx.config]
 exact (hc t₀ ht₀).trans hx.clock

lemma SharedBreaker.Extends.tripTimes_eq (hx : sh.Extends sh') {seen : ℕ}
  (hse : seen ≤ sh.trips) (hn : seen = sh'.trips) : tripTimes sh'.log = tripTimes sh.log := by
 rcases hx.trips with hq | hl
 · exact hq
 · omega

variable {c : BreakerThread}

lemma BreakerThread.Knows.extends (hk : c.Knows sh) (hse : c.seen ≤ sh.trips)
  (hx : sh.Extends sh') : c.Knows sh' := by
 have hc : (c.seen = sh.trips → sh.Clear) → c.seen = sh'.trips → sh'.Clear := by
  intro hc hn
  have ht := hx.tripTimes_eq hse hn
  have ha : sh'.trips = sh.trips := congrArg List.length ht
  exact (hc (hn.trans ha)).extends hx ht
 obtain ⟨pc,seen⟩ := c
 cases pc with
 | allowLoadLast nowMs => exact Nat.le_trans hk hx.clock
 | allowExchange | allowTakePermit | successCount | successClose => exact hc hk
 | failureOpen loaded => exact hk
 | failureStoreLast loaded nowMs =>
  intro hn t₀ ht₀
  have ht := hx.tripTimes_eq hse hn
  rw [ht] at ht₀
  exact hk (hn.trans (congrArg List.length ht)) t₀ ht₀
 | _ => trivial

def SharedBreaker.counting (sh : SharedBreaker) (failures successes : ℕ) : SharedBreaker :=
 { sh with breaker := { sh.breaker with failures := failures, successes := successes } }

/-- The operations that change more than the two counts. -/
inductive AtomicEffect (sh : SharedBreaker) : BreakerThread → SharedBreaker × BreakerThread → Prop
 | quiet {c c' : BreakerThread} (failures successes : ℕ)
   (stamping : c.stamping = true → c'.stamping = true)
   (settingUp : c'.settingUp = c.settingUp) :
   AtomicEffect sh c (sh.counting failures successes,c')
 | letIn {seen : ℕ} (closed : sh.breaker.state = .closed) :
   AtomicEffect sh ⟨.loadState .allowRequest,seen⟩ (sh.mark (.admitted sh.clock),⟨.idle,seen⟩)
 | exchange {seen : ℕ} (opened : sh.breaker.state = .opened) :
   AtomicEffect sh ⟨.allowExchange,seen⟩
    (({ sh with breaker := { sh.breaker with state := .halfOpen } }.mark .halfOpened).mark
     (.admitted sh.clock),⟨.allowResetSuccesses,seen⟩)
 | setUp {seen : ℕ} :
   AtomicEffect sh ⟨.allowStorePermits,seen⟩
    ({ sh with breaker := { sh.breaker with
      halfOpenPermits := max sh.breaker.config.halfOpenMaxRequests 1 - 1 } },⟨.idle,seen⟩)
 | take {seen : ℕ} (permit : 0 < sh.breaker.halfOpenPermits) :
   AtomicEffect sh ⟨.allowTakePermit,seen⟩
    ({ sh with breaker := { sh.breaker with
      halfOpenPermits := sh.breaker.halfOpenPermits - 1 } }.mark (.admitted sh.clock),
     ⟨.idle,seen⟩)
 | close {seen : ℕ} :
   AtomicEffect sh ⟨.successClose,seen⟩
    ({ sh with breaker := { sh.breaker with state := .closed } }.mark .closed,
     ⟨.closedResetFailures,seen⟩)
 | trip {seen seen' : ℕ} {loaded : CircuitState} (shut : sh.breaker.state ≠ .opened) :
   AtomicEffect sh ⟨.failureOpen loaded,seen⟩
    ({ sh with breaker := { sh.breaker with state := .opened } }.mark (.tripped sh.clock),
     ⟨.failureClock loaded,seen'⟩)
 | stamp {seen nowMs : ℕ} {loaded : CircuitState} {c' : BreakerThread}
   (settingUp : c'.settingUp = false) :
   AtomicEffect sh ⟨.failureStoreLast loaded nowMs,seen⟩
    ({ sh with breaker := { sh.breaker with lastFailureMs := nowMs } },c')

lemma atomicStep_effect (sh : SharedBreaker) (c : BreakerThread) :
  AtomicEffect sh c (atomicStep sh c) := by
 have same {c c' : BreakerThread} (hm : c.stamping = false)
   (hse : c'.settingUp = c.settingUp) : AtomicEffect sh c (sh,c') :=
  .quiet sh.breaker.failures sh.breaker.successes
   (fun h => absurd (hm.symm.trans h) Bool.noConfusion) hse
 obtain ⟨pc,seen⟩ := c
 cases pc with
 | idle | allowClock => exact same rfl rfl
 | loadState call =>
  cases call <;> cases ht : sh.breaker.state <;> simp only [atomicStep,ht]
  case allowRequest.closed => exact .letIn ht
  all_goals exact same rfl rfl
 | allowLoadLast nowMs =>
  simp only [atomicStep]
  split_ifs <;> exact same rfl rfl
 | allowExchange =>
  simp only [atomicStep]
  split_ifs with ho
  · exact .exchange ho
  · exact same rfl rfl
 | allowResetSuccesses | closedResetSuccesses | failureResetSuccesses =>
  exact .quiet sh.breaker.failures 0 id rfl
 | allowStorePermits => exact .setUp
 | allowTakePermit =>
  simp only [atomicStep]
  split_ifs with hp
  · exact .take hp
  · exact same rfl rfl
 | successResetFailures | closedResetFailures => exact .quiet 0 sh.breaker.successes id rfl
 | successCount =>
  refine .quiet sh.breaker.failures (sh.breaker.successes+1) (fun h => Bool.noConfusion h) ?_
  split_ifs <;> rfl
 | successClose => exact .close
 | failureCount =>
  refine .quiet (sh.breaker.failures+1) sh.breaker.successes (fun h => Bool.noConfusion h) ?_
  split_ifs <;> rfl
 | failureOpen loaded =>
  simp only [atomicStep]
  split_ifs with ho
  · exact same rfl rfl
  · exact .trip ho
 | failureClock loaded => exact .quiet sh.breaker.failures sh.breaker.successes id rfl
 | failureStoreLast loaded nowMs =>
  refine .stamp ?_
  split_ifs <;> rfl

variable {r : SharedBreaker × BreakerThread}

section
variable (heff : AtomicEffect sh c r)
include heff

lemma AtomicEffect.extends : sh.Extends r.1 := by
 cases heff with
 | trip => exact ⟨le_rfl,rfl,Or.inr (Nat.lt_succ_self _)⟩
 | _ => exact ⟨le_rfl,rfl,Or.inl rfl⟩

def BreakerThread.Fresh (sh : SharedBreaker) (c : BreakerThread) : Prop :=
 match c.pc with
 | .allowExchange => sh.breaker.state = .opened → c.seen = sh.trips
 | .allowTakePermit => 0 < sh.breaker.halfOpenPermits → c.seen = sh.trips
 | .successClose => c.seen = sh.trips
 | .failureStoreLast _ _ => c.seen = sh.trips
 | _ => True

lemma AtomicEffect.sound (hso : sh.Sound) (hk : c.Knows sh) (hf : c.Fresh sh) : r.1.Sound := by
 cases heff with
 | quiet failures successes | setUp | stamp =>
  exact ⟨hso.past,hso.clear,hso.episode,hso.late⟩
 | letIn hc =>
  have hh : sh.breaker.state ≠ .opened := by rw [hc]; exact noConfusion
  refine ⟨hso.past,hso.clear,?_,hso.clear hh,hso.late⟩
  change ((probes sh.log).map (· + 1)).isSome = true ↔ _
  rw [isSome_map]
  exact hso.episode
 | exchange ho =>
  have hl : sh.Clear := hk (hf ho)
  exact ⟨hso.past,fun _ => hl,iff_of_true rfl rfl,hl,hso.late⟩
 | take hp =>
  refine ⟨hso.past,hso.clear,?_,hk (hf hp),hso.late⟩
  change ((probes sh.log).map (· + 1)).isSome = true ↔ _
  rw [isSome_map]
  exact hso.episode
 | close =>
  exact ⟨hso.past,fun _ => hk hf,
   iff_of_false Bool.noConfusion noConfusion,hso.late⟩
 | trip hh =>
  refine ⟨?_,fun h => absurd rfl h,iff_of_false Bool.noConfusion noConfusion,
   hso.late⟩
  intro t₀ ht₀
  rcases List.mem_cons.mp ht₀ with rfl | ha
  · exact le_rfl
  · exact hso.past t₀ ha

/-- Once no trip is about to store its time, the stored time is that of the last trip or later. -/
lemma AtomicEffect.stamped (hk : c.Knows sh) (hf : c.Fresh sh) (ho : r.2.stamping = false)
  (ht : c.stamping = false → ∀ t₀ ∈ tripTimes sh.log, t₀ ≤ sh.breaker.lastFailureMs) :
  ∀ t₀ ∈ tripTimes r.1.log, t₀ ≤ r.1.breaker.lastFailureMs := by
 cases heff with
 | quiet failures successes hke =>
  refine ht (Bool.eq_false_iff.mpr fun h => ?_)
  exact absurd (ho.symm.trans (hke h)) Bool.noConfusion
 | trip hh =>
  rename_i loaded
  have hl : loaded ≠ .opened := hk
  exact absurd ho (by simpa [BreakerThread.stamping] using hl)
 | stamp => exact hk hf
 | _ => exact ht rfl

/-- While permits are about to be stored there was the first admission only. -/
def SharedBreaker.ProbesBounded (sh : SharedBreaker) (busy : Prop) : Prop :=
 ∀ k, probes sh.log = some k → 0 < sh.breaker.config.halfOpenMaxRequests ∧ (busy → k = 1) ∧
   (¬ busy → k+sh.breaker.halfOpenPermits ≤ sh.breaker.config.halfOpenMaxRequests)

lemma AtomicEffect.probesBounded (hso : sh.Sound) {oth : Prop}
  (hl : c.pc = .allowExchange → sh.breaker.state = .opened →
      0 < sh.breaker.config.halfOpenMaxRequests)
  (hq : c.pc = .allowTakePermit → 0 < sh.breaker.halfOpenPermits → ¬ oth)
  (hb : sh.ProbesBounded (oth ∨ c.settingUp = true)) :
  r.1.ProbesBounded (oth ∨ r.2.settingUp = true) := by
 cases heff with
 | quiet failures successes _ hse | stamp hse =>
  rw [hse]
  exact hb
 | letIn hc =>
  -- outside of an episode nothing is counted
  have hn : probes sh.log = none := by
   rw [← not_isSome_iff_eq_none,hso.episode,hc]
   exact noConfusion
  intro k hk
  change (probes sh.log).map (· + 1) = some k at hk
  rw [hn] at hk
  exact absurd hk (some_ne_none k).symm
 | exchange hop =>
  intro k hk
  have ho : 1 = k := Option.some.inj hk
  exact ⟨hl rfl hop,fun _ => ho.symm,fun h => absurd (Or.inr rfl) h⟩
 | setUp =>
  intro k hk
  obtain ⟨hp,hfi,-⟩ := hb k hk
  have ho : k = 1 := hfi (Or.inr rfl)
  refine ⟨hp,fun _ => ho,fun _ => ?_⟩
  change k+(max sh.breaker.config.halfOpenMaxRequests 1 - 1) ≤
   sh.breaker.config.halfOpenMaxRequests
  omega
 | take hpe =>
  intro k hk
  obtain ⟨k₀,hk₀,rfl⟩ := map_eq_some_iff.mp hk
  have hf : ¬ (oth ∨ (false : Bool) = true) := by
   rintro (h | h)
   · exact hq rfl hpe h
   · exact Bool.noConfusion h
  obtain ⟨hp,-,hr⟩ := hb k₀ hk₀
  refine ⟨hp,fun h => absurd h hf,fun _ => ?_⟩
  have hr := hr hf
  change k₀+1+(sh.breaker.halfOpenPermits - 1) ≤ sh.breaker.config.halfOpenMaxRequests
  omega
 | close | trip hh => exact fun k hk => absurd hk (some_ne_none k).symm

end

lemma SharedBreaker.ProbesBounded.le {busy : Prop} (hb : sh.ProbesBounded busy) {k : ℕ}
  (hk : probes sh.log = some k) : k ≤ sh.breaker.config.halfOpenMaxRequests := by
 obtain ⟨hp,hf,hr⟩ := hb k hk
 by_cases hu : busy
 · have := hf hu
   omega
 · have := hr hu
   omega

lemma AtomicEffect.episodes (heff : AtomicEffect sh c r) {busy : Prop} (hb : r.1.ProbesBounded busy)
  (hp : EpisodesBounded sh.breaker.config.halfOpenMaxRequests sh.log) :
  EpisodesBounded sh.breaker.config.halfOpenMaxRequests r.1.log := by
 cases heff with
 | letIn | take | close | trip => exact ⟨fun k hk => hb.le hk,hp⟩
 | exchange =>
  refine ⟨fun k hk => hb.le hk,fun k hk => ?_,hp⟩
  rw [← Option.some.inj hk]
  exact Nat.zero_le _
 | _ => exact hp

/-- It may rely on the time of the last failure only if no trip was about to store it. -/
lemma knows_atomicStep (hso : sh.Sound) (hse : c.seen ≤ sh.trips) (hk : c.Knows sh)
  (ha : ∀ nowMs, c.pc = .allowLoadLast nowMs →
      ∀ t₀ ∈ tripTimes sh.log, t₀ ≤ sh.breaker.lastFailureMs) :
  (atomicStep sh c).2.seen ≤ (atomicStep sh c).1.trips ∧
   (atomicStep sh c).2.Knows (atomicStep sh c).1 := by
 obtain ⟨pc,seen⟩ := c
 cases pc with
 | loadState call =>
  cases call <;> cases ht : sh.breaker.state <;> simp only [atomicStep,ht]
  case allowRequest.halfOpen =>
   exact ⟨le_rfl,fun _ => hso.clear (by rw [ht]; exact noConfusion)⟩
  case recordSuccess.halfOpen =>
   exact ⟨le_rfl,fun _ => hso.clear (by rw [ht]; exact noConfusion)⟩
  case recordFailure.halfOpen => exact ⟨le_rfl,noConfusion⟩
  case allowRequest.closed => exact ⟨hse,trivial⟩
  case recordSuccess.opened => exact ⟨hse,trivial⟩
  all_goals exact ⟨le_rfl,trivial⟩
 | allowClock => exact ⟨hse,le_rfl⟩
 | allowLoadLast nowMs =>
  have hn : nowMs ≤ sh.clock := hk
  simp only [atomicStep]
  split_ifs with hl
  · refine ⟨le_rfl,fun _ t₀ ht₀ => ?_⟩
    have hls := ha nowMs rfl t₀ ht₀
    have hp := hso.past t₀ ht₀
    change t₀+sh.breaker.config.openDuration ≤ sh.clock
    omega
  · exact ⟨hse,trivial⟩
 | allowExchange | allowTakePermit | failureStoreLast loaded nowMs =>
  simp only [atomicStep]
  split_ifs <;> exact ⟨hse,trivial⟩
 | successCount =>
  simp only [atomicStep]
  split_ifs
  · exact ⟨hse,hk⟩
  · exact ⟨hse,trivial⟩
 | failureCount =>
  simp only [atomicStep]
  split_ifs
  · exact ⟨hse,noConfusion⟩
  · exact ⟨hse,trivial⟩
 | failureOpen loaded => exact ⟨le_rfl,trivial⟩
 | failureClock loaded => exact ⟨hse,fun _ => hso.past⟩
 | _ => exact ⟨hse,trivial⟩

namespace BreakerRace
variable {n : ℕ}

structure Sound (s : BreakerRace n) : Prop where
 shared : s.shared.Sound
 seen : ∀ t, (s.threads t).seen ≤ s.shared.trips
 knows : ∀ t, (s.threads t).Knows s.shared
 stamped : (∀ t, (s.threads t).stamping = false) →
  ∀ t₀ ∈ tripTimes s.shared.log, t₀ ≤ s.shared.breaker.lastFailureMs
 probes : s.shared.ProbesBounded (∃ t, (s.threads t).settingUp = true)
 episodes : EpisodesBounded s.shared.breaker.config.halfOpenMaxRequests s.shared.log

lemma sound_start (cfg : CircuitBreakerConfig) (clo : ℕ) :
  (start cfg clo : BreakerRace n).Sound where
 shared :=
  { past := fun _ h => absurd h List.not_mem_nil
    clear := fun _ _ h => absurd h List.not_mem_nil
    episode := iff_of_false Bool.noConfusion noConfusion
    late := trivial }
 seen := fun _ => le_rfl
 knows := fun _ => trivial
 stamped := fun _ _ h => absurd h List.not_mem_nil
 probes := fun k hk => absurd hk (some_ne_none k).symm
 episodes := trivial

variable {s : BreakerRace n} {t : Fin n}

lemma fresh_of_undisturbed (ho : undisturbed s (.run t) = true) : (s.threads t).Fresh s.shared := by
 unfold BreakerThread.Fresh
 cases hp : (s.threads t).pc <;> simp only [undisturbed,hp,decide_eq_true_eq] at ho
 case allowExchange => exact fun h => (ho h).1
 case allowTakePermit => exact fun h => (ho h).1
 case successClose => exact ho
 case failureStoreLast => exact ho
 all_goals trivial

lemma exists_thread_iff (p : BreakerThread → Prop) (thr : Fin n → BreakerThread) (t : Fin n) :
  (∃ t', p (thr t')) ↔ (∃ t' ≠ t, p (thr t')) ∨ p (thr t) := by
 constructor
 · rintro ⟨t',h⟩
   by_cases ht : t' = t
   · exact Or.inr (ht ▸ h)
   · exact Or.inl ⟨t',ht,h⟩
 · rintro (⟨t',-,h⟩ | h)
   · exact ⟨t',h⟩
   · exact ⟨t,h⟩

section
variable (hso : s.Sound)
include hso

lemma Sound.stamped_of_update {c : BreakerThread} (hb : (s.threads t).stamping = false)
  (ha : ∀ t', (Function.update s.threads t c t').stamping = false) :
  ∀ t₀ ∈ tripTimes s.shared.log, t₀ ≤ s.shared.breaker.lastFailureMs := by
 have ho := ((forall_update_iff _ fun _ (c : BreakerThread) => c.stamping = false).mp ha).2
 refine hso.stamped fun t' => ?_
 by_cases ht : t' = t
 · rw [ht,hb]
 · exact ho t' ht

lemma sound_call (t : Fin n) (call : BreakerCall) : (s.step (.call t call)).Sound := by
 simp only [step]
 split_ifs with hid
 · have ht : (s.threads t).stamping = false := by rw [BreakerThread.stamping,hid]
   have hse : (s.threads t).settingUp = false := by rw [BreakerThread.settingUp,hid]
   refine ⟨hso.shared,?_,?_,?_,?_,hso.episodes⟩
   · exact (forall_update_iff _ fun _ (c : BreakerThread) => c.seen ≤ _).mpr
      ⟨hso.seen t,fun t' _ => hso.seen t'⟩
   · exact (forall_update_iff _ fun _ (c : BreakerThread) => c.Knows _).mpr
      ⟨trivial,fun t' _ => hso.knows t'⟩
   · exact hso.stamped_of_update ht
   · have hb : (∃ t', (Function.update s.threads t
       ⟨.loadState call,(s.threads t).seen⟩ t').settingUp = true) ↔
       ∃ t', (s.threads t').settingUp = true := by
      rw [exists_update_iff _ fun _ (c : BreakerThread) => c.settingUp = true,
       exists_thread_iff (·.settingUp = true) s.threads t,hse,or_comm]
      rfl
     rw [hb]
     exact hso.probes
 · exact hso

lemma probesBounded_run (hk : undisturbed s (.run t) = true) :
  (atomicStep s.shared (s.threads t)).1.ProbesBounded ((∃ t' ≠ t, (s.threads t').settingUp = true) ∨
    (atomicStep s.shared (s.threads t)).2.settingUp = true) := by
 refine (atomicStep_effect s.shared (s.threads t)).probesBounded hso.shared ?_ ?_ ?_
 · intro hc ho
   simp only [undisturbed,hc,decide_eq_true_eq] at hk
   exact (hk ho).2
 · rintro hc hp ⟨t',-,hse⟩
   simp only [undisturbed,hc,decide_eq_true_eq] at hk
   exact Bool.noConfusion (((hk hp).2 t').symm.trans hse)
 · rw [← exists_thread_iff (·.settingUp = true)]
   exact hso.probes

lemma sound_run (ho : undisturbed s (.run t) = true) : (s.step (.run t)).Sound := by
 have heff := atomicStep_effect s.shared (s.threads t)
 have hx := heff.extends
 have hf := fresh_of_undisturbed ho
 have ht : ∀ nowMs, (s.threads t).pc = .allowLoadLast nowMs →
   ∀ t₀ ∈ tripTimes s.shared.log, t₀ ≤ s.shared.breaker.lastFailureMs := by
  intro nowMs hc
  simp only [undisturbed,hc,decide_eq_true_eq] at ho
  exact hso.stamped ho
 obtain ⟨hse,hk⟩ := knows_atomicStep hso.shared (hso.seen t) (hso.knows t) ht
 have hp := probesBounded_run hso ho
 refine ⟨heff.sound hso.shared (hso.knows t) hf,?_,?_,?_,?_,?_⟩
 · refine (forall_update_iff _ fun _ (c : BreakerThread) => c.seen ≤ _).mpr
    ⟨hse,fun t' _ => (hso.seen t').trans ?_⟩
   rcases hx.trips with hq | hl
   · exact (congrArg List.length hq).ge
   · exact hl.le
 · exact (forall_update_iff _ fun _ (c : BreakerThread) => c.Knows _).mpr
    ⟨hk,fun t' _ => (hso.knows t').extends (hso.seen t') hx⟩
 · intro hn
   have hdo := ((forall_update_iff _ fun _ (c : BreakerThread) => c.stamping = false).mp hn).1
   exact heff.stamped (hso.knows t) hf hdo fun hb => hso.stamped_of_update hb hn
 · have hu := exists_update_iff s.threads (a := t) (b := (atomicStep s.shared (s.threads t)).2)
    fun _ (c : BreakerThread) => c.settingUp = true
   rw [or_comm] at hu
   rw [← hu] at hp
   exact hp
 · have hep := heff.episodes hp hso.episodes
   rw [← hx.config] at hep
   exact hep

lemma sound_elapse (ms : ℕ) : (s.step (.elapse ms)).Sound := by
 have hx : s.shared.Extends (s.step (.elapse ms)).shared := ⟨Nat.le_add_right _ _,rfl,Or.inl rfl⟩
 refine ⟨⟨?_,?_,hso.shared.episode,hso.shared.late⟩,hso.seen,?_,hso.stamped,
  hso.probes,hso.episodes⟩
 · exact fun t₀ ht₀ => (hso.shared.past t₀ ht₀).trans hx.clock
 · exact fun hh => (hso.shared.clear hh).extends hx rfl
 · exact fun t => (hso.knows t).extends (hso.seen t) hx

lemma sound_step (i : RaceStep n) (ho : undisturbed s i = true) : (s.step i).Sound := by
 cases i with
 | call t call => exact sound_call hso t call
 | run t => exact sound_run hso ho
 | elapse ms => exact sound_elapse hso ms

end

lemma config_step (s : BreakerRace n) (i : RaceStep n) :
  (s.step i).shared.breaker.config = s.shared.breaker.config := by
 cases i with
 | call t call =>
  simp only [step]
  split_ifs <;> rfl
 | run t => exact (atomicStep_effect s.shared (s.threads t)).extends.config
 | elapse ms => rfl

end BreakerRace

/-- The bounds hold throughout every interleaving in which no operation is disturbed. -/
theorem bounds_of_undisturbed {n : ℕ} (config : CircuitBreakerConfig) (clock : ℕ)
  (steps : List (RaceStep n))
  (hok : Along BreakerRace.step (fun s i => undisturbed s i = true)
   (BreakerRace.start config clock) steps) : BoundsThroughout config clock steps := by
 intro k
 have hn := @invariant_take_of_along _ _ BreakerRace.step _
  (fun s : BreakerRace n => s.Sound ∧ s.shared.breaker.config = config)
  (fun s i hs hi => ⟨BreakerRace.sound_step hs.1 i hi,(s.config_step i).trans hs.2⟩)
  _ ⟨BreakerRace.sound_start config clock,rfl⟩ _ hok k
 obtain ⟨hsound,hc⟩ := hn
 have hl := hsound.shared.late
 have hp := hsound.episodes
 rw [hc] at hl hp
 exact ⟨hl,hp⟩

def touchyBreaker : CircuitBreakerConfig := { failureThreshold := 1 }

def orderlyProbe : List (RaceStep 3) :=
 [.call 0 .recordFailure,.run 0,.run 0,.run 0,.call 1 .allowRequest,.run 1,.run 0,.run 0,
  .run 1,.run 1,.elapse 30000,.call 1 .allowRequest,.call 2 .allowRequest,.run 1,.run 2,
  .run 1,.run 2,.run 1,.run 2,.run 1,.run 2,.run 1,.run 1]

theorem orderly_probe_bounded : BoundsThroughout touchyBreaker 100000 orderlyProbe :=
 bounds_of_undisturbed touchyBreaker 100000 orderlyProbe (by decide +kernel)

/-- The circuit is open and the time of the failure not yet stored when another thread reads it. -/
def hastyProbe : List (RaceStep 2) :=
 [.call 0 .recordFailure,.run 0,.run 0,.run 0,.call 1 .allowRequest,.run 1,.run 1,.run 1, .run 1]

/-- A request is admitted in the millisecond in which the circuit trips. -/
theorem hasty_probe_admitted : ¬ BoundsThroughout touchyBreaker 100000 hastyProbe := by
 intro hb
 have hl : (BreakerRace.run touchyBreaker 100000 (hastyProbe.take 9)).shared.log =
   [.admitted 100000,.halfOpened,.tripped 100000] := by decide +kernel
 have ha := (hb 9).late
 have hea : 100000+touchyBreaker.openDuration ≤ 100000 := ha.1 100000 List.mem_cons_self
 exact absurd hea (by decide)

end NovaEdge.Dataplane
