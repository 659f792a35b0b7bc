import NovaEdge.KeyedMapCollect
import NovaEdge.KeyedMapPatch
import NovaEdge.ProxyHandler
import NovaEdge.TransitionSystem

/-! Outlier detection of a cluster: backends are ejected for a while after consecutive failures or
by a sweep over success rates, but only so many at once. Times are milliseconds of a clock that does
not go back; percentages are exact. -/
namespace NovaEdge.Dataplane
open KeyedMap List Option

structure OutlierConfig where
 consecutiveErrors : UInt32 := 5
 ejectionDuration : ℕ := 30000
 maxEjectionPercent : ℚ := 50
 srMinHosts : UInt32 := 5
 srMinRequests : UInt32 := 100
 srStdevFactor : Float := 1.9

def outlierConfig : Option ClusterState → OutlierConfig
 | some c =>
  { consecutiveErrors := if 0 < c.outlierConsecutive5xx then c.outlierConsecutive5xx else 5
    ejectionDuration :=
     if 0 < c.outlierEjectionDurationMs then c.outlierEjectionDurationMs.toNat else 30000
    maxEjectionPercent :=
     if 0 < c.outlierMaxEjectionPct then (c.outlierMaxEjectionPct.toNat : ℚ) else 50
    srMinHosts := if 0 < c.outlierSrMinHosts then c.outlierSrMinHosts else 5
    srMinRequests := if 0 < c.outlierSrMinRequests then c.outlierSrMinRequests else 100
    srStdevFactor := if 0 < c.outlierSrStdevFactor then c.outlierSrStdevFactor else 1.9 }
 | none => {}

/-- The count of consecutive errors wraps around; the others are only compared and divided. -/
structure BackendStats where
 consecutiveErrors : UInt32 := 0
 ejectedUntil : Option ℕ := none
 (totalRequests totalErrors : ℕ := 0)

def BackendStats.ejectedAt (now : ℕ) (s : BackendStats) : Bool := s.ejectedUntil.any (now < ·)

abbrev OutlierStats := KeyedMap SocketAddr BackendStats

namespace OutlierStats

def tracked (stats : OutlierStats) : ℕ := stats.values.length

def ejectedCount (stats : OutlierStats) (now : ℕ) : ℕ := stats.values.countP (·.ejectedAt now)

def isEjected (stats : OutlierStats) (now : ℕ) (addr : SocketAddr) : Bool :=
 (stats.find? addr).any (·.ejectedAt now)

def entry (stats : OutlierStats) (addr : SocketAddr) : BackendStats := (stats.find? addr).getD {}

end OutlierStats

open OutlierStats

/-- The whole part of the percentage, and at least one. A negative one is cast to zero. -/
def maxEjectable (percent : ℚ) (total : ℕ) : ℕ := max ⌊(total : ℚ)*percent / 100⌋.toNat 1

def recordSuccess (stats : OutlierStats) (addr : SocketAddr) : OutlierStats :=
 let e := entry stats addr
 stats.set addr { e with consecutiveErrors := 0, totalRequests := e.totalRequests+1 }

def failedEntry (stats : OutlierStats) (addr : SocketAddr) : BackendStats :=
 let e := entry stats addr
 { e with
   consecutiveErrors := e.consecutiveErrors+1
   totalRequests := e.totalRequests+1
   totalErrors := e.totalErrors+1 }

def recordFailure (config : OutlierConfig) (now : ℕ) (stats : OutlierStats) (addr : SocketAddr) :
  OutlierStats :=
 -- the length is taken before the entry is made
 let totalBackends := max (tracked stats) 1
 let e := failedEntry stats addr
 let counted := stats.set addr e
 if config.consecutiveErrors ≤ e.consecutiveErrors ∧ e.ejectedUntil = none then
  if ejectedCount counted now < maxEjectable config.maxEjectionPercent totalBackends then
   counted.set addr { e with ejectedUntil := some (now+config.ejectionDuration) }
  else counted
 else counted

def successRates (config : OutlierConfig) (now : ℕ) (order : List (SocketAddr × BackendStats)) :
  List (SocketAddr × Float) :=
 order.filterMap fun p =>
  if p.2.ejectedAt now then none
  else if config.srMinRequests.toNat ≤ p.2.totalRequests then
   some (p.1,if 0 < p.2.totalRequests then
    Float.ofNat (p.2.totalRequests - p.2.totalErrors) / Float.ofNat p.2.totalRequests else 1)
  else none

def ejectionThreshold (config : OutlierConfig) (rates : List (SocketAddr × Float)) : Float :=
 let count := Float.ofNat rates.length
 let mean := (rates.map Prod.snd).foldl (· + ·) 0 / count
 let variance := (rates.map fun r => (r.2 - mean)*(r.2 - mean)).foldl (· + ·) 0 / count
 mean - config.srStdevFactor*variance.sqrt

def ejectBelow (config : OutlierConfig) (now limit : ℕ) (threshold : Float)
  (acc : OutlierStats × ℕ) (r : SocketAddr × Float) : OutlierStats × ℕ :=
 if r.2 < threshold ∧ acc.2 < limit then
  match acc.1.find? r.1 with
  | some e =>
   if e.ejectedAt now then acc
   else
    (acc.1.set r.1 { e with ejectedUntil := some (now+config.ejectionDuration) },acc.2+1)
  | none => acc
 else acc

def resetCounters (stats : OutlierStats) : OutlierStats :=
 putWhere (fun _ => true) (fun s => { s with totalRequests := 0, totalErrors := 0 }) stats stats

def sweepSuccessRate (config : OutlierConfig) (now : ℕ) (order : List (SocketAddr × BackendStats))
  (stats : OutlierStats) : OutlierStats :=
 let rates := successRates config now order
 let swept :=
  if config.srMinHosts.toNat ≤ rates.length ∧ rates ≠ [] then
   let limit := maxEjectable config.maxEjectionPercent (max (tracked stats) 1)
   (rates.foldl (ejectBelow config now limit (ejectionThreshold config rates))
    (stats,ejectedCount stats now)).1
  else stats
 resetCounters swept

inductive OutlierCall
 | success (addr : SocketAddr)
 | failure (addr : SocketAddr)
 | sweep (order : List (SocketAddr × BackendStats))
 | elapse (ms : ℕ)

structure OutlierRun where
 stats : OutlierStats
 now : ℕ
 history : List OutlierCall

namespace OutlierRun

def step (config : OutlierConfig) (r : OutlierRun) (call : OutlierCall) : OutlierRun :=
 match call with
 | .success addr => ⟨recordSuccess r.stats addr,r.now,call::r.history⟩
 | .failure addr => ⟨recordFailure config r.now r.stats addr,r.now,call::r.history⟩
 | .sweep order => ⟨sweepSuccessRate config r.now order r.stats,r.now,call::r.history⟩
 | .elapse ms => ⟨r.stats,r.now+ms,call::r.history⟩

def Reads (r : OutlierRun) : OutlierCall → Prop
 | .sweep order => order.Perm r.stats.pairs
 | _ => True

end OutlierRun

def outlierSystem (config : OutlierConfig) : TransitionSystem OutlierRun OutlierCall :=
 (TransitionSystem.ofFun (fun r => r.stats = ∅ ∧ r.history = []) (OutlierRun.step config)).restrict
  OutlierRun.Reads

def errorStreak (addr : SocketAddr) : List OutlierCall → ℕ
 | [] => 0
 | .success a::history => if a = addr then 0 else errorStreak addr history
 | .failure a::history => if a = addr then errorStreak addr history+1 else errorStreak addr history
 | .sweep _::history => errorStreak addr history
 | .elapse _::history => errorStreak addr history

lemma maxEjectable_mono (per : ℚ) {tot tot' : ℕ} (hl : tot ≤ tot') :
  maxEjectable per tot ≤ maxEjectable per tot' := by
 unfold maxEjectable
 by_cases hn : per ≤ 0
 · -- then nothing is above the minimum of one
   have hz : ⌊(tot : ℚ)*per / 100⌋.toNat = 0 := by
    rw [Int.toNat_eq_zero]
    have hl : (tot : ℚ)*per / 100 ≤ 0 := by
     apply div_nonpos_of_nonpos_of_nonneg _ (by norm_num)
     exact mul_nonpos_of_nonneg_of_nonpos (Nat.cast_nonneg _) hn
    exact Int.floor_nonpos hl
   omega
 · have hp : 0 ≤ per := le_of_lt (not_le.mp hn)
   have hf : ⌊(tot : ℚ)*per / 100⌋ ≤ ⌊(tot' : ℚ)*per / 100⌋ := by
    apply Int.floor_mono
    gcongr
   have := Int.toNat_le_toNat hf
   omega

section
variable (sts : OutlierStats) (addr : SocketAddr) (e : BackendStats)

lemma tracked_set : tracked (sts.set addr e)+(sts.find? addr).isSome.toNat = tracked sts+1 := by
 have hc := countP_values_set sts addr e fun _ => true
 simp only [countP_true,Bool.toNat_true] at hc
 rw [tracked,tracked,← hc]
 cases sts.find? addr <;> rfl

lemma tracked_le_set : max (tracked sts) 1 ≤ tracked (sts.set addr e) := by
 have hse := tracked_set sts addr e
 cases hf : sts.find? addr with
 | none =>
  rw [hf,isSome_none,Bool.toNat_false] at hse
  omega
 | some old =>
  rw [hf,isSome_some,Bool.toNat_true] at hse
  have hm : old ∈ sts.values := mem_values_iff.mpr ⟨addr,hf⟩
  have hp : 0 < tracked sts := length_pos_of_mem hm
  omega

lemma ejectedCount_set (now : ℕ) :
  ejectedCount (sts.set addr e) now+(isEjected sts now addr).toNat =
   ejectedCount sts now+(e.ejectedAt now).toNat :=
 countP_values_set sts addr e (·.ejectedAt now)

lemma ejectedCount_set_of_eq {now : ℕ} (ha : e.ejectedAt now = isEjected sts now addr) :
  ejectedCount (sts.set addr e) now = ejectedCount sts now := by
 have hse := ejectedCount_set sts addr e now
 rw [ha] at hse
 omega

lemma ejectedCount_set_le (now : ℕ) :
  ejectedCount (sts.set addr e) now ≤ ejectedCount sts now+1 := by
 have hse := ejectedCount_set sts addr e now
 have hl := Bool.toNat_le (e.ejectedAt now)
 omega

lemma ejectedAt_entry (now : ℕ) : (entry sts addr).ejectedAt now = isEjected sts now addr := by
 unfold entry isEjected
 cases sts.find? addr <;> rfl

end

lemma ejectedCount_le_tracked (sts : OutlierStats) (now : ℕ) : ejectedCount sts now ≤ tracked sts :=
 countP_le_length

lemma ejectedCount_elapse (sts : OutlierStats) {now now' : ℕ} (hle : now ≤ now') :
  ejectedCount sts now' ≤ ejectedCount sts now := by
 refine countP_mono_left fun s _ hs => ?_
 obtain ⟨t,ht,hl⟩ := (any_eq_true _ _).mp hs
 refine (any_eq_true _ _).mpr ⟨t,ht,?_⟩
 rw [decide_eq_true_eq] at hl ⊢
 omega

def CapHolds (config : OutlierConfig) (stats : OutlierStats) (now : ℕ) : Prop :=
 ejectedCount stats now ≤ max 1 ⌊(tracked stats : ℚ)*config.maxEjectionPercent / 100⌋.toNat

lemma capHolds_iff {cfg : OutlierConfig} {sts : OutlierStats} {now : ℕ} : CapHolds cfg sts now ↔
   ejectedCount sts now ≤ maxEjectable cfg.maxEjectionPercent (tracked sts) := by
 rw [CapHolds,maxEjectable,max_comm]

section
variable {cfg : OutlierConfig} {stats : OutlierStats} {now : ℕ}

lemma CapHolds.set {addr : SocketAddr} {e : BackendStats} (hc : CapHolds cfg stats now)
  (ha : e.ejectedAt now = isEjected stats now addr) : CapHolds cfg (stats.set addr e) now := by
 rw [capHolds_iff] at hc ⊢
 rw [ejectedCount_set_of_eq stats addr e ha]
 have ht := tracked_le_set stats addr e
 exact hc.trans (maxEjectable_mono _ (by omega))

lemma CapHolds.recordSuccess (hc : CapHolds cfg stats now) (addr : SocketAddr) :
  CapHolds cfg (recordSuccess stats addr) now :=
 hc.set (ejectedAt_entry stats addr now)

lemma ejectedAt_failedEntry (sts : OutlierStats) (addr : SocketAddr) (now : ℕ) :
  (failedEntry sts addr).ejectedAt now = isEjected sts now addr :=
 ejectedAt_entry sts addr now

lemma CapHolds.recordFailure (ha : CapHolds cfg stats now) (addr : SocketAddr) :
  CapHolds cfg (recordFailure cfg now stats addr) now := by
 have hc := ha.set (ejectedAt_failedEntry stats addr now)
 simp only [Dataplane.recordFailure]
 split_ifs with hu hr
 · rw [capHolds_iff]
   let ejected : BackendStats :=
    { failedEntry stats addr with ejectedUntil := some (now+cfg.ejectionDuration) }
   have ho := ejectedCount_set_le (stats.set addr (failedEntry stats addr)) addr ejected now
   have ht := tracked_le_set stats addr (failedEntry stats addr)
   have ht' := tracked_le_set (stats.set addr (failedEntry stats addr)) addr ejected
   refine ho.trans (le_trans hr (maxEjectable_mono _ ?_))
   exact ht.trans ((le_max_left _ _).trans ht')
 · exact hc
 · exact hc

/-- The ejection loop counts at least the backends that are ejected, stays within the limit and
tracks no new backend. -/
structure LoopBounded (now limit total : ℕ) (acc : OutlierStats × ℕ) : Prop where
 counted : ejectedCount acc.1 now ≤ acc.2
 within : acc.2 ≤ limit
 tracked : tracked acc.1 = total

lemma LoopBounded.ejectBelow {lim tot : ℕ} {acc : OutlierStats × ℕ}
  (hl : LoopBounded now lim tot acc) (th : Float) (r : SocketAddr × Float) :
  LoopBounded now lim tot (ejectBelow cfg now lim th acc r) := by
 unfold Dataplane.ejectBelow
 split_ifs with hb
 · cases hf : acc.1.find? r.1 with
   | none => exact hl
   | some e =>
    dsimp only
    split_ifs with hj
    · exact hl
    · have hc := ejectedCount_set_le acc.1 r.1
       { e with ejectedUntil := some (now+cfg.ejectionDuration) } now
      have ht := tracked_set acc.1 r.1
       { e with ejectedUntil := some (now+cfg.ejectionDuration) }
      rw [hf,isSome_some,Bool.toNat_true,hl.tracked] at ht
      exact ⟨hc.trans (Nat.succ_le_succ hl.counted),hb.2,Nat.add_right_cancel ht⟩
 · exact hl

lemma LoopBounded.foldl {lim tot : ℕ} {acc : OutlierStats × ℕ}
  (hl : LoopBounded now lim tot acc) (th : Float) (rat : List (SocketAddr × Float)) :
  LoopBounded now lim tot (rat.foldl (Dataplane.ejectBelow cfg now lim th) acc) := by
 induction rat generalizing acc with
 | nil => exact hl
 | cons r rat ih => exact ih (hl.ejectBelow th r)

lemma find?_resetCounters (sts : OutlierStats) (addr : SocketAddr) :
  (resetCounters sts).find? addr =
   (sts.find? addr).map fun s => { s with totalRequests := 0, totalErrors := 0 } := by
 rw [resetCounters,find?_putWhere]
 cases sts.find? addr <;> rfl

lemma countP_resetCounters (sts : OutlierStats) {p : BackendStats → Bool}
  (hp : ∀ s : BackendStats, p { s with totalRequests := 0, totalErrors := 0 } = p s) :
  (resetCounters sts).values.countP p = sts.values.countP p := by
 rw [values_eq_map_pairs,values_eq_map_pairs,countP_map,countP_map]
 refine countP_pairs_congr fun addr => ?_
 rw [find?_resetCounters]
 cases sts.find? addr with
 | none => simp
 | some s => simp [hp]

lemma CapHolds.sweepSuccessRate (hc : CapHolds cfg stats now)
  (ord : List (SocketAddr × BackendStats)) :
  CapHolds cfg (sweepSuccessRate cfg now ord stats) now := by
 have hr : ∀ swept : OutlierStats, CapHolds cfg swept now →
   CapHolds cfg (resetCounters swept) now := by
  intro swept hw
  have hj := countP_resetCounters swept (p := (·.ejectedAt now)) fun _ => rfl
  have ht := countP_resetCounters swept (p := fun _ => true) fun _ => rfl
  rw [countP_true] at ht
  unfold CapHolds ejectedCount tracked at hw ⊢
  rwa [hj,ht]
 apply hr
 rw [capHolds_iff] at hc
 split_ifs with hn
 · let rates := successRates cfg now ord
   let limit := maxEjectable cfg.maxEjectionPercent (max (tracked stats) 1)
   have hli : ejectedCount stats now ≤ limit := hc.trans (maxEjectable_mono _ (le_max_left _ _))
   have hst : LoopBounded now limit (tracked stats) (stats,ejectedCount stats now) :=
    ⟨le_rfl,hli,rfl⟩
   have hl := @LoopBounded.foldl cfg now _ _ _ hst (ejectionThreshold cfg rates) rates
   have ho := hl.counted.trans hl.within
   have ht := ejectedCount_le_tracked
    (rates.foldl (Dataplane.ejectBelow cfg now limit (ejectionThreshold cfg rates))
     (stats,ejectedCount stats now)).1 now
   rw [hl.tracked] at ht
   rw [capHolds_iff,hl.tracked]
   -- the limit is that of the map itself unless the map is empty
   by_cases hm : tracked stats = 0
   · exact (ht.trans hm.le).trans (Nat.zero_le _)
   · have ha : max (tracked stats) 1 = tracked stats := max_eq_left (Nat.one_le_iff_ne_zero.mpr hm)
     exact ho.trans (congrArg (maxEjectable cfg.maxEjectionPercent) ha).le
 · exact capHolds_iff.mpr hc

end

/-- The cap holds after every history of calls and of passing time. -/
theorem ejection_cap_holds {config : OutlierConfig} {r : OutlierRun}
  (hreach : (outlierSystem config).Reachable r) : CapHolds config r.stats r.now := by
 refine @TransitionSystem.Reachable.invariant _ _ _ (fun r => CapHolds config r.stats r.now)
  ?_ ?_ _ hreach
 · rintro r ⟨hm,-⟩
   rw [hm]
   exact Nat.zero_le _
 · rintro r call r' hc ⟨rfl,-⟩
   cases call with
   | success addr => exact hc.recordSuccess addr
   | failure addr => exact hc.recordFailure addr
   | sweep order => exact hc.sweepSuccessRate order
   | elapse ms => exact (ejectedCount_elapse r.stats (Nat.le_add_right _ _)).trans hc

def OutlierRun.fresh : OutlierRun := ⟨∅,0,[]⟩

def OutlierRun.after (config : OutlierConfig) (calls : List OutlierCall) : OutlierRun :=
 calls.foldl (OutlierRun.step config) .fresh

lemma reachable_after {cfg : OutlierConfig} {cs : List OutlierCall}
  (hr : Along (OutlierRun.step cfg) OutlierRun.Reads .fresh cs) :
  (outlierSystem cfg).Reachable (.after cfg cs) :=
 TransitionSystem.Reachable.foldl (T := outlierSystem cfg) (.start ⟨rfl,rfl⟩) hr
  fun _ _ hrd => ⟨rfl,hrd⟩

def failingBackend : List OutlierCall :=
 .success ("10.0.0.2",80)::List.replicate 5 (.failure ("10.0.0.1",80))

def sweptBackends : List OutlierCall :=
 failingBackend ++ [.sweep (OutlierRun.after {} failingBackend).stats.pairs]

theorem swept_backends_within_cap :
  CapHolds {} (OutlierRun.after {} sweptBackends).stats (OutlierRun.after {} sweptBackends).now :=
 ejection_cap_holds (@reachable_after {} sweptBackends ⟨trivial,trivial,trivial,trivial,
  trivial,trivial,List.Perm.refl _,trivial⟩)

section
variable (cfg : OutlierConfig) (sts : OutlierStats)

lemma entry_set (a addr : SocketAddr) (e : BackendStats) :
  entry (sts.set a e) addr = if addr = a then e else entry sts addr := by
 rw [entry,find?_set]
 split_ifs <;> rfl

lemma consecutiveErrors_recordFailure (now : ℕ) (a addr : SocketAddr) :
  (entry (recordFailure cfg now sts a) addr).consecutiveErrors =
   if addr = a then (entry sts a).consecutiveErrors+1
   else (entry sts addr).consecutiveErrors := by
 simp only [recordFailure]
 split_ifs <;> simp only [entry_set] <;> split_ifs <;> rfl

lemma consecutiveErrors_ejectBelow (now lim : ℕ) (th : Float) (acc : OutlierStats × ℕ)
  (r : SocketAddr × Float) (addr : SocketAddr) :
  (entry (ejectBelow cfg now lim th acc r).1 addr).consecutiveErrors =
   (entry acc.1 addr).consecutiveErrors := by
 unfold ejectBelow
 split_ifs with hb
 · cases hf : acc.1.find? r.1 with
   | none => rfl
   | some e =>
    dsimp only
    split_ifs with hj
    · rfl
    · rw [entry_set]
      split_ifs with ha
      · rw [ha,entry,hf]
        rfl
      · rfl
 · rfl

lemma consecutiveErrors_sweep (now : ℕ) (ord : List (SocketAddr × BackendStats))
  (addr : SocketAddr) : (entry (sweepSuccessRate cfg now ord sts) addr).consecutiveErrors =
   (entry sts addr).consecutiveErrors := by
 have hr : ∀ swept : OutlierStats, (entry (resetCounters swept) addr).consecutiveErrors =
   (entry swept addr).consecutiveErrors := by
  intro swept
  rw [entry,entry,find?_resetCounters]
  cases swept.find? addr <;> rfl
 have hl : ∀ (lim : ℕ) (th : Float) (rates : List (SocketAddr × Float)) (acc : OutlierStats × ℕ),
   (entry (rates.foldl (ejectBelow cfg now lim th) acc).1 addr).consecutiveErrors =
    (entry acc.1 addr).consecutiveErrors := by
  intro lim th rates
  induction rates with
  | nil => exact fun _ => rfl
  | cons r rates ih =>
   intro acc
   exact (ih _).trans (consecutiveErrors_ejectBelow cfg now lim th acc r addr)
 rw [sweepSuccessRate,hr]
 split_ifs
 · exact hl _ _ _ _
 · rfl

end

/-- The count of an entry is that of the history, in 32 bits. -/
lemma consecutiveErrors_eq_errorStreak {cfg : OutlierConfig} {r : OutlierRun}
  (hr : (outlierSystem cfg).Reachable r) (addr : SocketAddr) :
  (entry r.stats addr).consecutiveErrors = UInt32.ofNat (errorStreak addr r.history) := by
 refine @TransitionSystem.Reachable.invariant _ _ _ (fun r =>
  (entry r.stats addr).consecutiveErrors = UInt32.ofNat (errorStreak addr r.history))
  ?_ ?_ _ hr
 · rintro r ⟨hm,hn⟩
   rw [hm,hn]
   rfl
 · rintro r call r' hc ⟨rfl,-⟩
   cases call with
   | success a =>
    simp only [OutlierRun.step,recordSuccess,entry_set,errorStreak,eq_comm (a := a)]
    split_ifs
    · rfl
    · exact hc
   | failure a =>
    simp only [OutlierRun.step,consecutiveErrors_recordFailure,errorStreak,eq_comm (a := a)]
    split_ifs with ha
    · rw [← ha,hc,UInt32.ofNat_add]
      rfl
    · exact hc
   | sweep order => exact (consecutiveErrors_sweep cfg r.stats r.now order addr).trans hc
   | elapse ms => exact hc

/-- The room is that of the backends tracked before the failure. -/
structure EjectionDue (config : OutlierConfig) (r : OutlierRun) (addr : SocketAddr) : Prop where
 present : isEjected r.stats r.now addr = false
 reached : config.consecutiveErrors.toNat ≤ errorStreak addr (.failure addr::r.history)
 room : ejectedCount r.stats r.now <
  max 1 ⌊(tracked r.stats : ℚ)*config.maxEjectionPercent / 100⌋.toNat

def EjectsWhenDue (config : OutlierConfig) (r : OutlierRun) (addr : SocketAddr) : Prop :=
 EjectionDue config r addr → isEjected (recordFailure config r.now r.stats addr) r.now addr = true

lemma isEjected_recordFailure_iff {cfg : OutlierConfig} {sts : OutlierStats} {now : ℕ}
  {addr : SocketAddr} (hp : isEjected sts now addr = false)
  (hr : ejectedCount sts now < maxEjectable cfg.maxEjectionPercent (tracked sts)) :
  isEjected (recordFailure cfg now sts addr) now addr = true ↔
   (entry sts addr).ejectedUntil = none ∧ 0 < cfg.ejectionDuration ∧
    cfg.consecutiveErrors ≤ (entry sts addr).consecutiveErrors+1 := by
 have hc : ejectedCount (sts.set addr (failedEntry sts addr)) now <
   maxEjectable cfg.maxEjectionPercent (max (tracked sts) 1) := by
  rw [ejectedCount_set_of_eq sts addr _ (ejectedAt_failedEntry sts addr now)]
  exact hr.trans_le (maxEjectable_mono _ (le_max_left _ _))
 have hk : isEjected (sts.set addr (failedEntry sts addr)) now addr = false := by
  rw [isEjected,find?_set_self]
  exact (ejectedAt_failedEntry sts addr now).trans hp
 simp only [recordFailure]
 by_cases hu : cfg.consecutiveErrors ≤ (failedEntry sts addr).consecutiveErrors ∧
   (failedEntry sts addr).ejectedUntil = none
 · rw [if_pos hu,if_pos hc,isEjected,find?_set_self]
   have hl : (Option.any (·.ejectedAt now) (some { failedEntry sts addr with
     ejectedUntil := some (now+cfg.ejectionDuration) })) = true ↔
      0 < cfg.ejectionDuration := by
    simp [BackendStats.ejectedAt]
   rw [hl]
   exact ⟨fun ho => ⟨hu.2,ho,hu.1⟩,fun h => h.2.1⟩
 · rw [if_neg hu,hk]
   exact iff_of_false Bool.noConfusion fun h => hu ⟨h.2.2,h.1⟩

/-- The backend never was ejected, ejections last, and the count has not wrapped around. -/
theorem ejects_when_due_iff {config : OutlierConfig} {r : OutlierRun}
  (hreach : (outlierSystem config).Reachable r) (addr : SocketAddr) :
  EjectsWhenDue config r addr ↔ (EjectionDue config r addr →
    (entry r.stats addr).ejectedUntil = none ∧ 0 < config.ejectionDuration ∧
     config.consecutiveErrors.toNat ≤ (errorStreak addr r.history+1) % 2 ^ 32) := by
 have hc : config.consecutiveErrors ≤ (entry r.stats addr).consecutiveErrors+1 ↔
   config.consecutiveErrors.toNat ≤ (errorStreak addr r.history+1) % 2 ^ 32 := by
  rw [consecutiveErrors_eq_errorStreak hreach,UInt32.le_iff_toNat_le,UInt32.toNat_add,
   UInt32.toNat_ofNat',UInt32.toNat_one,Nat.mod_add_mod]
 refine forall_congr' fun hu => ?_
 rw [isEjected_recordFailure_iff hu.present (by rw [maxEjectable,max_comm]; exact hu.room),hc]

theorem fifth_failure_ejects :
  EjectsWhenDue {} (.after {} (List.replicate 4 (.failure ("10.0.0.1",80)))) ("10.0.0.1",80) :=
 (ejects_when_due_iff (@reachable_after {} (List.replicate 4 (.failure ("10.0.0.1",80)))
  ⟨trivial,trivial,trivial,trivial,trivial⟩) _).mpr fun _ => by decide +kernel

def expiredEjection : List OutlierCall :=
 List.replicate 5 (.failure ("10.0.0.1",80)) ++ [.elapse 30000]

/-- The sixth failure, after the ejection has expired, does not eject the backend again. -/
theorem expired_backend_not_ejected :
  ¬ EjectsWhenDue {} (.after {} expiredEjection) ("10.0.0.1",80) := by
 intro hj
 have hu : EjectionDue {} (.after {} expiredEjection) ("10.0.0.1",80) :=
  ⟨by decide +kernel,by decide +kernel,by decide +kernel⟩
 exact absurd (hj hu) (by decide +kernel)

end NovaEdge.Dataplane
