import NovaEdge.CreditLedger
import NovaEdge.PolicyParameters
import NovaEdge.TransitionSystem

/-! The token buckets of a rate limiter, with exact rationals for its floating-point numbers and
times in seconds. A check first counts itself, which may sweep, and then takes a token under a lock
of its own, so that other calls may come in between. -/
namespace NovaEdge.Dataplane
open KeyedMap

def maxEntries : ℕ := 100000

def autoCleanupMaxAge : ℚ := 300

structure BucketState where
 (tokens lastRefill : ℚ)

structure TokenBucket where
 config : RateLimitConfig
 buckets : KeyedMap String BucketState := ∅
 checkCount : UInt64 := 0

open TokenBucket
inductive RateLimitResult where
 | allowed (remaining : ℕ) (limit : UInt32)
 | denied (retryAfter : ℕ)

/-- Without a rate the quotient is infinite and saturates. -/
def retryAfter (rate tokens : ℚ) : ℕ :=
 max 1 (if rate = 0 then 2 ^ 64 - 1 else min (2 ^ 64 - 1) ⌈(1 - tokens) / rate⌉.toNat)

namespace TokenBucket

def cleanup (limiter : TokenBucket) (now maxAge : ℚ) : TokenBucket :=
 { limiter with
   buckets := limiter.buckets.deleteIf fun e => e.2.lastRefill ≤ now - maxAge }

def countCheck (limiter : TokenBucket) (now : ℚ) : TokenBucket :=
 let counted := { limiter with checkCount := limiter.checkCount+1 }
 if limiter.checkCount % 1000 = 0 ∧ maxEntries < limiter.buckets.entries.length then
  counted.cleanup now autoCleanupMaxAge
 else counted

def refill (limiter : TokenBucket) (now : ℚ) (key : String) : ℚ :=
 let state := (limiter.buckets.find? key).getD ⟨limiter.config.burst.toNat,now⟩
 min (state.tokens+(now - state.lastRefill)*limiter.config.requestsPerSecond)
  limiter.config.burst.toNat

def put (limiter : TokenBucket) (key : String) (state : BucketState) : TokenBucket :=
 { limiter with buckets := limiter.buckets.set key state }

def take (limiter : TokenBucket) (now : ℚ) (key : String) : RateLimitResult × TokenBucket :=
 let tokens := limiter.refill now key
 if 1 ≤ tokens then
  (.allowed ⌊tokens - 1⌋.toNat limiter.config.burst,limiter.put key ⟨tokens - 1,now⟩)
 else
  (.denied (retryAfter limiter.config.requestsPerSecond tokens),limiter.put key ⟨tokens,now⟩)

end TokenBucket

structure LimiterRun where
 limiter : TokenBucket
 clock : ℚ := 0
 allowed : List (String × ℚ) := []

open LimiterRun
inductive LimiterStep where
 | elapse (d : ℚ≥0)
 | countCheck
 | take (key : String)
 | cleanup (maxAge : ℚ)

variable {lim : TokenBucket}

namespace LimiterRun

def step (s : LimiterRun) : LimiterStep → LimiterRun
 | .elapse d => { s with clock := s.clock+d }
 | .countCheck => { s with limiter := s.limiter.countCheck s.clock }
 | .take key =>
  match s.limiter.take s.clock key with
  | (.allowed _ _,limiter) => { s with limiter := limiter, allowed := (key,s.clock)::s.allowed }
  | (.denied _,limiter) => { s with limiter := limiter }
 | .cleanup maxAge => { s with limiter := s.limiter.cleanup s.clock maxAge }

def allowedIn (s : LimiterRun) (key : String) (a b : ℚ) : ℕ :=
 s.allowed.countP fun e => e.1 = key ∧ a ≤ e.2 ∧ e.2 ≤ b

/-- A step that drops the bucket of the key finds it full again. -/
def FullWhenDropped (key : String) (s : LimiterRun) (i : LimiterStep) : Prop :=
 ∀ b ∈ s.limiter.buckets.find? key, (s.step i).limiter.buckets.find? key = none →
  s.limiter.config.burst.toNat ≤
   b.tokens+(s.clock - b.lastRefill)*s.limiter.config.requestsPerSecond

instance (key : String) (s : LimiterRun) (i : LimiterStep) : Decidable (FullWhenDropped key s i) :=
 Option.decidableForallMem _

def ledger (s : LimiterRun) (key : String) : CreditLedger.Ledger ℚ :=
 ⟨s.clock,s.limiter.refill s.clock key,(s.allowed.filter fun e => e.1 = key).map Prod.snd⟩

structure Sane (config : RateLimitConfig) (key : String) (s : LimiterRun) : Prop where
 config_eq : s.limiter.config = config
 bucket : ∀ state, s.limiter.buckets.find? key = some state →
  0 ≤ state.tokens ∧ state.lastRefill ≤ s.clock

variable {s : LimiterRun} {key : String} {cfg : RateLimitConfig}

lemma refill_of_none (hn : lim.buckets.find? key = none) (now : ℚ) :
  lim.refill now key = lim.config.burst.toNat := by
 simp [refill,hn]

lemma refill_of_some {sta : BucketState} (ho : lim.buckets.find? key = some sta) (now : ℚ) :
  lim.refill now key = min (sta.tokens+(now - sta.lastRefill)*lim.config.requestsPerSecond)
    lim.config.burst.toNat := by
 simp [refill,ho]

lemma Sane.valid (h : s.Sane cfg key) (ha : 0 ≤ cfg.requestsPerSecond) :
  (s.ledger key).Valid (cfg.burst.toNat : ℚ) := by
 refine ⟨?_,h.config_eq ▸ min_le_right _ _⟩
 cases hf : s.limiter.buckets.find? key with
 | none =>
  rw [ledger,refill_of_none hf]
  exact Nat.cast_nonneg _
 | some sta =>
  obtain ⟨ht,hr⟩ := h.bucket sta hf
  rw [ledger,refill_of_some hf,h.config_eq]
  exact le_min (add_nonneg ht (mul_nonneg (sub_nonneg.mpr hr) ha)) (Nat.cast_nonneg _)

def Sweeps (key : String) (limiter limiter' : TokenBucket) : Prop :=
 limiter'.config = limiter.config ∧
  (limiter'.buckets.find? key = limiter.buckets.find? key ∨ limiter'.buckets.find? key = none)

lemma sweeps_cleanup (lim : TokenBucket) (now ma : ℚ) : Sweeps key lim (lim.cleanup now ma) := by
 refine ⟨rfl,?_⟩
 rw [cleanup,find?_deleteIf]
 cases lim.buckets.find? key with
 | none => exact .inl rfl
 | some state =>
  rw [Option.filter_some]
  split_ifs
  · exact .inl rfl
  · exact .inr rfl

lemma sweeps_countCheck (lim : TokenBucket) (now : ℚ) : Sweeps key lim (lim.countCheck now) := by
 unfold countCheck
 split_ifs
 · exact sweeps_cleanup { lim with checkCount := lim.checkCount+1 } now _
 · exact ⟨rfl,.inl rfl⟩

lemma Sane.of_sweeps (h : s.Sane cfg key)
  (hw : Sweeps key s.limiter lim) : Sane cfg key { s with limiter := lim } := by
 refine ⟨hw.1.trans h.config_eq,fun sta ht => ?_⟩
 rcases hw.2 with hk | hn
 · exact h.bucket sta (hk ▸ ht)
 · simp [hn] at ht

lemma ledger_of_sweeps (hw : Sweeps key s.limiter lim)
  (hf : ∀ b, s.limiter.buckets.find? key = some b → lim.buckets.find? key = none →
   s.limiter.config.burst.toNat ≤
    b.tokens+(s.clock - b.lastRefill)*s.limiter.config.requestsPerSecond) :
  ({ s with limiter := lim } : LimiterRun).ledger key = s.ledger key := by
 have hr : lim.refill s.clock key = s.limiter.refill s.clock key := by
  rcases hw.2 with hk | hn
  · simp only [refill,hk,hw.1]
  · rw [refill_of_none hn,hw.1]
    cases ht : s.limiter.buckets.find? key with
    | none => rw [refill_of_none ht]
    | some state => rw [refill_of_some ht,min_eq_right (hf state ht hn)]
 simp only [ledger,hr]

lemma refill_elapse_le (hr : 0 ≤ s.limiter.config.requestsPerSecond) {d : ℚ} (hd : 0 ≤ d) :
  s.limiter.refill (s.clock+d) key ≤
   s.limiter.refill s.clock key+s.limiter.config.requestsPerSecond*d := by
 have hg := mul_nonneg hr hd
 cases hf : s.limiter.buckets.find? key with
 | none =>
  rw [refill_of_none hf,refill_of_none hf]
  exact le_add_of_nonneg_right hg
 | some state =>
  rw [refill_of_some hf,refill_of_some hf,← min_add_add_right]
  refine min_le_min (le_of_eq ?_) (le_add_of_nonneg_right hg)
  ring

lemma step_take (s : LimiterRun) (key : String) :
  s.step (.take key) = if 1 ≤ s.limiter.refill s.clock key then
   ⟨s.limiter.put key ⟨s.limiter.refill s.clock key - 1,s.clock⟩,s.clock, (key,s.clock)::s.allowed⟩
  else ⟨s.limiter.put key ⟨s.limiter.refill s.clock key,s.clock⟩,s.clock,s.allowed⟩ := by
 simp only [step,take]
 split_ifs <;> rfl

lemma refill_put (lim : TokenBucket) {tok now : ℚ} (hl : tok ≤ lim.config.burst.toNat) :
  (lim.put key ⟨tok,now⟩).refill now key = tok := by
 rw [refill_of_some (find?_set_self _ key _)]
 simpa [put] using hl

lemma refill_put_ne (lim : TokenBucket) {key' : String} (hn : key ≠ key')
  (sta : BucketState) (now : ℚ) : (lim.put key' sta).refill now key = lim.refill now key := by
 simp only [refill,put,find?_set_ne _ _ hn]

lemma Sane.step (h : s.Sane cfg key) (hra : 0 ≤ cfg.requestsPerSecond) (i : LimiterStep) :
  (s.step i).Sane cfg key := by
 cases i with
 | elapse d =>
  refine ⟨h.config_eq,fun sta hst => ?_⟩
  obtain ⟨ht,hr⟩ := h.bucket sta hst
  exact ⟨ht,hr.trans (le_add_of_nonneg_right d.2)⟩
 | countCheck => exact h.of_sweeps (sweeps_countCheck _ _)
 | cleanup maxAge => exact h.of_sweeps (sweeps_cleanup _ _ _)
 | take key' =>
  have hse : ∀ {toks : ℚ}, (key' = key → 0 ≤ toks) → ∀ sta,
    (s.limiter.put key' ⟨toks,s.clock⟩).buckets.find? key = some sta →
     0 ≤ sta.tokens ∧ sta.lastRefill ≤ s.clock := by
   intro toks hn sta hst
   rcases find?_set_eq_some_iff.mp hst with ⟨rfl,rfl⟩ | ⟨-,ho⟩
   · exact ⟨hn rfl,le_rfl⟩
   · exact h.bucket sta ho
  rw [step_take]
  split_ifs with ha
  · exact ⟨h.config_eq,hse fun _ => sub_nonneg.mpr ha⟩
  · exact ⟨h.config_eq,hse fun hk => hk ▸ (h.valid hra).1⟩

/-- Every step leaves the account of the key as it is, adds what the time brings, or spends. -/
lemma ledger_step (h : s.Sane cfg key) (hr : 0 ≤ cfg.requestsPerSecond) {i : LimiterStep}
  (hf : FullWhenDropped key s i) : (s.step i).ledger key = s.ledger key ∨
   CreditLedger.Step cfg.requestsPerSecond (s.ledger key) ((s.step i).ledger key) := by
 cases i with
 | elapse d =>
  rw [← h.config_eq] at hr ⊢
  exact .inr (.wait d.2 (refill_elapse_le hr d.2))
 | countCheck => exact .inl (ledger_of_sweeps (sweeps_countCheck _ _) hf)
 | cleanup maxAge => exact .inl (ledger_of_sweeps (sweeps_cleanup _ _ _) hf)
 | take key' =>
  have hl : s.limiter.refill s.clock key ≤ s.limiter.config.burst.toNat := min_le_right _ _
  rw [step_take]
  by_cases hk : key = key'
  · subst hk
    split_ifs with ha
    · refine .inr ?_
      have hp : CreditLedger.Step cfg.requestsPerSecond (s.ledger key) _ := .spend
      simpa [ledger,refill_put s.limiter ((sub_le_self _ zero_le_one).trans hl)] using hp
    · simp [ledger,refill_put s.limiter hl]
  · left
    split_ifs
    · simp [ledger,refill_put_ne s.limiter hk,Ne.symm hk]
    · simp [ledger,refill_put_ne s.limiter hk]

def Accounted (config : RateLimitConfig) (key : String) (a b : ℚ) (s : LimiterRun) : Prop :=
 s.Sane config key ∧
  CreditLedger.Bounded (config.burst.toNat : ℚ) config.requestsPerSecond a b (s.ledger key)

lemma Accounted.step {a b : ℚ} (h : s.Accounted cfg key a b) (hb : a ≤ b)
  (hr : 0 ≤ cfg.requestsPerSecond) {i : LimiterStep} (hf : FullWhenDropped key s i) :
  (s.step i).Accounted cfg key a b := by
 have ha := h.1.step hr i
 refine ⟨ha,?_⟩
 rcases ledger_step h.1 hr hf with hq | hse
 · exact hq.symm ▸ h.2
 · exact CreditLedger.bounded_step hr hb h.2 (h.1.valid hr) (ha.valid hr) hse

lemma spentIn_ledger (a b : ℚ) : (s.ledger key).spentIn a b = s.allowedIn key a b := by
 simp only [CreditLedger.Ledger.spentIn,ledger,allowedIn,List.countP_map,List.countP_filter]
 refine List.countP_congr fun e _ => ?_
 simp [and_comm]

end LimiterRun

def LimiterRun.new (config : RateLimitConfig) (start : ℚ) : LimiterRun := ⟨⟨config,∅,0⟩,start,[]⟩

theorem allowed_within_rate (config : RateLimitConfig) (hrate : 0 ≤ config.requestsPerSecond)
  (start : ℚ) (key : String) (steps : List LimiterStep)
  (hfull : Along step (LimiterRun.FullWhenDropped key)
   (new config start) steps) (a : ℚ) (T : ℚ≥0) :
  ((steps.foldl step (new config start)).allowedIn key a (a+T) : ℚ) ≤
   config.burst.toNat+config.requestsPerSecond*T := by
 have ha : a ≤ a+T := le_add_of_nonneg_right T.2
 have hsa : (new config start).Sane config key := ⟨rfl,by simp [new]⟩
 have hr : (new config start).Accounted config key a (a+T) :=
  ⟨hsa,CreditLedger.bounded_of_empty rfl (hsa.valid hrate).2 (Nat.cast_nonneg _) hrate ha⟩
 have hn := invariant_take_of_along
  (fun s i (hs : s.Accounted config key a (a+T)) hi => hs.step ha hrate hi) hr hfull
  steps.length
 rw [List.take_length] at hn
 have hl := CreditLedger.spentIn_le ha hrate hn.2 (hn.1.valid hrate)
 rwa [spentIn_ledger,add_sub_cancel_left] at hl

def slowConfig : RateLimitConfig := ⟨1 / 1000,1,.sourceIP⟩

/-- The pipeline sweeps after 300 seconds, when the bucket has a third of its token back. -/
def sweptSteps : List LimiterStep :=
 [.countCheck,.take "10.0.0.1",.elapse 300,.cleanup 300,.countCheck,.take "10.0.0.1"]

theorem swept_bucket_exceeds_rate : slowConfig.burst.toNat+slowConfig.requestsPerSecond*300 <
      ((sweptSteps.foldl step (new slowConfig 0)).allowedIn "10.0.0.1" 0
       (0+300) : ℚ) := by
 decide +kernel

/-- A third request after the first two, and a sweep when the bucket is full again. -/
theorem refilled_bucket_within_rate :
  let steps := [.take "10.0.0.1",.take "10.0.0.1",.elapse 1000,.cleanup 300,.take "10.0.0.1"]
  Along step (LimiterRun.FullWhenDropped "10.0.0.1")
   (new slowConfig 0) steps ∧
  ((steps.foldl step (new slowConfig 0)).allowedIn "10.0.0.1" 0
   (0+1000) : ℚ) ≤ slowConfig.burst.toNat+slowConfig.requestsPerSecond*(1000 : ℚ≥0) := by
 intro steps
 have hf : Along step (LimiterRun.FullWhenDropped "10.0.0.1")
   (new slowConfig 0) steps := by
  decide +kernel
 exact ⟨hf,allowed_within_rate slowConfig (by decide +kernel) 0 "10.0.0.1" steps hf 0 1000⟩

end NovaEdge.Dataplane
