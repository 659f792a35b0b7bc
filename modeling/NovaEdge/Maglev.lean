import NovaEdge.HashBalancers
import NovaEdge.ProbeTable

/-! The lookup table of the Maglev balancer, and the cache that it and the ring balancer keep. -/
namespace NovaEdge.Dataplane
open ProbeTable FingerprintCache List

def tableSize : ℕ := 65537

section
variable (hash hash2 : String → UInt64)

def expanded (healthy : List HealthyBackend) : List (Seeker ℕ) :=
 healthy.flatMap fun b => (List.range b.share).map fun r =>
  let key := s!"{b.socket.1}:{b.socket.2}:{r}"
  { owner := b.idx
    offset := (hash key).toNat % tableSize
    skip := (hash2 key).toNat % (tableSize - 1)+1 }

/-- No table would mean that one of the loops does not end. A free slot is `none`. -/
def buildTable (healthy : List HealthyBackend) : Option (List (Option ℕ)) :=
 if healthy = [] then some []
 else fill tableSize (tableSize+1) (expanded hash hash2 healthy) (List.replicate tableSize none) 0

def maglev : HashBalancer (Option (List (Option ℕ))) where
 usable table := table.any fun slots => !slots.isEmpty
 build := buildTable hash hash2
 lookup table ctx := do
  let slots ← table
  let slot ← slots[(hash s!"{ctx.src.1}:{ctx.src.2}:{ctx.dstPort}").toNat % tableSize]?
  slot

end

def totalShare (healthy : List HealthyBackend) : ℕ := (healthy.map HealthyBackend.share).sum

section
variable {hash has : String → UInt64} {hea : List HealthyBackend}

lemma valid_of_mem_expanded {e : Seeker ℕ} (he : e ∈ expanded hash has hea) :
  e.Valid tableSize := by
 obtain ⟨b,-,hb⟩ := mem_flatMap.mp he
 obtain ⟨r,-,rfl⟩ := mem_map.mp hb
 have hl := Nat.mod_lt (has s!"{b.socket.1}:{b.socket.2}:{r}").toNat
  (show 0 < tableSize - 1 by decide)
 exact ⟨Nat.succ_pos _,Nat.add_lt_of_lt_sub hl⟩

lemma owner_expanded_cons (b : HealthyBackend) : (expanded hash has (b::hea)).map Seeker.owner =
   List.replicate b.share b.idx ++ (expanded hash has hea).map Seeker.owner := by
 simp [expanded,Function.comp_def]

lemma length_expanded : (expanded hash has hea).length = totalShare hea := by
 simp [expanded,totalShare,length_flatMap]

lemma mem_healthy_of_mem_expanded {e : Seeker ℕ} (he : e ∈ expanded hash has hea) :
  ∃ b ∈ hea, e.owner = b.idx := by
 obtain ⟨b,hb,hb'⟩ := mem_flatMap.mp he
 obtain ⟨r,-,rfl⟩ := mem_map.mp hb'
 exact ⟨b,hb,rfl⟩

lemma count_owner_expanded (hn : (hea.map HealthyBackend.idx).Nodup) {b : HealthyBackend}
  (hb : b ∈ hea) : ((expanded hash has hea).map Seeker.owner).count b.idx = b.share := by
 induction hea with
 | nil => simp at hb
 | cons c rest ih =>
  obtain ⟨hc,hr⟩ := nodup_cons.mp hn
  rw [owner_expanded_cons,count_append,count_replicate]
  rcases mem_cons.mp hb with rfl | hb
  · have hnn : ((expanded hash has rest).map Seeker.owner).count b.idx = 0 := by
     refine count_eq_zero.mpr fun hm => hc ?_
     obtain ⟨e,he,ho⟩ := mem_map.mp hm
     obtain ⟨b',hb',hid⟩ := mem_healthy_of_mem_expanded he
     exact mem_map.mpr ⟨b',hb',hid.symm.trans ho⟩
    simp [hnn]
  · have hne : c.idx ≠ b.idx := fun hq => hc (hq ▸ mem_map_of_mem hb)
    simp [hne,ih hr hb]

lemma expanded_ne_nil (hn : hea ≠ []) : expanded hash has hea ≠ [] := by
 obtain ⟨b,hb⟩ := exists_mem_of_ne_nil hea hn
 have hh : 0 < b.share := by simp [HealthyBackend.share]
 simp only [expanded,ne_eq,flatMap_eq_nil_iff,map_eq_nil_iff,range_eq_nil]
 exact fun hnn => hh.ne' (hnn b hb)

end

/-- The table is built whatever the hash values, and every backend has its share of the slots. -/
theorem maglev_table_balanced (hash hash2 : String → UInt64) (healthy : List HealthyBackend)
  (hne : healthy ≠ []) (hnodup : (healthy.map HealthyBackend.idx).Nodup) :
  ∃ table, buildTable hash hash2 healthy = some table ∧ table.length = 65537 ∧
   (∀ slot ∈ table, ∃ b ∈ healthy, slot = some b.idx) ∧
   ∀ b ∈ healthy, b.share*(65537 / totalShare healthy) ≤ table.count (some b.idx) ∧
    table.count (some b.idx) ≤ b.share*(65537 ⌈/⌉ totalShare healthy) := by
 have hp : tableSize.Prime := by norm_num [tableSize]
 have hse : expanded hash hash2 healthy ≠ [] := expanded_ne_nil hne
 obtain ⟨table,ht,hl,ho,hc⟩ := exists_fill_replicate hp hse fun _ he => valid_of_mem_expanded he
 rw [length_expanded] at hc
 refine ⟨table,(if_neg hne).trans ht,hl,fun slot hsl => ?_,fun b hb => ?_⟩
 · obtain ⟨e,he,rfl⟩ := ho slot hsl
   obtain ⟨b,hb,hw⟩ := mem_healthy_of_mem_expanded he
   exact ⟨b,hb,by rw [hw]⟩
 · have hb' := hc b.idx
   rwa [count_owner_expanded hnodup hb] at hb'

def lengthHash (key : String) : UInt64 := key.length.toUInt64

theorem mixed_table_balanced :
  ∃ table, buildTable lengthHash lengthHash (healthySet mixedBackends) = some table ∧
   3*16384 ≤ table.count (some 0) ∧ table.count (some 0) ≤ 3*16385 := by
 obtain ⟨table,ht,-,-,hc⟩ := maglev_table_balanced lengthHash lengthHash
  (healthySet mixedBackends) (by decide) (by decide)
 exact ⟨table,ht,hc ⟨0,("10.0.0.1",80),3⟩ (by decide)⟩

inductive CacheEvent where
 | select (ctx : FlowContext) (backends : List Backend)
 | store (call : ℕ)

section
variable {τ : Type} (hash : String → UInt64)

def HashBalancer.step (lb : HashBalancer τ) (s : Shared UInt64 τ) : CacheEvent → Shared UInt64 τ
 | .select ctx backends => later s (lb.select hash s.cached ctx backends).2
 | .store call => FingerprintCache.store s call

/-- Every call returns what a balancer that was just created returns. -/
def HashBalancer.Transparent (lb : HashBalancer τ) (empty : τ) (events : List CacheEvent) : Prop :=
 ∀ before ctx backends after, events = before ++ CacheEvent.select ctx backends::after →
  (lb.select hash (before.foldl (lb.step hash) ⟨⟨0,empty⟩,[]⟩).cached ctx backends).1 =
   (lb.select hash ⟨0,empty⟩ ctx backends).1

def MetIn (events : List CacheEvent) (healthy : List HealthyBackend) : Prop := healthy ≠ [] ∧
  ∃ ctx backends, CacheEvent.select ctx backends ∈ events ∧ healthySet backends = healthy

def DistinctFingerprints (events : List CacheEvent) : Prop :=
 ∀ H H', MetIn events H → MetIn events H' → fingerprint hash H = fingerprint hash H' → H = H'

variable {hash} {lb : HashBalancer τ}

lemma select_of_healthy {cac : Cached UInt64 τ} {ctx : FlowContext} {bs : List Backend}
  (hn : healthySet bs ≠ []) : lb.select hash cac ctx bs =
   let used := FingerprintCache.read lb.usable cac (fingerprint hash (healthySet bs))
    (lb.build (healthySet bs))
   (lb.lookup used.1 ctx,used.2) := if_neg hn

lemma coherent_step {met : List HealthyBackend → Prop} {s : Shared UInt64 τ} {e : CacheEvent}
  (hs : Coherent lb.usable (fingerprint hash) lb.build met s)
  (hm : ∀ ctx bs, e = .select ctx bs → healthySet bs ≠ [] → met (healthySet bs)) :
  Coherent lb.usable (fingerprint hash) lb.build met (lb.step hash s e) := by
 cases e with
 | select ctx bs =>
  by_cases hn : healthySet bs = []
  · rw [HashBalancer.step,HashBalancer.select,if_pos hn]
    simpa [later] using hs
  · rw [HashBalancer.step,select_of_healthy hn]
    exact coherent_later hs (hm ctx bs rfl hn)
 | store call => exact coherent_store hs call

lemma coherent_foldl {evs pre : List CacheEvent} (hb : ∀ e ∈ pre, e ∈ evs) {s : Shared UInt64 τ}
  (hs : Coherent lb.usable (fingerprint hash) lb.build (MetIn evs) s) :
  Coherent lb.usable (fingerprint hash) lb.build (MetIn evs) (pre.foldl (lb.step hash) s) := by
 induction pre generalizing s with
 | nil => exact hs
 | cons e pre ih =>
  refine ih (fun e' he' => hb e' (by simp [he'])) (coherent_step hs ?_)
  rintro ctx bs rfl hn
  exact ⟨hn,ctx,bs,hb _ (by simp),rfl⟩

lemma transparent_of_distinct {emp : τ} (hm : lb.usable emp = false)
  {evs : List CacheEvent} (hdi : DistinctFingerprints hash evs) : lb.Transparent hash emp evs := by
 rintro before ctx backends after rfl
 by_cases hn : healthySet backends = []
 · simp [HashBalancer.select,hn]
 · have ht : Coherent lb.usable (fingerprint hash) lb.build
     (MetIn (before ++ .select ctx backends::after)) ⟨⟨0,emp⟩,[]⟩ := by
    intro c hc hu
    obtain rfl : c = ⟨0,emp⟩ := by simpa using hc
    simp [hm] at hu
   have ho := coherent_foldl (fun _ he => mem_append_left _ he) ht
   have hr {s : Shared UInt64 τ} (hs : Coherent lb.usable (fingerprint hash) lb.build
     (MetIn (before ++ .select ctx backends::after)) s) :=
    read_eq_build hs (k := healthySet backends) fun H hH hf =>
     congrArg lb.build (hdi H _ hH ⟨hn,ctx,backends,by simp,rfl⟩ hf)
   rw [select_of_healthy hn,select_of_healthy hn]
   dsimp only
   rw [hr ho]
   exact congrArg (lb.lookup · ctx) (hr ht).symm

end

/-- Both balancers select as if they had no cache. -/
theorem hash_caching_transparent (hash hash2 : String → UInt64) (replicas : ℕ)
  (events : List CacheEvent) (hdistinct : DistinctFingerprints hash events) :
  (maglev hash hash2).Transparent hash (some []) events ∧
   (ringHash hash replicas).Transparent hash ∅ events :=
 ⟨transparent_of_distinct rfl hdistinct,transparent_of_distinct rfl hdistinct⟩

def racingCalls : List CacheEvent :=
 let ctx : FlowContext := { plainContext with dstPort := 0 }
 [.select ctx (mixedBackends.take 1),.select ctx mixedBackends,.store 1,.store 0,
  .select ctx mixedBackends]

theorem racing_calls_transparent : DistinctFingerprints lengthHash racingCalls ∧
      (maglev lengthHash lengthHash).Transparent lengthHash (some []) racingCalls ∧
      (ringHash lengthHash 150).Transparent lengthHash ∅ racingCalls := by
 have hdi : DistinctFingerprints lengthHash racingCalls := by
  have hm : ∀ H, MetIn racingCalls H →
    H = healthySet (mixedBackends.take 1) ∨ H = healthySet mixedBackends := by
   rintro H ⟨-,ctx,bs,hme,rfl⟩
   simp only [racingCalls,mem_cons,CacheEvent.select.injEq,reduceCtorEq,
    not_mem_nil,or_false,false_or] at hme
   rcases hme with ⟨-,rfl⟩ | ⟨-,rfl⟩ | ⟨-,rfl⟩ <;> simp
  intro H H' hH hH' hf
  rcases hm H hH with rfl | rfl <;> rcases hm H' hH' with rfl | rfl
  · rfl
  · cases hf
  · cases hf
  · rfl
 exact ⟨hdi,hash_caching_transparent lengthHash lengthHash 150 racingCalls hdi⟩

end NovaEdge.Dataplane
