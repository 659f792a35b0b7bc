import NovaEdge.Balancers
import NovaEdge.FingerprintCache

/-! The balancers that hash the client onto a table built from the healthy backends and kept under
their fingerprint, and the ring of virtual nodes as one such table. The hash function is any. -/
namespace NovaEdge.Dataplane
open KeyedMap List

structure FlowContext extends RequestContext where
 dstPort : ℕ

/-- What the fingerprint and the table of a balancer depend on. -/
structure HealthyBackend where
 idx : ℕ
 socket : SocketAddr
 weight : UInt16
 deriving DecidableEq

def healthySetFrom (n : ℕ) (backends : List Backend) : List HealthyBackend :=
 ((backends.zipIdx n).filter fun e => e.1.healthy).map fun e => ⟨e.2,e.1.socket,e.1.weight⟩

def healthySet (backends : List Backend) : List HealthyBackend := healthySetFrom 0 backends

def HealthyBackend.share (b : HealthyBackend) : ℕ := max b.weight.toNat 1

structure HashBalancer (τ : Type*) where
 usable : τ → Bool
 build : List HealthyBackend → τ
 lookup : τ → FlowContext → Option ℕ

section
variable (hash : String → UInt64)

def fingerprint (healthy : List HealthyBackend) : UInt64 := healthy.foldl (fun acc b =>
  acc ^^^ hash s!"{b.socket.1}:{b.socket.2}:{b.idx}:{b.weight}") 0

def HashBalancer.select {τ : Type*} (lb : HashBalancer τ)
  (cached : FingerprintCache.Cached UInt64 τ) (ctx : FlowContext) (backends : List Backend) :
  Option ℕ × Option (FingerprintCache.Cached UInt64 τ) :=
 let healthy := healthySet backends
 if healthy = [] then (none,none)
 else
  let used := FingerprintCache.read lb.usable cached (fingerprint hash healthy) (lb.build healthy)
  (lb.lookup used.1 ctx,used.2)

def virtualNode (b : HealthyBackend) (r : ℕ) : UInt64 := hash s!"{b.socket.1}:{b.socket.2}:{r}"

def buildRing (healthy : List HealthyBackend) (replicas : ℕ) : KeyedMap UInt64 ℕ :=
 healthy.foldl (fun ring b => (List.range (replicas*b.share)).foldl
   (fun ring r => ring.set (virtualNode hash b r) b.idx) ring) ∅

/-- The entry at the least position from the hash on, or else at the least position of all. -/
def ringLookup (ring : KeyedMap UInt64 ℕ) (position : UInt64) : Option ℕ :=
 let first (nodes : List (UInt64 × ℕ)) := (nodes.argmin fun e => e.1.toNat).map Prod.snd
 (first (ring.pairs.filter fun e => position ≤ e.1)).or (first ring.pairs)

def ringHash (replicas : ℕ) : HashBalancer (KeyedMap UInt64 ℕ) where
 usable ring := !ring.pairs.isEmpty
 build healthy := buildRing hash healthy (max replicas 1)
 lookup ring ctx := ringLookup ring (hash ctx.src.1)

def RingHash.selectNew (replicas : ℕ) (ctx : FlowContext) (backends : List Backend) : Option ℕ :=
 ((ringHash hash replicas).select hash ⟨0,∅⟩ ctx backends).1

end

/-- The node of the owner is the first one clockwise from the position. -/
def Follows (ring : KeyedMap UInt64 ℕ) (position : UInt64) (owner : ℕ) : Prop :=
 ∃ p, ring.find? p = some owner ∧
  ∀ q j, ring.find? q = some j → (p - position).toNat ≤ (q - position).toNat

section
variable {ring rin' : KeyedMap UInt64 ℕ} {pos : UInt64} {i j k : ℕ}

lemma follows_unique (hi : Follows ring pos i) (hj : Follows ring pos j) : i = j := by
 obtain ⟨p,hp,hm⟩ := hi
 obtain ⟨q,hq,hqm⟩ := hj
 have hdi : p - pos = q - pos :=
  UInt64.toNat_inj.mp (le_antisymm (hm q j hq) (hqm p i hp))
 have hpq : p = q := by simpa using congrArg (· + pos) hdi
 exact mem_unique hp (hpq ▸ hq)

lemma clockwise_le_of_le {p q : UInt64} (hp : pos ≤ p)
  (hpq : pos ≤ q → p.toNat ≤ q.toNat) : (p - pos).toNat ≤ (q - pos).toNat := by
 have hq := q.toNat_lt
 have hp' := p.toNat_lt
 rw [UInt64.le_iff_toNat_le] at hp hpq
 rw [UInt64.toNat_sub,UInt64.toNat_sub]
 omega

lemma clockwise_le_of_lt {p q : UInt64} (hp : p < pos) (hq : q < pos)
  (hpq : p.toNat ≤ q.toNat) : (p - pos).toNat ≤ (q - pos).toNat := by
 have ho := pos.toNat_lt
 rw [UInt64.lt_iff_toNat_lt] at hp hq
 rw [UInt64.toNat_sub,UInt64.toNat_sub]
 omega

lemma follows_of_ringLookup (hl : ringLookup ring pos = some i) : Follows ring pos i := by
 rw [ringLookup,Option.or_eq_some_iff] at hl
 rcases hl with ha | ⟨hn,hw⟩
 · obtain ⟨⟨p,i'⟩,he,rfl⟩ := map_eq_some_iff.mp ha
   have hm := mem_filter.mp (argmin_mem he)
   refine ⟨p,mem_pairs_iff.mp hm.1,fun q j hq => ?_⟩
   refine clockwise_le_of_le (by simpa using hm.2) fun hle => ?_
   have hm' : (q,j) ∈ ring.pairs.filter fun e => pos ≤ e.1 :=
    mem_filter.mpr ⟨mem_pairs_iff.mpr hq,decide_eq_true hle⟩
   exact le_of_mem_argmin (f := fun e : UInt64 × ℕ => e.1.toNat) hm' he
 · obtain ⟨⟨p,i'⟩,he,rfl⟩ := map_eq_some_iff.mp hw
   rw [map_eq_none_iff,argmin_eq_none,filter_eq_nil_iff] at hn
   have hb : ∀ q j, ring.find? q = some j → q < pos := fun q j hq => by
    simpa using hn (q,j) (mem_pairs_iff.mpr hq)
   have hp := mem_pairs_iff.mp (argmin_mem he)
   refine ⟨p,hp,fun q j hq => ?_⟩
   refine clockwise_le_of_lt (hb p i' hp) (hb q j hq) ?_
   have hm := mem_pairs_iff.mpr hq
   exact le_of_mem_argmin (f := fun e : UInt64 × ℕ => e.1.toNat) hm he

lemma ringLookup_eq_none_iff : ringLookup ring pos = none ↔ ∀ p, ring.find? p = none := by
 have hn : ring.pairs = [] ↔ ∀ p, ring.find? p = none := by
  simp only [eq_nil_iff_forall_not_mem,Prod.forall,mem_pairs_iff,Option.eq_none_iff_forall_ne_some]
 rw [← hn,ringLookup,Option.or_eq_none_iff,map_eq_none_iff,map_eq_none_iff,
  argmin_eq_none,argmin_eq_none]
 constructor
 · exact And.right
 · intro hm
   simp [hm]

/-- Taking the nodes of one owner away moves only what that owner served. -/
lemma ringLookup_of_removed (hn : ∀ p, ring.find? p = none → rin'.find? p = none)
  (hk : ∀ p i, i ≠ k → ring.find? p = some i → rin'.find? p = some i)
  (ht : ringLookup ring pos ≠ some k) : ringLookup rin' pos = ringLookup ring pos := by
 cases hl : ringLookup ring pos with
 | none =>
  rw [ringLookup_eq_none_iff] at hl ⊢
  exact fun p => hn p (hl p)
 | some i =>
  have hi : i ≠ k := by
   rintro rfl
   exact ht hl
  obtain ⟨p,hp,hm⟩ := follows_of_ringLookup hl
  have hne := hk p i hi hp
  have hf : Follows rin' pos i := by
   refine ⟨p,hne,fun q j hq => ?_⟩
   cases ho : ring.find? q with
   | none => simp [hn q ho] at hq
   | some j' => exact hm q j' ho
  cases hl' : ringLookup rin' pos with
  | none => simp [ringLookup_eq_none_iff.mp hl' p] at hne
  | some j => rw [follows_unique (follows_of_ringLookup hl') hf]

end

def HealthyBackend.placed (hash : String → UInt64) (replicas : ℕ) (p : UInt64)
  (b : HealthyBackend) : Bool :=
 (List.range (replicas*b.share)).any fun r => virtualNode hash b r = p

section
variable {hash : String → UInt64} {reps : ℕ} {ok : List HealthyBackend}

lemma find?_foldl_set (ring : KeyedMap UInt64 ℕ) (nd : ℕ → UInt64) (idx : ℕ) (rs : List ℕ)
  (p : UInt64) : (rs.foldl (fun ring r => ring.set (nd r) idx) ring).find? p =
   if rs.any fun r => nd r = p then some idx else ring.find? p := by
 induction rs generalizing ring with
 | nil => simp
 | cons r rs ih =>
  rw [foldl_cons,ih,any_cons,find?_set]
  by_cases hr : nd r = p
  · simp [hr]
  · simp [hr,Ne.symm hr]

/-- Where the hashes of virtual nodes collide, the last backend has the node. -/
lemma find?_buildRing (p : UInt64) : (buildRing hash ok reps).find? p =
      (ok.filter (·.placed hash reps p)).getLast?.map HealthyBackend.idx := by
 induction ok using List.reverseRecOn with
 | nil => rfl
 | append_singleton bs b ih =>
  rw [buildRing,foldl_append,foldl_cons,foldl_nil,find?_foldl_set, ← buildRing,ih,filter_append]
  by_cases hb : b.placed hash reps p = true
  · refine (if_pos hb).trans ?_
    simp [hb]
  · refine (if_neg hb).trans ?_
    simp [hb]

lemma ringLookup_filter (k : ℕ) (pos : UInt64)
  (ho : ringLookup (buildRing hash ok reps) pos ≠ some k) :
  ringLookup (buildRing hash (ok.filter (·.idx ≠ k)) reps) pos =
   ringLookup (buildRing hash ok reps) pos := by
 have hc (p : UInt64) : (ok.filter (·.idx ≠ k)).filter (·.placed hash reps p) =
   (ok.filter (·.placed hash reps p)).filter (·.idx ≠ k) := by
  simp only [filter_filter,Bool.and_comm]
 refine ringLookup_of_removed (fun p hp => ?_) (fun p i hi hp => ?_) ho
 · rw [find?_buildRing,map_eq_none_iff,getLast?_eq_none_iff] at hp ⊢
   rw [hc,hp]
   rfl
 · rw [find?_buildRing] at hp ⊢
   obtain ⟨b,hb,rfl⟩ := map_eq_some_iff.mp hp
   obtain ⟨pre,hbe⟩ := getLast?_eq_some_iff.mp hb
   rw [hc,hbe,filter_append]
   simp [hi]

lemma selectNew_eq (ctx : FlowContext) (bs : List Backend) : RingHash.selectNew hash reps ctx bs =
   ringLookup (buildRing hash (healthySet bs) (max reps 1)) (hash ctx.src.1) := by
 unfold RingHash.selectNew HashBalancer.select
 dsimp only
 split_ifs with hn
 · rw [hn]
   rfl
 · rw [FingerprintCache.read,if_neg (by simp [ringHash,pairs])]
   rfl

end

def markUnhealthy (k : ℕ) (backends : List Backend) : List Backend :=
 backends.modify k fun b => { b with healthy := false }

section
variable (bs : List Backend)

lemma le_idx_of_mem {n : ℕ} {b : HealthyBackend} (hb : b ∈ healthySetFrom n bs) :
  n ≤ b.idx ∧ b.idx < n+bs.length := by
 obtain ⟨e,he,rfl⟩ := mem_map.mp hb
 have hr := mem_zipIdx (mem_filter.mp he).1
 exact ⟨hr.1,hr.2.1⟩

lemma healthySetFrom_markUnhealthy (n k : ℕ) : healthySetFrom n (markUnhealthy k bs) =
      (healthySetFrom n bs).filter (·.idx ≠ n+k) := by
 induction bs generalizing n k with
 | nil => simp [markUnhealthy,healthySetFrom]
 | cons b bs ih =>
  have hc (b : Backend) (l : List Backend) : healthySetFrom n (b::l) =
    (if b.healthy then [⟨n,b.socket,b.weight⟩] else []) ++ healthySetFrom (n+1) l := by
   by_cases hb : b.healthy = true <;> simp [healthySetFrom,zipIdx_cons,hb]
  cases k with
  | zero =>
   have ht : (healthySetFrom (n+1) bs).filter (·.idx ≠ n+0) =
     healthySetFrom (n+1) bs := by
    refine filter_eq_self.mpr fun b' hb' => ?_
    have := (le_idx_of_mem bs hb').1
    simp
    omega
   rw [markUnhealthy,modify_zero_cons,hc,hc,filter_append,ht]
   by_cases hb : b.healthy = true <;> simp [hb]
  | succ k =>
   have ih' := ih (n+1) k
   rw [markUnhealthy] at ih' ⊢
   rw [modify_succ_cons,hc,hc,filter_append,ih',
    show n+1+k = n+(k+1) by omega]
   by_cases hb : b.healthy = true <;> simp [hb]

lemma healthySet_append (b : Backend) :
  (healthySet (bs ++ [b])).filter (·.idx ≠ bs.length) = healthySet bs := by
 have hp : healthySet (bs ++ [b]) =
   healthySet bs ++ healthySetFrom bs.length [b] := by
  simp [healthySet,healthySetFrom,zipIdx_append]
 rw [hp,filter_append,filter_eq_self.mpr,filter_eq_nil_iff.mpr,append_nil]
 · intro b' hb'
   have := le_idx_of_mem [b] hb'
   simp at this ⊢
   omega
 · intro b' hb'
   have := (le_idx_of_mem (n := 0) bs hb').2
   simp
   omega

end

theorem ring_hash_minimal_disruption (hash : String → UInt64) (replicas : ℕ) (ctx : FlowContext)
  (backends : List Backend) :
  (∀ k, RingHash.selectNew hash replicas ctx (markUnhealthy k backends) =
    RingHash.selectNew hash replicas ctx backends ∨
   RingHash.selectNew hash replicas ctx backends = some k) ∧
  ∀ b, RingHash.selectNew hash replicas ctx (backends ++ [b]) =
    RingHash.selectNew hash replicas ctx backends ∨
   RingHash.selectNew hash replicas ctx (backends ++ [b]) = some backends.length := by
 constructor
 · intro k
   refine or_iff_not_imp_right.mpr fun ho => ?_
   have hm : healthySet (markUnhealthy k backends) = (healthySet backends).filter (·.idx ≠ k) := by
    simpa [healthySet] using healthySetFrom_markUnhealthy backends 0 k
   rw [selectNew_eq] at ho ⊢
   rw [selectNew_eq,hm]
   exact ringLookup_filter k _ ho
 · intro b
   refine or_iff_not_imp_right.mpr fun ho => ?_
   rw [selectNew_eq] at ho ⊢
   rw [selectNew_eq,← healthySet_append backends b]
   exact (ringLookup_filter _ _ ho).symm

end NovaEdge.Dataplane
