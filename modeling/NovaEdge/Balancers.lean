import NovaEdge.CyclicShares
import NovaEdge.ProxyHandler

/-! What the balancers of a cluster share (the healthy backends, the preference for the zone of the
request, the repetition by weight), and weighted round robin over it. -/
namespace NovaEdge.Dataplane
open CyclicShares List

def Backend.share (b : Backend) : ℕ := max b.weight.toNat 1

def shareAt (backends : List Backend) (i : ℕ) : ℕ := ((backends[i]?).map Backend.share).getD 0

def healthyIndices (backends : List Backend) : List ℕ :=
 (backends.zipIdx.filter fun p => p.1.healthy).map Prod.snd

def preferSameZone (ctx : RequestContext) (backends : List Backend) (healthy : List ℕ) : List ℕ :=
 match ctx.zone with
 | none => healthy
 | some zone =>
  let sameZone := healthy.filter fun i => (backends[i]?).any fun b => b.zone = some zone
  if sameZone = [] then healthy else sameZone

def weightedExpand (indices : List ℕ) (backends : List Backend) : List ℕ :=
 expand (shareAt backends) indices

def ZoneServed (zone : Option String) (backends : List Backend) : Prop :=
 zone ≠ none ∧ ∃ b ∈ backends, b.healthy = true ∧ b.zone = zone

instance (zone : Option String) (backends : List Backend) : Decidable (ZoneServed zone backends) :=
 inferInstanceAs (Decidable (zone ≠ none ∧ ∃ b ∈ backends, b.healthy = true ∧ b.zone = zone))

def Backend.Eligible (zone : Option String) (backends : List Backend) (b : Backend) : Prop :=
 b.healthy = true ∧ (ZoneServed zone backends → b.zone = zone)

instance (zone : Option String) (backends : List Backend) (b : Backend) :
  Decidable (b.Eligible zone backends) :=
 inferInstanceAs (Decidable (b.healthy = true ∧ (ZoneServed zone backends → b.zone = zone)))

def candidateWeight (zone : Option String) (backends : List Backend) : ℕ :=
 ((backends.filter fun b => b.Eligible zone backends).map Backend.share).sum

variable {i : ℕ}

section
variable {backends : List Backend}

lemma share_pos (b : Backend) : 0 < b.share := by simp [Backend.share]

def indicesWhere (p : Backend → Bool) (backends : List Backend) : List ℕ :=
 (backends.zipIdx.filter fun e => p e.1).map Prod.snd

def candidates (zone : Option String) (backends : List Backend) : List ℕ :=
 indicesWhere (fun b => b.Eligible zone backends) backends

lemma mem_indicesWhere {p : Backend → Bool} :
  i ∈ indicesWhere p backends ↔ ∃ b, backends[i]? = some b ∧ p b = true := by
 simp only [indicesWhere,mem_map,mem_filter,Prod.exists,exists_eq_right]
 simp [mem_zipIdx_iff_getElem?]

variable {zone : Option String}

lemma mem_candidates :
  i ∈ candidates zone backends ↔ ∃ b, backends[i]? = some b ∧ b.Eligible zone backends := by
 simp [candidates,mem_indicesWhere]

variable (p : Backend → Bool)

lemma nodup_indicesWhere (bs : List Backend) : (indicesWhere p bs).Nodup := by
 have hu : List.Sublist (indicesWhere p bs) (bs.zipIdx.map Prod.snd) :=
  filter_sublist.map _
 refine hu.nodup ?_
 rw [zipIdx_map_snd]
 exact nodup_range'

lemma nodup_candidates (zone : Option String) (bs : List Backend) : (candidates zone bs).Nodup :=
 nodup_indicesWhere _ _

lemma filter_indicesWhere (q : Backend → Bool) :
  (indicesWhere p backends).filter (fun i => (backends[i]?).any q) =
   indicesWhere (fun b => p b && q b) backends := by
 rw [indicesWhere,filter_map,filter_filter,indicesWhere]
 congr 1
 refine filter_congr fun e he => ?_
 rw [mem_zipIdx_iff_getElem?] at he
 simp [he,Bool.and_comm]

lemma indicesWhere_eq_nil_iff {p : Backend → Bool} :
  indicesWhere p backends = [] ↔ ∀ b ∈ backends, p b = false := by
 rw [indicesWhere,map_eq_nil_iff,filter_eq_nil_iff]
 constructor
 · intro h b hb
   obtain ⟨i,hi⟩ := mem_iff_getElem?.mp hb
   simpa using h (b,i) (mem_zipIdx_iff_getElem?.mpr hi)
 · intro h e he
   simp [h e.1 (mem_of_getElem? (mem_zipIdx_iff_getElem?.mp he))]

lemma sum_shareAt (bs : List Backend) : ((indicesWhere p bs).map (shareAt bs)).sum =
   ((bs.filter p).map Backend.share).sum := by
 have hh : (indicesWhere p bs).map (shareAt bs) =
   (bs.zipIdx.filter fun e => p e.1).map (Backend.share ∘ Prod.fst) := by
  rw [indicesWhere,map_map]
  refine map_congr_left fun e he => ?_
  have hg := mem_zipIdx_iff_getElem?.mp (mem_filter.mp he).1
  simp [shareAt,hg]
 have hf : (bs.zipIdx.filter fun e => p e.1).map Prod.fst = bs.filter p := by
  conv_rhs => rw [← zipIdx_map_fst 0 bs,filter_map]
  rfl
 rw [hh,← map_map,hf]

/-- The candidates of a balancer are the backends that may serve the request, in their order. -/
lemma preferSameZone_eq (ctx : RequestContext) (bs : List Backend) :
  preferSameZone ctx bs (healthyIndices bs) = candidates ctx.zone bs := by
 have hp : ¬ ZoneServed ctx.zone bs →
   healthyIndices bs = candidates ctx.zone bs := by
  intro hz
  simp [healthyIndices,candidates,indicesWhere,Backend.Eligible,hz]
 unfold preferSameZone
 cases hz : ctx.zone with
 | none =>
  rw [hz] at hp
  exact hp (by simp [ZoneServed])
 | some zone =>
  have ha : (healthyIndices bs).filter
        (fun i => (bs[i]?).any fun b => b.zone = some zone) =
    indicesWhere (fun b => b.healthy && b.zone = some zone) bs :=
   filter_indicesWhere (·.healthy) _
  dsimp only
  rw [ha,← hz]
  by_cases hn : indicesWhere (fun b => b.healthy && b.zone = ctx.zone) bs = []
  · rw [if_pos hn]
    refine hp fun ⟨_,b,hb,hh,hb'⟩ => ?_
    simpa [hh,hb'] using indicesWhere_eq_nil_iff.mp hn b hb
  · rw [if_neg hn]
    have hse : ZoneServed ctx.zone bs := by
     rw [indicesWhere_eq_nil_iff] at hn
     simpa [ZoneServed,hz] using hn
    simp [candidates,indicesWhere,Backend.Eligible,hse]

lemma shareAt_pos (hi : i ∈ candidates zone backends) : 0 < shareAt backends i := by
 obtain ⟨b,hb,-⟩ := mem_candidates.mp hi
 simpa [shareAt,hb] using share_pos b

lemma candidates_eq_nil_iff : candidates zone backends = [] ↔ healthyIndices backends = [] := by
 have hh := @indicesWhere_eq_nil_iff backends (·.healthy)
 rw [candidates,show healthyIndices backends = indicesWhere (·.healthy) backends from rfl,
  hh,indicesWhere_eq_nil_iff]
 simp only [decide_eq_false_iff_not]
 constructor
 · intro h b hb
   by_contra hb'
   by_cases hse : ZoneServed zone backends
   · obtain ⟨-,c,hc,hc',hz⟩ := hse
     exact h c hc ⟨hc',fun _ => hz⟩
   · exact h b hb ⟨by simpa using hb',fun hz => absurd hz hse⟩
 · intro h b hb hl
   exact absurd hl.1 (by simp [h b hb])

end

structure RoundRobin where
 counter : UInt64 := 0

def RoundRobin.select (lb : RoundRobin) (ctx : RequestContext) (backends : List Backend) :
  Option ℕ × RoundRobin :=
 let healthy := healthyIndices backends
 if healthy = [] then (none,lb)
 else
  let weighted := weightedExpand (preferSameZone ctx backends healthy) backends
  if weighted = [] then (none,lb)
  else (weighted[lb.counter.toNat % weighted.length]?,⟨lb.counter+1⟩)

def RoundRobin.selects (backends : List Backend) : RoundRobin → List RequestContext → List (Option ℕ)
 | _, [] => []
 | lb, ctx::rest => (lb.select ctx backends).1::(lb.select ctx backends).2.selects backends rest

structure FairTurn (zone : Option String) (backends : List Backend) (results : List (Option ℕ)) :
  Prop where
 share : ∀ i b, backends[i]? = some b → b.Eligible zone backends →
  results.count (some i) = max 1 b.weight.toNat
 only : ∀ r ∈ results, ∃ i b, r = some i ∧ backends[i]? = some b ∧ b.Eligible zone backends

section
variable {zone : Option String} {bs : List Backend}

def rotation (zone : Option String) (backends : List Backend) : List ℕ :=
 weightedExpand (candidates zone backends) backends

lemma length_rotation : (rotation zone bs).length = candidateWeight zone bs := by
 rw [rotation,weightedExpand,length_expand,candidates,sum_shareAt]
 rfl

lemma mem_rotation : i ∈ rotation zone bs ↔ ∃ b, bs[i]? = some b ∧ b.Eligible zone bs := by
 rw [rotation,weightedExpand,mem_expand,← mem_candidates]
 exact and_iff_left_of_imp shareAt_pos

lemma count_rotation {b : Backend} (hb : bs[i]? = some b) (hl : b.Eligible zone bs) :
  (rotation zone bs).count i = max 1 b.weight.toNat := by
 rw [rotation,weightedExpand,count_expand_of_nodup _ (nodup_candidates _ _)
  (mem_candidates.mpr ⟨b,hb,hl⟩)]
 simp [shareAt,hb,Backend.share,max_comm]

lemma select_of_rotation {ctx : RequestContext} (lb : RoundRobin) (hr : rotation ctx.zone bs ≠ []) :
  lb.select ctx bs = ((rotation ctx.zone bs)[lb.counter.toNat % (rotation ctx.zone bs).length]?,
    ⟨lb.counter+1⟩) := by
 have hh : healthyIndices bs ≠ [] := by
  intro hn
  refine hr ?_
  rw [rotation,candidates_eq_nil_iff.mpr hn]
  rfl
 simp only [RoundRobin.select,preferSameZone_eq]
 rw [if_neg hh]
 exact if_neg hr

lemma selects_eq_turns (lb : RoundRobin) (ctxs : List RequestContext)
  (hz : ∀ ctx ∈ ctxs, ctx.zone = zone) (hr : rotation zone bs ≠ [])
  (hw : lb.counter.toNat+ctxs.length ≤ 2 ^ 64) :
  lb.selects bs ctxs = turns (rotation zone bs) lb.counter.toNat ctxs.length := by
 induction ctxs generalizing lb with
 | nil => rfl
 | cons ctx rest ih =>
  have ht : ctx.zone = zone := hz ctx (by simp)
  have hse := select_of_rotation lb (ht.symm ▸ hr)
  rw [ht] at hse
  rw [RoundRobin.selects,hse,length_cons,turns_succ]
  congr 1
  cases rest with
  | nil => rfl
  | cons next rest =>
   have hu : (lb.counter+1).toNat = lb.counter.toNat+1 := by
    simp only [length_cons] at hw
    exact Nat.mod_eq_of_lt (by simp; omega)
   rw [← hu]
   refine ih ⟨lb.counter+1⟩ (fun c hc => hz c (by simp [hc])) ?_
   simp only [length_cons] at hw ⊢
   omega

end

/-- As many selections as the candidates weigh together are a fair turn. -/
theorem round_robin_fair (backends : List Backend) (zone : Option String) (lb : RoundRobin)
  (ctxs : List RequestContext) (hzone : ∀ ctx ∈ ctxs, ctx.zone = zone)
  (hlength : ctxs.length = candidateWeight zone backends)
  (hwrap : lb.counter.toNat+ctxs.length ≤ 2 ^ 64) :
  FairTurn zone backends (lb.selects backends ctxs) := by
 by_cases ho : rotation zone backends = []
 · -- without candidates there is nothing to select
   have hn : ctxs = [] := by
    rw [← length_eq_zero_iff,hlength,← length_rotation,ho]
    rfl
   subst hn
   refine ⟨fun i b hb hl => ?_,fun r hr => by simp [RoundRobin.selects] at hr⟩
   have hm := mem_rotation.mpr ⟨b,hb,hl⟩
   simp [ho] at hm
 · rw [selects_eq_turns lb ctxs hzone ho hwrap,hlength,← length_rotation]
   constructor
   · intro i b hb hl
     rw [count_turns_length,count_rotation hb hl]
   · intro r hr
     obtain ⟨i,hi,rfl⟩ := mem_turns_length _ hr
     obtain ⟨b,hb,hl⟩ := mem_rotation.mp hi
     exact ⟨i,b,rfl,hb,hl⟩

def mixedBackends : List Backend := [⟨"10.0.0.1",80,3,true,none,0⟩,⟨"10.0.0.2",80,0,true,none,0⟩,
  ⟨"10.0.0.3",80,1,false,none,0⟩]

def plainContext : RequestContext := ⟨("192.168.1.1",12345),none,none⟩

theorem mixed_backends_fair : FairTurn none mixedBackends
      ((⟨7⟩ : RoundRobin).selects mixedBackends (List.replicate 4 plainContext)) :=
 round_robin_fair mixedBackends none ⟨7⟩ (List.replicate 4 plainContext)
  (fun _ h => eq_of_mem_replicate h ▸ rfl) (by decide) (by decide)

end NovaEdge.Dataplane
