import NovaEdge.ProxyHandler

/-! The backends that the handler offers to a balancer: those of the lowest priority with a healthy
one, without the ejected ones, and what slow start changes about them. -/
namespace NovaEdge.Dataplane
open List

def lowestPriority (backends : List Backend) : Option UInt32 :=
 (((backends.filter (·.healthy)).map (·.priority)).insertionSort (· ≤ ·)).head?

def Backend.servesAt (b : Backend) (priority : UInt32) : Bool := b.healthy && b.priority == priority

lemma exists_servesAt {bs : List Backend} {pri : UInt32}
  (hl : lowestPriority bs = some pri) : ∃ b ∈ bs, b.servesAt pri = true := by
 have hm := mem_of_head? hl
 rw [mem_insertionSort,mem_map] at hm
 obtain ⟨b,hb,rfl⟩ := hm
 rw [mem_filter] at hb
 exact ⟨b,hb.1,by simp [Backend.servesAt,hb.2]⟩

variable (backends : List Backend)

lemma filterMap_zipIdx_filter (p : Backend → Bool) :
  ((backends.zipIdx.filter fun q => p q.1).map Prod.snd).filterMap (fun i => backends[i]?) =
   backends.filter p := by
 rw [filterMap_map]
 have hr : ∀ q ∈ backends.zipIdx.filter fun q => p q.1,
   ((fun i => backends[i]?) ∘ Prod.snd) q = some q.1 := by
  intro q hq
  have hm := (mem_filter.mp hq).1
  exact mem_zipIdx_iff_getElem?.mp hm
 rw [filterMap_congr hr,filterMap_eq_map',← Function.comp_def p,← filter_map,zipIdx_map_fst]

lemma priorityFiltered_eq : priorityFiltered backends =
  match lowestPriority backends with
  | none => backends
  | some priority => backends.filter (·.servesAt priority) := by
 cases ho : ((backends.filter (·.healthy)).map (·.priority)).insertionSort (· ≤ ·) with
 | nil =>
  have hl : lowestPriority backends = none := by rw [lowestPriority,ho]; rfl
  have hn : filterByPriority backends = [] := by rw [filterByPriority,ho]
  rw [hl,priorityFiltered,hn]
 | cons priority rest =>
  have hl : lowestPriority backends = some priority := by
   rw [lowestPriority,ho]
   rfl
  have hr := filterMap_zipIdx_filter backends (·.servesAt priority)
  have hn : filterByPriority backends =
    (backends.zipIdx.filter fun q => q.1.servesAt priority).map Prod.snd := by
   rw [filterByPriority,ho]
   rfl
  rw [← hn] at hr
  rw [hl,priorityFiltered]
  cases hem : filterByPriority backends with
  | nil =>
   -- some backend has the lowest priority
   obtain ⟨b,hb,hse⟩ := exists_servesAt hl
   have hm : b ∈ backends.filter (·.servesAt priority) := mem_filter.mpr ⟨hb,hse⟩
   rw [← hr,hem] at hm
   exact absurd hm not_mem_nil
  | cons i is =>
   rw [hem] at hr
   exact hr

lemma priorityFiltered_sublist : (priorityFiltered backends).Sublist backends := by
 rw [priorityFiltered_eq]
 cases lowestPriority backends with
 | none => exact List.Sublist.refl _
 | some priority => exact filter_sublist

section
variable (w : World) (cluster : ClusterState)

def Backend.slowStarted (b : Backend) : Backend :=
 if 0 < cluster.slowStartWindowMs then { b with weight := w.slowStartWeight b.socket b.weight }
 else b

variable (bs : List Backend)

lemma slowStart_eq_map : slowStart w cluster bs = bs.map (·.slowStarted w cluster) := by
 unfold slowStart Backend.slowStarted
 split_ifs
 · rfl
 · exact (map_id' _).symm

lemma Backend.slowStarted_frame (b : Backend) :
  (b.slowStarted w cluster).healthy = b.healthy ∧ (b.slowStarted w cluster).priority = b.priority ∧
   (b.slowStarted w cluster).socket = b.socket := by
 unfold Backend.slowStarted
 split_ifs <;> exact ⟨rfl,rfl,rfl⟩

lemma Backend.slowStarted_eq_self_iff (b : Backend) : b.slowStarted w cluster = b ↔
  (0 < cluster.slowStartWindowMs → w.slowStartWeight b.socket b.weight = b.weight) := by
 unfold Backend.slowStarted
 split_ifs with hw
 · constructor
   · intro hq _
     exact congrArg Backend.weight hq
   · intro hwe
     rw [hwe hw]
 · exact ⟨fun _ hp => absurd hp hw,fun _ => rfl⟩

lemma lowestPriority_slowStarted :
  lowestPriority (bs.map (·.slowStarted w cluster)) = lowestPriority bs := by
 have hh : ((·.healthy) ∘ fun b : Backend => b.slowStarted w cluster) = (·.healthy) :=
  funext fun b => (b.slowStarted_frame w cluster).1
 have hp : ((·.priority) ∘ fun b : Backend => b.slowStarted w cluster) = (·.priority) :=
  funext fun b => (b.slowStarted_frame w cluster).2.1
 simp only [lowestPriority,filter_map,map_map,hh,hp]

lemma priorityFiltered_slowStarted : priorityFiltered (bs.map (·.slowStarted w cluster)) =
      (priorityFiltered bs).map (·.slowStarted w cluster) := by
 rw [priorityFiltered_eq,priorityFiltered_eq,lowestPriority_slowStarted]
 cases lowestPriority bs with
 | none => rfl
 | some priority =>
  have hse : ((·.servesAt priority) ∘ fun b : Backend => b.slowStarted w cluster) =
    (·.servesAt priority) := by
   funext b
   simp [Backend.servesAt,(b.slowStarted_frame w cluster).1,(b.slowStarted_frame w cluster).2.1]
  simp only [filter_map,hse]

lemma notEjected_slowStarted : notEjected w cluster (bs.map (·.slowStarted w cluster)) =
      (notEjected w cluster bs).map (·.slowStarted w cluster) := by
 have ho : ((fun b => !w.isEjected cluster.name b.socket) ∘
   fun b : Backend => b.slowStarted w cluster) = fun b => !w.isEjected cluster.name b.socket := by
  funext b
  simp [(b.slowStarted_frame w cluster).2.2]
 simp only [notEjected,filter_map,ho]

lemma effectiveBackends_slowStarted : effectiveBackends w cluster (bs.map (·.slowStarted w cluster))
    (bs.map (·.slowStarted w cluster)) =
   (effectiveBackends w cluster bs bs).map (·.slowStarted w cluster) := by
 simp only [effectiveBackends,notEjected_slowStarted,length_map,map_eq_nil_iff]
 split_ifs <;> rfl

lemma effectiveBackends_eq_fallback {fl : List Backend} (fal : List Backend)
  (hj : notEjected w cluster fl = []) (hc : inPanicMode cluster 0 fl.length = false) :
  effectiveBackends w cluster fl fal = fal := by
 simp only [effectiveBackends,hj,length_nil,hc,if_neg Bool.false_ne_true,if_true]

lemma effectiveBackends_congr {flt fal : List Backend} (hf : notEjected w cluster flt = [] →
   inPanicMode cluster 0 flt.length = false → flt = fal) :
  effectiveBackends w cluster flt fal = effectiveBackends w cluster flt flt := by
 unfold effectiveBackends
 by_cases hp : inPanicMode cluster (notEjected w cluster flt).length flt.length = true
 · rw [if_pos hp,if_pos hp]
 · rw [if_neg hp,if_neg hp]
   by_cases hj : notEjected w cluster flt = []
   · rw [hj,length_nil,Bool.not_eq_true] at hp
     rw [if_pos hj,if_pos hj]
     exact (hf hj hp).symm
   · rw [if_neg hj,if_neg hj]

end

end NovaEdge.Dataplane
