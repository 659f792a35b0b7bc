import NovaEdge.FederationClock
import NovaEdge.KeyedMapPatch

/-! The lattice of vector clocks. Two clocks with the same readings may differ in entries that are
zero, so every law is about readings; on clocks without negative entries both merges read as the
pointwise maximum. -/
namespace NovaEdge.Federation
open KeyedMap
namespace VectorClock

def toMap (vc : VectorClock) : VectorClock := putWhere (fun _ => true) id vc ∅

def merge (vc other : VectorClock) : VectorClock := vc.mergeMap other.toMap

def Nonneg (vc : VectorClock) : Prop := ∀ e ∈ vc.pairs, 0 ≤ e.2.toInt

def SameReadings (a b : VectorClock) : Prop := ∀ m, a.get m = b.get m

def AtMost (a b : VectorClock) : Prop := ∀ m, a.get m ≤ b.get m

structure JoinLaws (op : VectorClock → VectorClock → VectorClock) (a b c : VectorClock) : Prop where
 nonneg : (op a b).Nonneg
 left_le : a.AtMost (op a b)
 right_le : b.AtMost (op a b)
 least : a.AtMost c → b.AtMost c → (op a b).AtMost c
 comm : (op a b).SameReadings (op b a)
 assoc : (op (op a b) c).SameReadings (op a (op b c))
 idem : (op a a).SameReadings a
 mono_left : a.AtMost b → (op a c).AtMost (op b c)
 mono_right : a.AtMost b → (op c a).AtMost (op c b)

@[simp] lemma find?_toMap (vc : VectorClock) (m : String) : find? vc.toMap m = vc.find? m := by
 rw [toMap,find?_putWhere]
 cases vc.find? m <;> simp [Option.filter]

@[simp] lemma get_toMap (vc : VectorClock) : vc.toMap.get = vc.get := by
 funext m
 simp [get]

lemma get_merge (vc oth : VectorClock) : (vc.merge oth).get = (vc.mergeMap oth).get := by
 funext m
 rw [merge,get_mergeMap,get_mergeMap,find?_toMap]

lemma nonneg_iff {vc : VectorClock} : vc.Nonneg ↔ 0 ≤ vc.get := by
 constructor
 · intro h m
   unfold get
   cases hm : vc.find? m with
   | none => exact le_rfl
   | some v => exact h (m,v) (mem_pairs_iff.mpr hm)
 · rintro h ⟨m,v⟩ he
   have hg : vc.get m = v.toInt := by simp [get,mem_pairs_iff.mp he]
   exact hg ▸ h m

lemma get_mergeMap_eq_sup {vc cks : VectorClock} (h0 : 0 ≤ vc.get) :
  (vc.mergeMap cks).get = vc.get ⊔ cks.get := by
 funext m
 rw [get_mergeMap,Pi.sup_apply]
 unfold get
 cases cks.find? m with
 | none => exact (max_eq_left (h0 m)).symm
 | some v => rfl

lemma get_merge_eq_sup {vc oth : VectorClock} (h0 : 0 ≤ vc.get) :
  (vc.merge oth).get = vc.get ⊔ oth.get := by
 rw [get_merge,get_mergeMap_eq_sup h0]

lemma compare_swap (a b : VectorClock) : b.compare a = -a.compare b := by
 unfold compare
 cases a.hasGreater b <;> cases b.hasGreater a <;> rfl

lemma joinLaws_of_get_sup {op : VectorClock → VectorClock → VectorClock}
  (ho : ∀ vc oth : VectorClock, 0 ≤ vc.get → (op vc oth).get = vc.get ⊔ oth.get)
  {a b c : VectorClock} (ha : a.Nonneg) (hb : b.Nonneg) (hc : c.Nonneg) : JoinLaws op a b c := by
 rw [nonneg_iff] at ha hb hc
 have hab : 0 ≤ (op a b).get := by
  rw [ho a b ha]
  exact ha.trans le_sup_left
 constructor
 case nonneg => exact nonneg_iff.mpr hab
 case left_le =>
  rw [AtMost,← Pi.le_def,ho a b ha]
  exact le_sup_left
 case right_le =>
  rw [AtMost,← Pi.le_def,ho a b ha]
  exact le_sup_right
 case least =>
  intro hac hbc
  rw [AtMost,← Pi.le_def,ho a b ha]
  exact sup_le hac hbc
 case comm =>
  rw [SameReadings,← funext_iff,ho a b ha,ho b a hb]
  exact sup_comm _ _
 case assoc =>
  rw [SameReadings,← funext_iff,ho _ c hab,ho a b ha,ho a _ ha,ho b c hb]
  exact sup_assoc _ _ _
 case idem =>
  rw [SameReadings,← funext_iff,ho a a ha]
  exact sup_idem _
 case mono_left =>
  intro h
  rw [AtMost,← Pi.le_def,ho a c ha,ho b c hb]
  exact sup_le_sup_right h _
 case mono_right =>
  intro h
  rw [AtMost,← Pi.le_def,ho c a hc,ho c b hc]
  exact sup_le_sup_left h _

/-- The comparison is the strict pointwise order, antisymmetric and transitive, and both merges are
its join. -/
theorem vector_clocks_form_lattice (a b c : VectorClock) (ha : a.Nonneg) (hb : b.Nonneg)
  (hc : c.Nonneg) :
  (a.compare b = 1 ↔ b.AtMost a ∧ ∃ m, a.get m ≠ b.get m) ∧ b.compare a = -a.compare b ∧
   (a.happenedBefore b → b.happenedBefore c → a.happenedBefore c) ∧
   JoinLaws merge a b c ∧ JoinLaws mergeMap a b c := by
 refine ⟨?_,compare_swap a b,?_,?_,?_⟩
 · rw [compare_eq_one_iff,lt_iff_le_and_ne,ne_comm,Function.ne_iff]
   rfl
 · rw [happenedBefore_iff,happenedBefore_iff,happenedBefore_iff]
   exact lt_trans
 · exact joinLaws_of_get_sup (fun _ _ => get_merge_eq_sup) ha hb hc
 · exact joinLaws_of_get_sup (fun _ _ => get_mergeMap_eq_sup) ha hb hc

/-- A clock before another one, and a third that is concurrent with both and has a zero entry. -/
theorem vector_clocks_form_lattice_sample :
  let a : VectorClock := set ∅ "east" 1
  let b : VectorClock := set (set ∅ "east" 1) "west" 2
  let c : VectorClock := set (set ∅ "north" 3) "west" 0
  a.happenedBefore b = true ∧ a.concurrent c = true ∧ b.compare a = -a.compare b ∧
   JoinLaws merge a b c ∧ JoinLaws mergeMap a b c := by
 intro a b c
 have h := vector_clocks_form_lattice a b c (by unfold Nonneg; decide) (by unfold Nonneg; decide)
  (by unfold Nonneg; decide)
 exact ⟨by decide,by decide,h.2.1,h.2.2.2⟩

end VectorClock
end NovaEdge.Federation
