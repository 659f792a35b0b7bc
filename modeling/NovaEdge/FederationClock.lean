import Mathlib.Order.Basic
import NovaEdge.KeyedMap

/-! Vector clocks of the federation package. A clock is a Go `map[string]int64`; a member
without an entry reads as zero. Causality is the pointwise order of the readings. -/
namespace NovaEdge.Federation
open List

def maxInt64 : ℤ := 2^63 - 1

abbrev VectorClock := KeyedMap String Int64

namespace VectorClock

def get (vc : VectorClock) (member : String) : ℤ := ((vc.find? member).getD 0).toInt

def increment (vc : VectorClock) (member : String) : VectorClock :=
 vc.set member ((vc.find? member).getD 0+1)

def raise (vc : VectorClock) (member : String) (value : Int64) : VectorClock :=
 if vc.get member < value.toInt then vc.set member value else vc

def mergeMap (vc clocks : VectorClock) : VectorClock :=
 clocks.entries.foldl (fun acc e => acc.raise e.1 e.2) vc

def hasGreater (vc other : VectorClock) : Bool :=
 (vc.keys ++ other.keys).any fun m => decide (other.get m < vc.get m)

/-- `1` after, `-1` before, and `0` both for concurrent and for equal clocks. -/
def compare (vc other : VectorClock) : ℤ :=
 if vc.hasGreater other && !other.hasGreater vc then 1
 else if other.hasGreater vc && !vc.hasGreater other then -1
 else 0

def happenedBefore (vc other : VectorClock) : Bool := vc.compare other = -1

def happenedAfter (vc other : VectorClock) : Bool := vc.compare other = 1

def concurrent (vc other : VectorClock) : Bool := vc.compare other = 0

@[simp] lemma get_empty (m : String) : get (∅ : VectorClock) m = 0 := rfl

variable (vc : VectorClock)

lemma get_le_maxInt64 (m : String) : vc.get m ≤ maxInt64 := by
 have h := Int64.toInt_lt ((vc.find? m).getD 0)
 unfold get maxInt64
 omega

lemma get_set (k m : String) (v : Int64) :
  get (vc.set k v) m = if m = k then v.toInt else vc.get m := by
 unfold get
 rw [KeyedMap.find?_set]
 split_ifs <;> rfl

variable {m : String}

lemma get_increment_self {vc : VectorClock} (h : vc.get m < maxInt64) :
  (vc.increment m).get m = vc.get m+1 := by
 have hl := Int64.le_toInt ((vc.find? m).getD 0)
 unfold maxInt64 get at h
 unfold increment
 rw [get_set,if_pos rfl,Int64.toInt_add]
 change (((vc.find? m).getD 0).toInt+1).bmod (2^64) = ((vc.find? m).getD 0).toInt+1
 rw [Int.bmod_eq_of_le] <;> omega

lemma get_increment_ne {k : String} (h : m ≠ k) : (vc.increment k).get m = vc.get m := by
 simp [increment,get_set,h]

lemma get_eq_zero_of_notMem {vc : VectorClock} (h : m ∉ vc.keys) : vc.get m = 0 := by
 have hn : AList.lookup m vc = none := AList.lookup_eq_none.mpr h
 simp [get,KeyedMap.find?,hn]

lemma get_raise (k m : String) (v : Int64) :
  (vc.raise k v).get m = if m = k then max (vc.get m) v.toInt else vc.get m := by
 unfold raise
 split_ifs with hv hm hm
 · subst hm
   rw [get_set,if_pos rfl,max_eq_right hv.le]
 · rw [get_set,if_neg hm]
 · subst hm
   rw [max_eq_left (not_lt.mp hv)]
 · rfl

lemma get_foldl_raise {l : List (Σ _ : String, Int64)} (hl : l.NodupKeys) (vc : VectorClock)
  (m : String) : get (l.foldl (fun acc e => acc.raise e.1 e.2) vc) m =
   (l.dlookup m).elim (vc.get m) fun v => max (vc.get m) v.toInt := by
 induction l generalizing vc with
 | nil => rfl
 | cons e l ih =>
  obtain ⟨hn,hl'⟩ := nodupKeys_cons.mp hl
  rw [foldl_cons,ih hl',get_raise]
  by_cases hm : m = e.1
  · subst hm
    have hnn : l.dlookup e.1 = none := dlookup_eq_none.mpr hn
    rw [dlookup_cons_eq,hnn]
    simp
  · rw [dlookup_cons_ne _ _ hm,if_neg hm]

lemma get_mergeMap (cks : VectorClock) (m : String) : (vc.mergeMap cks).get m =
      (cks.find? m).elim (vc.get m) fun v => max (vc.get m) v.toInt :=
 get_foldl_raise cks.nodupKeys vc m

lemma le_mergeMap (cks : VectorClock) : vc.get ≤ (vc.mergeMap cks).get := by
 intro m
 rw [get_mergeMap]
 cases cks.find? m with
 | none => exact le_rfl
 | some v => exact le_max_left _ _

lemma mergeMap_ge {vc : VectorClock} (h0 : 0 ≤ vc.get) (cks : VectorClock) :
  cks.get ≤ (vc.mergeMap cks).get := by
 intro m
 rw [get_mergeMap]
 unfold get
 cases cks.find? m with
 | none => exact h0 m
 | some v => exact le_max_right _ _

lemma hasGreater_iff (oth : VectorClock) :
  vc.hasGreater oth = true ↔ ∃ m, oth.get m < vc.get m := by
 simp only [hasGreater,any_eq_true,decide_eq_true_eq,mem_append]
 constructor
 · intro ⟨m,_,hm⟩
   exact ⟨m,hm⟩
 · intro ⟨m,hm⟩
   refine ⟨m,?_,hm⟩
   by_contra hn
   obtain ⟨h1,h2⟩ := not_or.mp hn
   rw [get_eq_zero_of_notMem h1,get_eq_zero_of_notMem h2] at hm
   exact lt_irrefl _ hm

lemma not_hasGreater_iff (oth : VectorClock) : vc.hasGreater oth = false ↔ vc.get ≤ oth.get := by
 rw [← Bool.not_eq_true,hasGreater_iff,not_exists]
 simp only [not_lt,Pi.le_def]

lemma compare_eq_one_iff (oth : VectorClock) : vc.compare oth = 1 ↔ oth.get < vc.get := by
 rw [Pi.lt_def,← not_hasGreater_iff,← hasGreater_iff]
 unfold compare
 cases vc.hasGreater oth <;> cases oth.hasGreater vc <;> simp

lemma compare_eq_neg_one_iff (oth : VectorClock) : vc.compare oth = -1 ↔ vc.get < oth.get := by
 rw [Pi.lt_def,← not_hasGreater_iff,← hasGreater_iff]
 unfold compare
 cases vc.hasGreater oth <;> cases oth.hasGreater vc <;> simp

lemma compare_eq_zero_iff (oth : VectorClock) :
  vc.compare oth = 0 ↔ ¬ vc.get < oth.get ∧ ¬ oth.get < vc.get := by
 rw [← compare_eq_one_iff,← compare_eq_neg_one_iff]
 unfold compare
 split_ifs <;> simp

@[simp] lemma happenedBefore_iff (oth : VectorClock) :
  vc.happenedBefore oth = true ↔ vc.get < oth.get := by
 simp [happenedBefore,compare_eq_neg_one_iff]

@[simp] lemma happenedAfter_iff (oth : VectorClock) :
  vc.happenedAfter oth = true ↔ oth.get < vc.get := by
 simp [happenedAfter,compare_eq_one_iff]

@[simp] lemma concurrent_iff (oth : VectorClock) :
  vc.concurrent oth = true ↔ ¬ vc.get < oth.get ∧ ¬ oth.get < vc.get := by
 simp [concurrent,compare_eq_zero_iff]

lemma lt_increment {vc : VectorClock} (h : vc.get m < maxInt64) :
  vc.get < (vc.increment m).get := by
 have hm : vc.get m < (vc.increment m).get m := by
  rw [get_increment_self h]
  omega
 rw [Pi.lt_def]
 refine ⟨fun k => ?_,m,hm⟩
 by_cases hk : k = m
 · subst hk
   exact hm.le
 · rw [get_increment_ne _ hk]

end VectorClock
end NovaEdge.Federation
