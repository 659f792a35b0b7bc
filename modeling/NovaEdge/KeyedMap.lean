import Mathlib.Data.List.AList
import Mathlib.Tactic

/-! Finite maps with computable lookup, as association lists without repeated keys.
The order of the entries stands for an iteration order that the program leaves open:
nothing below `find?` may depend on it. -/
namespace NovaEdge
open List

export Option (bind_eq_some_iff filter_eq_some_iff isNone_iff_eq_none isSome_iff_exists
 isSome_iff_ne_none isSome_of_eq_some map_eq_none_iff map_eq_some_iff mem_unique
 ne_none_iff_exists' not_isSome_iff_eq_none some_ne_none)

abbrev KeyedMap (κ ν : Type*) := AList (fun _ : κ => ν)

namespace KeyedMap
variable {κ ν : Type*} [DecidableEq κ]

def find? (m : KeyedMap κ ν) (k : κ) : Option ν := AList.lookup k m

def set (m : KeyedMap κ ν) (k : κ) (v : ν) : KeyedMap κ ν := AList.insert k v m

def delete (m : KeyedMap κ ν) (k : κ) : KeyedMap κ ν := AList.erase k m

def pairs (m : KeyedMap κ ν) : List (κ × ν) := m.entries.map fun e => (e.1,e.2)

def deleteIf (m : KeyedMap κ ν) (p : κ × ν → Bool) : KeyedMap κ ν :=
 m.pairs.foldl (fun acc e => if p e then acc.delete e.1 else acc) m

def values (m : KeyedMap κ ν) : List ν := m.entries.map Sigma.snd

@[simp] lemma find?_empty (k : κ) : find? (∅ : KeyedMap κ ν) k = none := rfl

variable (m : KeyedMap κ ν)

@[simp] lemma find?_set_self (k : κ) (v : ν) : (m.set k v).find? k = some v := AList.lookup_insert m

variable {k k' : κ}

@[simp] lemma find?_set_ne (v : ν) (h : k' ≠ k) :
  (m.set k v).find? k' = m.find? k' := AList.lookup_insert_ne h

lemma find?_set (k k' : κ) (v : ν) :
  (m.set k v).find? k' = if k' = k then some v else m.find? k' := by
 split_ifs with h
 · subst h
   exact find?_set_self m k' v
 · exact find?_set_ne m v h

variable {v : ν}

lemma find?_set_eq_some_iff {m : KeyedMap κ ν} {v' : ν} :
  (m.set k v).find? k' = some v' ↔ k' = k ∧ v' = v ∨ k' ≠ k ∧ m.find? k' = some v' := by
 rw [find?_set]
 split_ifs with h
 · simp [h,eq_comm]
 · simp [h]

@[simp] lemma find?_delete_self (k : κ) : (m.delete k).find? k = none := AList.lookup_erase k m

@[simp] lemma find?_delete_ne (h : k' ≠ k) :
  (m.delete k).find? k' = m.find? k' := AList.lookup_erase_ne h

lemma find?_delete (k k' : κ) : (m.delete k).find? k' = if k' = k then none else m.find? k' := by
 split_ifs with h
 · subst h
   exact find?_delete_self m k'
 · exact find?_delete_ne m h

lemma find?_delete_eq_some_iff {m : KeyedMap κ ν} :
  (m.delete k).find? k' = some v ↔ k' ≠ k ∧ m.find? k' = some v := by
 rw [find?_delete]
 split_ifs with h <;> simp [h]

lemma mem_pairs_iff {m : KeyedMap κ ν} : (k,v) ∈ m.pairs ↔ m.find? k = some v := by
 have h := AList.mem_lookup_iff (a := k) (b := v) (s := m)
 rw [Option.mem_def] at h
 simp only [pairs,find?,mem_map,h]
 constructor
 · intro ⟨⟨k',v'⟩,he,hk⟩
   cases hk
   exact he
 · exact fun he => ⟨⟨k,v⟩,he,rfl⟩

omit [DecidableEq κ] in
lemma pairs_keys_nodup : (m.pairs.map Prod.fst).Nodup := by
 have h : m.pairs.map Prod.fst = m.keys := by simp [pairs,AList.keys,List.keys]
 rw [h]
 exact m.keys_nodup

omit [DecidableEq κ] in
lemma values_eq_map_pairs : m.values = m.pairs.map Prod.snd := by
 simp [pairs,values]

lemma mem_values_iff {m : KeyedMap κ ν} : v ∈ m.values ↔ ∃ k, m.find? k = some v := by
 rw [values_eq_map_pairs,mem_map]
 constructor
 · rintro ⟨⟨k,v'⟩,he,rfl⟩
   exact ⟨k,mem_pairs_iff.mp he⟩
 · intro ⟨k,hk⟩
   exact ⟨(k,v),mem_pairs_iff.mpr hk,rfl⟩

lemma find?_foldl_delete {α : Type*} (p : κ × α → Bool) (l : List (κ × α)) (m : KeyedMap κ ν)
  (k : κ) : (l.foldl (fun acc e => if p e then acc.delete e.1 else acc) m).find? k =
   if ∃ e ∈ l, e.1 = k ∧ p e then none else m.find? k := by
 induction l generalizing m with
 | nil => simp
 | cons e l ih =>
  rw [foldl_cons,ih]
  by_cases ht : ∃ e' ∈ l, e'.1 = k ∧ p e'
  · have hc : ∃ e' ∈ e::l, e'.1 = k ∧ p e' := by
     obtain ⟨e',he',h⟩ := ht
     exact ⟨e',mem_cons_of_mem _ he',h⟩
    rw [if_pos ht,if_pos hc]
  · rw [if_neg ht]
    by_cases hp : p e
    · rw [if_pos hp,find?_delete]
      by_cases hk : k = e.1
      · rw [if_pos hk,if_pos ⟨e,mem_cons_self,hk.symm,hp⟩]
      · have hc : ¬ ∃ e' ∈ e::l, e'.1 = k ∧ p e' := by
         intro ⟨e',he',h⟩
         rcases mem_cons.mp he' with rfl | he'
         · exact hk h.1.symm
         · exact ht ⟨e',he',h⟩
        rw [if_neg hk,if_neg hc]
    · have hc : ¬ ∃ e' ∈ e::l, e'.1 = k ∧ p e' := by
       intro ⟨e',he',h⟩
       rcases mem_cons.mp he' with rfl | he'
       · exact hp h.2
       · exact ht ⟨e',he',h⟩
      rw [if_neg hp,if_neg hc]

lemma find?_deleteIf (p : κ × ν → Bool) (k : κ) :
  (m.deleteIf p).find? k = (m.find? k).filter fun v => !p (k,v) := by
 unfold deleteIf
 rw [find?_foldl_delete]
 cases hk : m.find? k with
 | none => simp
 | some v =>
  by_cases hp : p (k,v)
  · have hx : ∃ e ∈ m.pairs, e.1 = k ∧ p e := ⟨(k,v),mem_pairs_iff.mpr hk,rfl,hp⟩
    rw [if_pos hx]
    simp [Option.filter,hp]
  · have hn : ¬ ∃ e ∈ m.pairs, e.1 = k ∧ p e := by
     rintro ⟨⟨k',v'⟩,he,rfl,hpe⟩
     rw [mem_pairs_iff,hk,Option.some.injEq] at he
     exact hp (he ▸ hpe)
    rw [if_neg hn]
    simp [Option.filter,hp]

end KeyedMap
end NovaEdge
