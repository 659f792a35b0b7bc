import NovaEdge.KeyedMapReplace

/-! Owners of the values of a map. Values are put into the map, and one that stands under the key
already keeps its owner: which keys the owner holds then, and when it holds just the values that
were put. -/
namespace NovaEdge.KeyedMap
open List

variable {κ ν : Type*} [DecidableEq κ] {own : ν → Prop} {key : ν → κ} {mg : Option ν → ν → ν}
 {m : KeyedMap κ ν} {l : List ν} {k : κ}

def Holds (owned : ν → Prop) (m : KeyedMap κ ν) (k : κ) : Prop := ∃ v, m.find? k = some v ∧ owned v

def Taken (owned : ν → Prop) (m : KeyedMap κ ν) (k : κ) : Prop :=
 ∃ v, m.find? k = some v ∧ ¬ owned v

def HoldsExactly (owned : ν → Prop) (key : ν → κ) (m : KeyedMap κ ν) (l : List ν) : Prop :=
 ∀ k v, m.find? k = some v ∧ owned v ↔ v ∈ l ∧ key v = k

/-- A value is put as it is if its key is free, and has the owner of the old value otherwise. -/
structure KeepsOwner (owned : ν → Prop) (merge : Option ν → ν → ν) : Prop where
 fresh : ∀ v, merge none v = v
 kept : ∀ old v, owned (merge (some old) v) ↔ owned old

lemma find?_eq_none_iff_free : m.find? k = none ↔ ¬ Holds own m k ∧ ¬ Taken own m k := by
 cases hk : m.find? k with
 | none => simp [Holds,Taken,hk]
 | some v =>
  by_cases hv : own v
  · simp [Holds,hk,hv]
  · simp [Taken,hk,hv]

attribute [local simp] upsert

section
variable (hme : KeepsOwner own mg)
include hme

lemma KeepsOwner.holds_upsert_iff {v : ν} (hv : own v) :
  Holds own (upsert key mg m v) k ↔ Holds own m k ∨ k = key v ∧ m.find? k = none := by
 by_cases hk : k = key v
 · subst hk
   cases hf : m.find? (key v) with
   | none => simp [Holds,hf,hme.fresh,hv]
   | some old => simp [Holds,hf,hme.kept]
 · simp [Holds,find?_set_ne _ _ hk,hk]

lemma KeepsOwner.taken_upsert_iff {v : ν} (hv : own v) :
  Taken own (upsert key mg m v) k ↔ Taken own m k := by
 by_cases hk : k = key v
 · subst hk
   cases hf : m.find? (key v) with
   | none => simp [Taken,hf,hme.fresh,hv]
   | some old => simp [Taken,hf,hme.kept]
 · simp [Taken,find?_set_ne _ _ hk]

lemma KeepsOwner.taken_upsertAll_iff (hl : ∀ v ∈ l, own v) :
  Taken own (upsertAll key mg m l) k ↔ Taken own m k := by
 induction l generalizing m with
 | nil => rfl
 | cons v l ih =>
  have ht := @ih (upsert key mg m v) fun u hu => hl u (mem_cons_of_mem _ hu)
  exact ht.trans (hme.taken_upsert_iff (hl v mem_cons_self))

lemma KeepsOwner.holds_upsertAll_iff (hl : ∀ v ∈ l, own v) : Holds own (upsertAll key mg m l) k ↔
   Holds own m k ∨ k ∈ l.map key ∧ ¬ Taken own m k := by
 induction l generalizing m with
 | nil => simp [upsertAll]
 | cons v l ih =>
  have hv := hl v mem_cons_self
  have ht := @ih (upsert key mg m v) fun u hu => hl u (mem_cons_of_mem _ hu)
  have hf : m.find? k = none ↔ ¬ Holds own m k ∧ ¬ Taken own m k := find?_eq_none_iff_free
  rw [hme.holds_upsert_iff hv,hme.taken_upsert_iff hv,hf] at ht
  refine ht.trans ?_
  by_cases hh : Holds own m k
  · simp [hh]
  · simp [hh,or_and_right]

lemma KeepsOwner.forall_upsertAll {P : ν → Prop} (hm : ∀ k v, m.find? k = some v → own v → P v)
  (hf : ∀ v ∈ l, P v) (hk : ∀ old, P old → ∀ v ∈ l, P (mg (some old) v)) {v : ν}
  (hfi : (upsertAll key mg m l).find? k = some v) (hv : own v) : P v := by
 induction l generalizing m with
 | nil => exact hm k v hfi hv
 | cons u l ih =>
  refine @ih (upsert key mg m u) ?_ (fun x hx => hf x (mem_cons_of_mem _ hx))
   (fun old ho x hx => hk old ho x (mem_cons_of_mem _ hx)) hfi
  intro k' v' hf' hv'
  rcases find?_set_eq_some_iff.mp hf' with ⟨rfl,rfl⟩ | ⟨-,hf'⟩
  · cases ho : m.find? (key u) with
    | none =>
     rw [hme.fresh]
     exact hf u mem_cons_self
    | some old =>
     rw [ho,hme.kept] at hv'
     exact hk old (hm _ old ho hv') u mem_cons_self
  · exact hm k' v' hf' hv'

end

section
variable (hme : KeepsOwner own mg) (hl : ∀ v ∈ l, own v) (hnd : (l.map key).Nodup)
 (hre : ∀ k old, m.find? k = some old → own old → ∀ v ∈ l, mg (some old) v = v)
include hme hnd hre

/-- Under a key that no one else holds, a value is found as it was put. -/
lemma KeepsOwner.find?_upsertAll_of_not_taken {v : ν} (hv : v ∈ l)
  (hf : ¬ Taken own m (key v)) : (upsertAll key mg m l).find? (key v) = some v := by
 rw [find?_upsertAll_of_nodup key mg m l hnd hv]
 cases ho : m.find? (key v) with
 | none => rw [hme.fresh]
 | some old =>
  have hw : own old := by
   by_contra hn
   exact hf ⟨old,ho,hn⟩
  rw [hre _ old ho hw v hv]

include hl

theorem KeepsOwner.holdsExactly_upsertAll_iff : HoldsExactly own key (upsertAll key mg m l) l ↔
      (∀ k, Holds own m k → k ∈ l.map key) ∧ ∀ k ∈ l.map key, ¬ Taken own m k := by
 constructor
 · intro hx
   constructor
   · intro k hh
     have ha : Holds own (upsertAll key mg m l) k :=
      (hme.holds_upsertAll_iff hl).mpr (.inl hh)
     obtain ⟨v,hf,hv⟩ := ha
     obtain ⟨hm,rfl⟩ := (hx k v).mp ⟨hf,hv⟩
     exact mem_map_of_mem hm
   · intro k hk ht
     obtain ⟨v,hv,rfl⟩ := mem_map.mp hk
     have ha : Taken own (upsertAll key mg m l) (key v) := (hme.taken_upsertAll_iff hl).mpr ht
     obtain ⟨u,hf,hu⟩ := ha
     have hp := ((hx (key v) v).mpr ⟨hv,rfl⟩).1
     rw [hf] at hp
     cases hp
     exact hu (hl _ hv)
 · intro ⟨hh,hr⟩ k v
   constructor
   · intro ⟨hf,hv⟩
     have hke : k ∈ l.map key := by
      rcases (hme.holds_upsertAll_iff hl).mp ⟨v,hf,hv⟩ with hb | hp
      · exact hh k hb
      · exact hp.1
     obtain ⟨u,hu,rfl⟩ := mem_map.mp hke
     rw [hme.find?_upsertAll_of_not_taken hnd hre hu (hr _ hke)] at hf
     cases hf
     exact ⟨hu,rfl⟩
   · intro ⟨hv,hke⟩
     subst hke
     have ho := hme.find?_upsertAll_of_not_taken hnd hre hv (hr _ (mem_map_of_mem hv))
     exact ⟨ho,hl v hv⟩

end

end NovaEdge.KeyedMap
