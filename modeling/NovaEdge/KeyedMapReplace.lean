import NovaEdge.KeyedMap

/-! Replacing the content of a map by a list of values that carry their own key: stale keys are
removed first and the values are then put one after the other, each merged with what stands under
its key at that moment. -/
namespace NovaEdge.KeyedMap
open List

variable {κ ν : Type*} [DecidableEq κ]

def upsert (key : ν → κ) (merge : Option ν → ν → ν) (m : KeyedMap κ ν) (v : ν) : KeyedMap κ ν :=
 m.set (key v) (merge (m.find? (key v)) v)

def upsertAll (key : ν → κ) (merge : Option ν → ν → ν) (m : KeyedMap κ ν) (l : List ν) :
  KeyedMap κ ν :=
 l.foldl (upsert key merge) m

def retainKeys (m : KeyedMap κ ν) (ks : List κ) : KeyedMap κ ν := m.deleteIf fun e => e.1 ∉ ks

def replaceAll (key : ν → κ) (merge : Option ν → ν → ν) (m : KeyedMap κ ν) (l : List ν) :
  KeyedMap κ ν :=
 upsertAll key merge (m.retainKeys (l.map key)) l

variable (key : ν → κ) (merge : Option ν → ν → ν) (m : KeyedMap κ ν) (l : List ν)

lemma find?_retainKeys (ks : List κ) (k : κ) :
  (m.retainKeys ks).find? k = if k ∈ ks then m.find? k else none := by
 rw [retainKeys,find?_deleteIf]
 by_cases h : k ∈ ks <;> cases m.find? k <;> simp [h]

lemma find?_upsertAll_of_notMem {k : κ} (h : k ∉ l.map key) :
  (upsertAll key merge m l).find? k = m.find? k := by
 induction l generalizing m with
 | nil => rfl
 | cons v l ih =>
  obtain ⟨hv,hl⟩ : k ≠ key v ∧ k ∉ l.map key := by
   rw [map_cons,mem_cons,not_or] at h
   exact h
  calc (upsertAll key merge (upsert key merge m v) l).find? k
    = (upsert key merge m v).find? k := ih _ hl
   _ = m.find? k := find?_set_ne m _ hv

lemma isSome_find?_upsertAll {k : κ} (h : k ∈ l.map key) :
  ((upsertAll key merge m l).find? k).isSome := by
 induction l generalizing m with
 | nil => simp at h
 | cons v l ih =>
  change ((upsertAll key merge (upsert key merge m v) l).find? k).isSome
  by_cases hl : k ∈ l.map key
  · exact ih _ hl
  · have hv : k = key v := by simpa [hl] using h
    rw [find?_upsertAll_of_notMem key merge _ l hl,hv,upsert,find?_set_self]
    rfl

/-- With distinct keys every value ends up merged with what stood under its key before. -/
lemma find?_upsertAll_of_nodup (hn : (l.map key).Nodup) {v : ν} (hv : v ∈ l) :
  (upsertAll key merge m l).find? (key v) = some (merge (m.find? (key v)) v) := by
 induction l generalizing m with
 | nil => simp at hv
 | cons w l ih =>
  have hw : key w ∉ l.map key := (nodup_cons.mp hn).1
  change (upsertAll key merge (upsert key merge m w) l).find? (key v) = _
  rcases mem_cons.mp hv with rfl | hv
  · rw [find?_upsertAll_of_notMem key merge _ l hw,upsert,find?_set_self]
  · have hne : key v ≠ key w := by
     intro h
     exact hw (h ▸ mem_map_of_mem hv)
    rw [ih _ (nodup_cons.mp hn).2 hv,upsert,find?_set_ne m _ hne]

lemma mem_keys_iff {m : KeyedMap κ ν} {k : κ} : k ∈ m.keys ↔ (m.find? k).isSome :=
 AList.mem_keys.symm.trans AList.lookup_isSome.symm

lemma mem_keys_replaceAll (k : κ) : k ∈ (replaceAll key merge m l).keys ↔ k ∈ l.map key := by
 rw [mem_keys_iff]
 constructor
 · intro h
   by_contra hk
   rw [replaceAll,find?_upsertAll_of_notMem key merge _ l hk,find?_retainKeys,if_neg hk] at h
   simp at h
 · exact isSome_find?_upsertAll key merge _ l

lemma find?_replaceAll_of_nodup (hn : (l.map key).Nodup) {v : ν} (hv : v ∈ l) :
  (replaceAll key merge m l).find? (key v) = some (merge (m.find? (key v)) v) := by
 rw [replaceAll,find?_upsertAll_of_nodup key merge _ l hn hv,find?_retainKeys,
  if_pos (mem_map_of_mem hv)]

lemma mem_values_replaceAll_of_nodup (hn : (l.map key).Nodup) {v : ν} :
  v ∈ (replaceAll key merge m l).values ↔ ∃ w ∈ l, v = merge (m.find? (key w)) w := by
 rw [mem_values_iff]
 constructor
 · intro ⟨k,hk⟩
   have hm : k ∈ l.map key := by
    rw [← mem_keys_replaceAll key merge m l,mem_keys_iff,hk]
    rfl
   obtain ⟨w,hw,rfl⟩ := mem_map.mp hm
   rw [find?_replaceAll_of_nodup key merge m l hn hw,Option.some.injEq] at hk
   exact ⟨w,hw,hk.symm⟩
 · intro ⟨w,hw,hv⟩
   exact ⟨key w,by rw [find?_replaceAll_of_nodup key merge m l hn hw,hv]⟩

/-- The value that is put last under a key wins. -/
lemma find?_upsertAll_last (k : κ) : (upsertAll key (fun _ v => v) m l).find? k =
      ((l.filter fun v => key v = k).getLast?).or (m.find? k) := by
 induction l using List.reverseRecOn with
 | nil => rfl
 | append_singleton l v ih =>
  have hp : (upsertAll key (fun _ v => v) m (l ++ [v])).find? k =
    ((upsertAll key (fun _ v => v) m l).set (key v) v).find? k := by
   simp [upsertAll,upsert]
  rw [hp,filter_append]
  by_cases hk : key v = k
  · simp [← hk]
  · rw [find?_set_ne _ _ (Ne.symm hk),ih]
    simp [hk]

lemma find?_replaceAll_last (k : κ) :
  (replaceAll key (fun _ v => v) m l).find? k = (l.filter fun v => key v = k).getLast? := by
 rw [replaceAll,find?_upsertAll_last,find?_retainKeys]
 split_ifs with hk
 · obtain ⟨v,hv,hke⟩ := mem_map.mp hk
   have hm : v ∈ l.filter fun v => key v = k := by simp [hv,hke]
   rw [getLast?_eq_some_getLast (ne_nil_of_mem hm)]
   rfl
 · exact Option.or_none

/-- Under any merge, a key holds the last value given for it, merged with some earlier value. -/
lemma exists_find?_replaceAll (k : κ) : ∃ old, (replaceAll key merge m l).find? k =
      ((l.filter fun v => key v = k).getLast?).map (merge old) := by
 by_cases hk : k ∈ l.map key
 · suffices h : ∀ m : KeyedMap κ ν, ∃ old, (upsertAll key merge m l).find? k =
     ((l.filter fun v => key v = k).getLast?).map (merge old) from h _
   induction l using List.reverseRecOn with
   | nil => simp at hk
   | append_singleton l v ih =>
    intro m
    by_cases hv : key v = k
    · refine ⟨(upsertAll key merge m l).find? k,?_⟩
      simp [upsertAll,upsert,foldl_append,filter_append,hv]
    · have hl : k ∈ l.map key := by simpa [mem_append,Ne.symm hv] using hk
      obtain ⟨old,ho⟩ := ih hl m
      refine ⟨old,?_⟩
      have hp : (upsertAll key merge m (l ++ [v])).find? k = (upsertAll key merge m l).find? k := by
       simp [upsertAll,upsert,foldl_append,Ne.symm hv]
      rw [hp,ho]
      simp [filter_append,hv]
 · refine ⟨none,?_⟩
   have hn : (l.filter fun v => key v = k) = [] := by
    rw [filter_eq_nil_iff]
    intro v hv hke
    exact hk (mem_map.mpr ⟨v,hv,by simpa using hke⟩)
   rw [replaceAll,find?_upsertAll_of_notMem key merge _ l hk,find?_retainKeys,if_neg hk,hn]
   rfl

lemma length_replaceAll : (replaceAll key merge m l).entries.length = (l.map key).dedup.length := by
 have hp : (replaceAll key merge m l).keys.Perm (l.map key).dedup := by
  rw [perm_ext_iff_of_nodup (AList.keys_nodup _) (nodup_dedup _)]
  intro k
  rw [mem_keys_replaceAll,mem_dedup]
 simpa [AList.keys,List.keys] using hp.length_eq

/-- One entry for each value is the same as distinct keys. -/
theorem length_replaceAll_eq_iff :
  (replaceAll key merge m l).entries.length = l.length ↔ (l.map key).Nodup := by
 rw [length_replaceAll]
 constructor
 · intro h
   have hu := dedup_sublist (l.map key)
   rw [← hu.eq_of_length (by simpa using h)]
   exact nodup_dedup _
 · intro h
   rw [h.dedup,length_map]

/-- One entry for each value of the list, holding what the replacement prescribes for it. -/
def HoldsEach (after : KeyedMap κ ν) : Prop := after.entries.length = l.length ∧
  ∀ v ∈ l, after.find? (key v) = some (merge (m.find? (key v)) v)

theorem holdsEach_replaceAll_iff :
  HoldsEach key merge m l (replaceAll key merge m l) ↔ (l.map key).Nodup := by
 constructor
 · intro h
   exact (length_replaceAll_eq_iff key merge m l).mp h.1
 · intro h
   exact ⟨(length_replaceAll_eq_iff key merge m l).mpr h,
    fun v hv => find?_replaceAll_of_nodup key merge m l h hv⟩

end NovaEdge.KeyedMap
