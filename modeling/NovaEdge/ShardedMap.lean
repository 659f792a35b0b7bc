import NovaEdge.KeyedMapReplace

/-! A map that is split into shards, each behind a lock of its own. A writer replaces the content
step by step, and a reader who collects all entries sees every shard at a moment of its own. -/
namespace NovaEdge.KeyedMap
open List

variable {κ ν : Type*} [DecidableEq κ]

inductive Edit (ν : Type*)
 | retain (shard : ℕ)
 | put (v : ν)

def edit (key : ν → κ) (merge : Option ν → ν → ν) (shard : κ → ℕ) (l : List ν)
  (m : KeyedMap κ ν) : Edit ν → KeyedMap κ ν
 | .retain i => m.deleteIf fun e => shard e.1 = i ∧ e.1 ∉ l.map key
 | .put v => upsert key merge m v

def collect (shard : κ → ℕ) (shards : ℕ) (seen : ℕ → KeyedMap κ ν) : KeyedMap κ ν :=
 (List.range shards).foldl (fun acc i => acc ∪ (seen i).deleteIf fun e => shard e.1 ≠ i) ∅

lemma find?_union (m m' : KeyedMap κ ν) (k : κ) :
  (m ∪ m').find? k = (m.find? k).or (m'.find? k) := by
 cases hk : m.find? k with
 | none => exact AList.lookup_union_right (AList.lookup_eq_none.mp hk)
 | some v =>
  have hm : k ∈ m := by
   rw [← AList.lookup_isSome]
   exact isSome_of_eq_some hk
  exact (AList.lookup_union_left hm).trans hk

/-- An entry is seen as it is when its shard is read. -/
theorem find?_collect {sha : κ → ℕ} {shs : ℕ} (seen : ℕ → KeyedMap κ ν) {k : κ}
  (hk : sha k < shs) : (collect sha shs seen).find? k = (seen (sha k)).find? k := by
 suffices h : ∀ n, ((List.range n).foldl (fun acc i => acc ∪ (seen i).deleteIf
   fun e => sha e.1 ≠ i) ∅).find? k = if sha k < n then (seen (sha k)).find? k else none by
  rw [collect,h,if_pos hk]
 intro n
 induction n with
 | zero => rfl
 | succ n ih =>
  rw [range_succ,foldl_append,foldl_cons,foldl_nil,find?_union,ih,find?_deleteIf]
  rcases Nat.lt_trichotomy (sha k) n with h | h | h
  · have hn : sha k ≠ n := by omega
    have hl : sha k < n+1 := by omega
    cases (seen n).find? k <;> simp [h,hl,hn]
  · cases hv : (seen n).find? k <;> simp [h,hv]
  · have hn : sha k ≠ n := by omega
    have h1 : ¬ sha k < n := by omega
    have h2 : ¬ sha k < n+1 := by omega
    cases (seen n).find? k <;> simp [h1,h2,hn]

section
variable {key : ν → κ} {mg : Option ν → ν → ν} {sh : κ → ℕ} {l : List ν}

def Edit.Of (l : List ν) : Edit ν → Prop
 | .retain _ => True
 | .put v => v ∈ l

lemma find?_retain (m : KeyedMap κ ν) (i : ℕ) (k : κ) : (edit key mg sh l m (.retain i)).find? k =
   if sh k = i ∧ k ∉ l.map key then none else m.find? k := by
 rw [edit,find?_deleteIf]
 by_cases h : sh k = i ∧ k ∉ l.map key
 · rw [if_pos h]
   cases m.find? k with
   | none => rfl
   | some v => exact Option.filter_some_neg (by simpa using h)
 · rw [if_neg h]
   cases m.find? k with
   | none => rfl
   | some v => exact Option.filter_some_pos (by rw [decide_eq_false h]; rfl)

variable {edi : List (Edit ν)} {m : KeyedMap κ ν}

lemma isSome_find?_edits {k : κ} (hk : k ∈ l.map key) (hm : (m.find? k).isSome) :
  ((edi.foldl (edit key mg sh l) m).find? k).isSome := by
 induction edi generalizing m with
 | nil => exact hm
 | cons e edi ih =>
  apply ih
  cases e with
  | retain i => rwa [find?_retain,if_neg (fun h => h.2 hk)]
  | put v =>
   rw [edit,upsert,find?_set]
   split_ifs
   · rfl
   · exact hm

lemma find?_edits_eq_some (ho : ∀ e ∈ edi, e.Of l) {k : κ} {v : ν}
  (h : (edi.foldl (edit key mg sh l) m).find? k = some v) :
  m.find? k = some v ∨ ∃ w ∈ l, key w = k ∧ ∃ old, v = mg old w := by
 induction edi using List.reverseRecOn generalizing v with
 | nil => exact .inl h
 | append_singleton edi e ih =>
  have hn : ∀ e ∈ edi, e.Of l := fun e he => ho e (mem_append_left _ he)
  rw [foldl_append,foldl_cons,foldl_nil] at h
  cases e with
  | retain i =>
   rw [find?_retain] at h
   split_ifs at h
   exact ih hn h
  | put w =>
   rw [edit,upsert,find?_set_eq_some_iff] at h
   rcases h with ⟨hk,hv⟩ | ⟨-,h⟩
   · exact .inr ⟨w,ho (.put w) (by simp),hk.symm,_,hv⟩
   · exact ih hn h

lemma find?_edits_of_confirmed (ho : ∀ e ∈ edi, e.Of l) {k : κ}
  (ht : (m.find? k).isSome → k ∈ l.map key)
  (hc : ∀ w ∈ l, key w = k → m.find? k = some (mg (m.find? k) w)) :
  (edi.foldl (edit key mg sh l) m).find? k = m.find? k := by
 induction edi using List.reverseRecOn with
 | nil => rfl
 | append_singleton edi e ih =>
  have hn := ih (fun e he => ho e (mem_append_left _ he))
  rw [foldl_append,foldl_cons,foldl_nil]
  cases e with
  | retain i =>
   rw [find?_retain,hn]
   split_ifs with h
   · exact (not_isSome_iff_eq_none.mp fun hm => h.2 (ht hm)).symm
   · rfl
  | put w =>
   rw [edit,upsert,find?_set]
   split_ifs with h
   · rw [← h,hn]
     exact (hc w (ho (.put w) (by simp)) h.symm).symm
   · exact hn

lemma foldl_edit_put (m : KeyedMap κ ν) (l' : List ν) :
  (l'.map Edit.put).foldl (edit key mg sh l) m = upsertAll key mg m l' := by
 rw [foldl_map]
 rfl

lemma find?_foldl_retain (shs : ℕ) (m : KeyedMap κ ν) (k : κ) :
  (((List.range shs).map Edit.retain).foldl (edit key mg sh l) m).find? k =
   if sh k < shs ∧ k ∉ l.map key then none else m.find? k := by
 induction shs with
 | zero => simp
 | succ n ih =>
  rw [range_succ,map_append,foldl_append,map_cons,map_nil, foldl_cons,foldl_nil,find?_retain,ih]
  by_cases hk : k ∈ l.map key
  · simp [hk]
  · rcases Nat.lt_trichotomy (sh k) n with h | h | h
    · simp [hk,h,Nat.lt_succ_of_lt h]
    · simp [hk,h]
    · have h1 : ¬ sh k < n := by omega
      have h2 : ¬ sh k < n+1 := by omega
      have h3 : sh k ≠ n := by omega
      simp [h1,h2,h3]

lemma find?_upsertAll_congr {m' : KeyedMap κ ν} (h : ∀ k, m.find? k = m'.find? k) (l : List ν)
  (k : κ) : (upsertAll key mg m l).find? k = (upsertAll key mg m' l).find? k := by
 induction l generalizing m m' with
 | nil => exact h k
 | cons v l ih =>
  apply ih
  intro k'
  simp only [upsert,find?_set,h]

/-- The edits together are the replacement. -/
theorem find?_replace_edits {shs : ℕ} (hh : ∀ k, sh k < shs) (m : KeyedMap κ ν)
  (k : κ) : (((List.range shs).map Edit.retain ++ l.map Edit.put).foldl
   (edit key mg sh l) m).find? k = (replaceAll key mg m l).find? k := by
 rw [foldl_append,foldl_edit_put,replaceAll]
 apply find?_upsertAll_congr
 intro k'
 rw [find?_foldl_retain,find?_retainKeys]
 by_cases hk : k' ∈ l.map key
 · rw [if_neg fun h => h.2 hk,if_pos hk]
 · rw [if_pos ⟨hh k',hk⟩,if_neg hk]

end

end NovaEdge.KeyedMap
