import NovaEdge.KeyedMap

/-! A map of values made from the entries of a source map, brought in line with a new source:
entries whose key is gone are removed, and entries whose source is new or has changed are made
again. -/
namespace NovaEdge.KeyedMap
open List Option

variable {κ α β γ : Type*} [DecidableEq κ]

def removeGone (old new : KeyedMap κ α) (m : KeyedMap κ β) : KeyedMap κ β :=
 old.pairs.foldl (fun acc e => if (new.find? e.1).isNone then acc.delete e.1 else acc) m

def putWhere (p : κ × α → Bool) (make : α → β) (source : KeyedMap κ α) (m : KeyedMap κ β) :
  KeyedMap κ β :=
 source.pairs.foldl (fun acc e => if p e then acc.set e.1 (make e.2) else acc) m

def patch [DecidableEq α] (make : α → β) (old new : KeyedMap κ α) (m : KeyedMap κ β) :
  KeyedMap κ β :=
 let added := putWhere (fun e => (old.find? e.1).isNone) make new (removeGone old new m)
 putWhere (fun e => (old.find? e.1).any (· ≠ e.2)) make new added

lemma find?_removeGone (old new : KeyedMap κ α) (m : KeyedMap κ β) (k : κ) :
  (removeGone old new m).find? k =
   if (old.find? k).isSome ∧ new.find? k = none then none else m.find? k := by
 rw [removeGone,find?_foldl_delete fun e : κ × α => (new.find? e.1).isNone]
 have hf : (∃ e ∈ old.pairs, e.1 = k ∧ (new.find? e.1).isNone) ↔
   (old.find? k).isSome ∧ new.find? k = none := by
  constructor
  · rintro ⟨⟨k',a⟩,he,rfl,hn⟩
    rw [mem_pairs_iff.mp he]
    exact ⟨rfl,isNone_iff_eq_none.mp hn⟩
  · intro ⟨ho,hn⟩
    obtain ⟨a,ha⟩ := isSome_iff_exists.mp ho
    exact ⟨(k,a),mem_pairs_iff.mpr ha,rfl,by simp [hn]⟩
 simp only [hf]

variable (p : κ × α → Bool)

lemma find?_foldl_set_of_notMem (make : α → β) (l : List (κ × α)) (m : KeyedMap κ β) {k : κ}
  (h : k ∉ l.map Prod.fst) :
  (l.foldl (fun acc e => if p e then acc.set e.1 (make e.2) else acc) m).find? k = m.find? k := by
 induction l generalizing m with
 | nil => rfl
 | cons e l ih =>
  obtain ⟨he,hl⟩ : k ≠ e.1 ∧ k ∉ l.map Prod.fst := by
   rw [map_cons,mem_cons,not_or] at h
   exact h
  rw [foldl_cons,ih _ hl]
  split_ifs
  · exact find?_set_ne m _ he
  · rfl

lemma find?_foldl_set_of_mem (make : α → β) (l : List (κ × α)) (hn : (l.map Prod.fst).Nodup)
  (m : KeyedMap κ β) {k : κ} {a : α} (h : (k,a) ∈ l) :
  (l.foldl (fun acc e => if p e then acc.set e.1 (make e.2) else acc) m).find? k =
   if p (k,a) then some (make a) else m.find? k := by
 induction l generalizing m with
 | nil => simp at h
 | cons e l ih =>
  obtain ⟨hf,hn⟩ := nodup_cons.mp hn
  rw [foldl_cons]
  rcases mem_cons.mp h with rfl | h
  · rw [find?_foldl_set_of_notMem p make l _ hf]
    split_ifs
    · exact find?_set_self m k _
    · rfl
  · have hne : k ≠ e.1 := by
     intro hk
     exact hf (hk ▸ mem_map_of_mem h)
    rw [ih hn _ h]
    have ha : (if p e then m.set e.1 (make e.2) else m).find? k = m.find? k := by
     split_ifs
     · exact find?_set_ne m _ hne
     · rfl
    rw [ha]

lemma find?_foldl_set_iff {l : List (κ × α)}
  (ho : ∀ k a b, (k,a) ∈ l → (k,b) ∈ l → a = b) {k : κ} {a : α} :
  (l.foldl (fun m e => m.set e.1 e.2) (∅ : KeyedMap κ α)).find? k = some a ↔ (k,a) ∈ l := by
 induction l using List.reverseRecOn with
 | nil => simp
 | append_singleton l e ih =>
  have ho' : ∀ k a b, (k,a) ∈ l → (k,b) ∈ l → a = b := fun k a b ha hb =>
   ho k a b (mem_append_left _ ha) (mem_append_left _ hb)
  rw [foldl_append,foldl_cons,foldl_nil,find?_set_eq_some_iff,ih ho', mem_append,mem_singleton]
  constructor
  · rintro (⟨rfl,rfl⟩ | ⟨-,hm⟩)
    · exact Or.inr rfl
    · exact Or.inl hm
  · intro hm
    by_cases hk : k = e.1
    · have hl : (k,e.2) ∈ l ++ [e] := by simp [hk]
      exact Or.inl ⟨hk,ho k a e.2 (by simpa using hm) hl⟩
    · rcases hm with hm | rfl
      · exact Or.inr ⟨hk,hm⟩
      · exact absurd rfl hk

attribute [local simp] Option.filter

/-- In whatever order the entries of a map are gone through, each puts its own value. -/
lemma find?_foldl_set_of_perm (make : α → β) {src : KeyedMap κ α} {l : List (κ × α)}
  (hl : l.Perm src.pairs) (m : KeyedMap κ β) (k : κ) :
  (l.foldl (fun acc e => if p e then acc.set e.1 (make e.2) else acc) m).find? k =
   (((src.find? k).filter fun a => p (k,a)).map make).or (m.find? k) := by
 cases hk : src.find? k with
 | none =>
  have hf : k ∉ l.map Prod.fst := by
   intro hm
   obtain ⟨⟨k',a⟩,he,rfl⟩ := mem_map.mp hm
   rw [hl.mem_iff,mem_pairs_iff,hk] at he
   cases he
  exact find?_foldl_set_of_notMem p make _ m hf
 | some a =>
  have hn : (l.map Prod.fst).Nodup := (hl.map Prod.fst).nodup_iff.mpr src.pairs_keys_nodup
  have hm : (k,a) ∈ l := hl.mem_iff.mpr (mem_pairs_iff.mpr hk)
  rw [find?_foldl_set_of_mem p make l hn m hm]
  cases hp : p (k,a) <;> simp [hp]

lemma find?_putWhere (make : α → β) (src : KeyedMap κ α) (m : KeyedMap κ β) (k : κ) :
  (putWhere p make src m).find? k =
   (((src.find? k).filter fun a => p (k,a)).map make).or (m.find? k) :=
 find?_foldl_set_of_perm p make (List.Perm.refl _) m k

variable [DecidableEq α] (make : α → β) (old new : KeyedMap κ α) (m : KeyedMap κ β)

/-- The patched map has the keys of the new source. An entry whose source is as before stays. -/
theorem find?_patch (hm : ∀ k, old.find? k = none → m.find? k = none) (k : κ) :
  (patch make old new m).find? k =
   (new.find? k).bind fun a => if old.find? k = some a then m.find? k else some (make a) := by
 rw [patch,find?_putWhere,find?_putWhere,find?_removeGone]
 cases hn : new.find? k with
 | none =>
  cases ho : old.find? k with
  | none => simp [hm k ho]
  | some b => simp
 | some a =>
  cases ho : old.find? k with
  | none => simp [ho]
  | some b =>
   by_cases hb : b = a <;> simp [ho,hb]

/-- Each entry that stays must already look as if it were made again. -/
theorem patch_agrees_iff (view : β → γ) (hm : ∀ k, old.find? k = none → m.find? k = none) :
  (∀ k, ((patch make old new m).find? k).map view = (new.find? k).map fun a => view (make a)) ↔
   ∀ k a, old.find? k = some a → new.find? k = some a →
    (m.find? k).map view = some (view (make a)) := by
 constructor
 · intro h k a ho hn
   have hk := h k
   rw [find?_patch make old new m hm,hn,bind_some,if_pos ho,map_some] at hk
   exact hk
 · intro h k
   rw [find?_patch make old new m hm]
   cases hn : new.find? k with
   | none => rfl
   | some a =>
    rw [bind_some]
    split_ifs with ho
    · rw [h k a ho hn,map_some]
    · rfl

end NovaEdge.KeyedMap
