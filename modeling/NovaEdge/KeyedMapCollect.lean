import Mathlib.Data.List.Perm.Basic
import Mathlib.Data.Multiset.Basic
import NovaEdge.KeyedMap

/-! What a partial function picks from the values of a map, as a multiset, and how it changes with
one entry; how many entries of a map meet a condition. -/
namespace NovaEdge.KeyedMap
open List

universe u
variable {κ : Type*} {ν β : Type u} [DecidableEq κ]

def single (o : Option β) : Multiset β := (o.toList : Multiset β)

@[simp] lemma single_none : single (none : Option β) = 0 := rfl

@[simp] lemma single_some (b : β) : single (some b) = {b} := rfl

@[simp] lemma single_inj {o o' : Option β} : single o = single o' ↔ o = o' := by
 cases o <;> cases o' <;> simp [eq_comm]

omit [DecidableEq κ] in
def collected (f : ν → Option β) (m : KeyedMap κ ν) : Multiset β :=
 (m.values.filterMap f : Multiset β)

theorem collected_delete (f : ν → Option β) (m : KeyedMap κ ν) (k : κ) :
  collected f (m.delete k)+single ((m.find? k).bind f) = collected f m := by
 have ha : (m.delete k).values = (List.kerase k m.entries).map Sigma.snd := rfl
 rw [collected,collected,ha]
 by_cases hk : k ∈ List.keys m.entries
 · obtain ⟨v,l₁,l₂,hl₁,hn,hr⟩ := exists_of_kerase hk
   have hf : m.find? k = some v := by
    rw [find?,AList.lookup,hn,dlookup_append,dlookup_eq_none.mpr hl₁]
    simp
   rw [hf,hr,values,hn]
   simp only [map_append,map_cons,filterMap_append,Option.bind_some]
   cases hv : f v with
   | none => rw [filterMap_cons_none hv,single_none,add_zero]
   | some b =>
    rw [filterMap_cons_some hv,single_some,← Multiset.coe_add,← Multiset.coe_add,
     ← Multiset.cons_coe,← Multiset.singleton_add,add_comm ({b} : Multiset β),add_assoc]
 · have hf : m.find? k = none := dlookup_eq_none.mpr hk
   rw [hf,kerase_of_notMem_keys hk]
   simp [values]

theorem collected_set (f : ν → Option β) (m : KeyedMap κ ν) (k : κ) (v : ν) :
  collected f (m.set k v)+single ((m.find? k).bind f) = collected f m+single (f v) := by
 have ha : (m.set k v).values = v::(m.delete k).values := rfl
 have hse : collected f (m.set k v) = single (f v)+collected f (m.delete k) := by
  rw [collected,collected,ha]
  cases hv : f v <;> simp [hv]
 rw [hse,add_assoc,collected_delete,add_comm]

lemma countP_values_set (m : KeyedMap κ ν) (k : κ) (v : ν) (p : ν → Bool) :
  (m.set k v).values.countP p+((m.find? k).any p).toNat = m.values.countP p+(p v).toNat := by
 let f : ν → Option PUnit := fun v => if p v then some .unit else none
 have ho : ∀ v, (f v).isSome = p v := by
  intro v
  cases hp : p v <;> simp [f,hp]
 have hc : ∀ m : KeyedMap κ ν, (collected f m).card = m.values.countP p := by
  intro m
  rw [collected,Multiset.coe_card,length_filterMap_eq_countP]
  exact countP_congr fun v _ => by rw [ho]
 have hsi : ∀ o : Option PUnit, (single o).card = o.isSome.toNat := by
  intro o
  cases o <;> rfl
 have hse := congrArg Multiset.card (collected_set f m k v)
 rw [Multiset.card_add,Multiset.card_add,hc,hc,hsi,hsi,ho] at hse
 rw [← hse]
 cases m.find? k with
 | none => rfl
 | some old => rw [Option.bind_some,ho]; rfl

lemma countP_pairs_congr {m : KeyedMap κ ν} {m' : KeyedMap κ β} {p : κ × ν → Bool}
  {p' : κ × β → Bool}
  (h : ∀ k, (∃ v, m.find? k = some v ∧ p (k,v)) ↔ ∃ v, m'.find? k = some v ∧ p' (k,v)) :
  m.pairs.countP p = m'.pairs.countP p' := by
 have hk : ∀ {ν : Type _} (m : KeyedMap κ ν) (p : κ × ν → Bool),
   ((m.pairs.filter p).map Prod.fst).Nodup ∧ ∀ k, k ∈ (m.pairs.filter p).map Prod.fst ↔
    ∃ v, m.find? k = some v ∧ p (k,v) := by
  intro ν m p
  refine ⟨(filter_sublist.map Prod.fst).nodup m.pairs_keys_nodup,fun k => ?_⟩
  simp [mem_pairs_iff]
 have hp : ((m.pairs.filter p).map Prod.fst).Perm ((m'.pairs.filter p').map Prod.fst) := by
  refine (perm_ext_iff_of_nodup (hk m p).1 (hk m' p').1).mpr fun k => ?_
  rw [(hk m p).2,(hk m' p').2,h]
 have hl := hp.length_eq
 rwa [length_map,length_map,← countP_eq_length_filter,← countP_eq_length_filter] at hl

end NovaEdge.KeyedMap
