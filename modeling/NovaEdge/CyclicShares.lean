import Mathlib.Data.List.Rotate
import Mathlib.Tactic

/-! Taking turns around a cycle in which every item stands as often as its weight says. A full turn
meets every item exactly so often, wherever it starts. -/
namespace NovaEdge.CyclicShares
open List

variable {α : Type*}

/-- Every item as often as its weight says, in the order of the items. -/
def expand (weight : α → ℕ) (items : List α) : List α :=
 items.flatMap fun a => List.replicate (weight a) a

/-- The items at `k` consecutive positions of the cycle. -/
def turns (cycle : List α) (start k : ℕ) : List (Option α) :=
 (List.range k).map fun i => cycle[(start+i) % cycle.length]?

section
variable (weight : α → ℕ)

lemma expand_cons (a : α) (ite : List α) :
  expand weight (a::ite) = List.replicate (weight a) a ++ expand weight ite := by
 simp [expand]

lemma expand_map {β : Type*} (wt : β → ℕ) (f : α → β) (its : List α) :
  expand wt (its.map f) = (expand (fun a => wt (f a)) its).map f := by
 simp [expand,flatMap_map,map_flatMap]

lemma length_expand (its : List α) : (expand weight its).length = (its.map weight).sum := by
 simp [expand,length_flatMap]

lemma mem_expand {its : List α} {a : α} : a ∈ expand weight its ↔ a ∈ its ∧ 0 < weight a := by
 simp only [expand,mem_flatMap,mem_replicate]
 constructor
 · intro ⟨b,hb,hp,hq⟩
   exact ⟨hq ▸ hb,hq ▸ by omega⟩
 · intro ⟨ha,hp⟩
   exact ⟨a,ha,by omega,rfl⟩

lemma count_expand [DecidableEq α] (its : List α) (a : α) :
  (expand weight its).count a = its.count a*weight a := by
 induction its with
 | nil => simp [expand]
 | cons b its ih =>
  rw [expand_cons,count_append,ih,count_replicate]
  by_cases hb : b = a
  · subst hb
    simp
    ring
  · simp [hb]

lemma count_expand_of_nodup [DecidableEq α] {its : List α} (hn : its.Nodup) {a : α}
  (ha : a ∈ its) : (expand weight its).count a = weight a := by
 rw [count_expand,count_eq_one_of_mem hn ha,one_mul]

end

section
variable (cyc : List α)

lemma turns_succ (beg k : ℕ) :
  turns cyc beg (k+1) = cyc[beg % cyc.length]?::turns cyc (beg+1) k := by
 simp only [turns,range_succ_eq_map,map_cons,map_map]
 congr 1
 refine map_congr_left fun i _ => ?_
 simp [Nat.add_assoc,Nat.add_comm 1]

lemma turns_add (beg j k : ℕ) : turns cyc beg (j+k) = turns cyc beg j ++ turns cyc (beg+j) k := by
 induction j generalizing beg with
 | zero => simp [turns]
 | succ j ih =>
  rw [Nat.add_right_comm,turns_succ,ih,turns_succ,cons_append,Nat.add_assoc,Nat.add_comm 1]

/-- A full turn from any position is the cycle itself, rotated. -/
lemma turns_length (beg : ℕ) : turns cyc beg cyc.length = (cyc.rotate beg).map some := by
 refine ext_getElem? fun i => ?_
 simp only [turns,getElem?_map]
 by_cases hi : i < cyc.length
 · rw [getElem?_range hi,getElem?_rotate hi,Option.map_some,Nat.add_comm beg]
   have hl : (i+beg) % cyc.length < cyc.length := Nat.mod_lt _ (by omega)
   simp [getElem?_eq_getElem hl]
 · simp [Nat.le_of_not_lt hi]

lemma count_turns_length [DecidableEq α] (beg : ℕ) (a : α) :
  (turns cyc beg cyc.length).count (some a) = cyc.count a := by
 rw [turns_length,count_map_of_injective _ _ (Option.some_injective α),
  (rotate_perm cyc beg).count_eq]

lemma mem_turns_length {beg : ℕ} {r : Option α} (hr : r ∈ turns cyc beg cyc.length) :
  ∃ a ∈ cyc, r = some a := by
 rw [turns_length] at hr
 obtain ⟨a,ha,rfl⟩ := mem_map.mp hr
 exact ⟨a,mem_rotate.mp ha,rfl⟩

end

end NovaEdge.CyclicShares
