import Mathlib.Data.List.Perm.Basic
import Mathlib.Tactic

/-! Loops over a list that stop once a number of iterations has counted. The items a loop gets to
are known from which items count, and how they depend on the order of the list is a matter of
counting. -/
namespace NovaEdge.BudgetedLoop
open List

universe u v
variable {α : Type u} {σ : Type v}

def loop (limit : ℤ) (step : σ → α → σ × Bool) : List α → ℕ → σ → σ × ℕ
 | [], n, s => (s,n)
 | a::l, n, s =>
  if limit ≤ n then (s,n)
  else loop limit step l (if (step s a).2 then n+1 else n) (step s a).1

def visited (counts : α → Bool) : ℕ → List α → List α
 | _, [] => []
 | 0, _::_ => []
 | b+1, a::l => a::visited counts (if counts a then b else b+1) l

def CountsAs (step : σ → α → σ × Bool) (counts : α → Bool) : List α → σ → Prop
 | [], _ => True
 | a::l, s => (step s a).2 = counts a ∧ CountsAs step counts l (step s a).1

lemma countsAs_of_forall {step : σ → α → σ × Bool} {cts : α → Bool}
  (h : ∀ s a, (step s a).2 = cts a) (l : List α) (s : σ) : CountsAs step cts l s := by
 induction l generalizing s with
 | nil => trivial
 | cons a l ih => exact ⟨h s a,ih _⟩

attribute [local simp] visited

/-- A loop is a fold over the items it gets to. -/
lemma loop_eq {lim : ℤ} {step : σ → α → σ × Bool} {cts : α → Bool} {l : List α} {n b : ℕ} {s : σ}
  (h : CountsAs step cts l s) (hb : b = (lim - n).toNat) :
  loop lim step l n s = ((visited cts b l).foldl (fun s a => (step s a).1) s,
    n+(visited cts b l).countP cts) := by
 induction l generalizing n b s with
 | nil => simp [loop]
 | cons a l ih =>
  rw [loop]
  cases b with
  | zero =>
   have hli : lim ≤ n := by omega
   rw [if_pos hli]
   rfl
  | succ b =>
   have hli : ¬ lim ≤ n := by omega
   rw [if_neg hli,h.1,visited,foldl_cons,countP_cons]
   cases hc : cts a with
   | true =>
    have hn : b = (lim - ((n+1 : ℕ) : ℤ)).toNat := by omega
    simp only [if_true]
    rw [ih h.2 hn]
    simp only [Prod.mk.injEq,true_and]
    omega
   | false =>
    simp only [Bool.false_eq_true,if_false]
    rw [ih h.2 hb]
    rfl

lemma field_loop {β : Type*} (fie : σ → β) {lim : ℤ} {step : σ → α → σ × Bool}
  (h : ∀ s a, fie (step s a).1 = fie s) (l : List α) (n : ℕ) (s : σ) :
  fie (loop lim step l n s).1 = fie s := by
 induction l generalizing n s with
 | nil => rfl
 | cons a l ih =>
  rw [loop]
  split_ifs
  · rfl
  · rw [ih,h]
  · rw [ih,h]

/-- What a loop over pairs notes of the keys it gets to. -/
lemma mem_loop {κ ν : Type*} {lim : ℤ} {step : σ → κ × ν → σ × Bool} {cts : κ × ν → Bool}
  {l : List (κ × ν)} {n : ℕ} {s : σ} (fie : σ → List κ) {keep : κ × ν → Bool}
  (h : CountsAs step cts l s)
  (ha : ∀ s a, fie (step s a).1 = fie s ++ if keep a then [a.1] else []) (k : κ) :
  k ∈ fie (loop lim step l n s).1 ↔ k ∈ fie s ∨
   ∃ v, (k,v) ∈ visited cts (lim - n).toNat l ∧ keep (k,v) = true := by
 rw [loop_eq h rfl]
 clear h
 dsimp only
 induction visited cts (lim - n).toNat l generalizing s with
 | nil => simp
 | cons a l ih =>
  rw [foldl_cons,ih,ha,mem_append,or_assoc]
  cases hk : keep a <;> aesop

section
variable {cts : α → Bool}

variable {l : List α} {a : α}

lemma mem_of_mem_visited {b : ℕ} (h : a ∈ visited cts b l) : a ∈ l := by
 induction l generalizing b with
 | nil => exact h
 | cons x l ih =>
  cases b with
  | zero => exact absurd h not_mem_nil
  | succ b =>
   rcases mem_cons.mp h with rfl | h
   · exact mem_cons_self
   · exact mem_cons_of_mem _ (ih h)

lemma notMem_visited_zero : a ∉ visited cts 0 l := by
 cases l <;> exact not_mem_nil

lemma countP_visited (b : ℕ) (l : List α) :
  (visited cts b l).countP cts = min b (l.countP cts) := by
 induction l generalizing b with
 | nil => simp
 | cons a l ih =>
  cases b with
  | zero => simp
  | succ b =>
   rw [visited,countP_cons,countP_cons,ih]
   cases cts a with
   | true => simp only [if_true]; omega
   | false => simp

/-- An item is reached exactly if fewer than the budget count before it. -/
lemma mem_visited_append {pre post : List α} (ha : a ∉ pre) (b : ℕ) :
  a ∈ visited cts b (pre ++ a::post) ↔ pre.countP cts < b := by
 induction pre generalizing b with
 | nil =>
  cases b with
  | zero | succ b => simp
 | cons x pre ih =>
  obtain ⟨hn,ha⟩ := not_or.mp (fun h => ha (mem_cons.mpr h))
  cases b with
  | zero => simp
  | succ b =>
   rw [cons_append,visited,mem_cons,or_iff_right hn,ih ha,countP_cons]
   cases cts x with
   | true | false => simp

section
variable {κ : Type*} [DecidableEq κ] {key : α → κ} {l : List α} {a : α} {b : ℕ}

def others (key : α → κ) (counts : α → Bool) (k : κ) (l : List α) : ℕ :=
 l.countP fun x => counts x && key x ≠ k

lemma others_split {pre post : List α} (hl : ((pre ++ a::post).map key).Nodup) :
  others key cts (key a) (pre ++ a::post) = (pre ++ post).countP cts := by
 have hn : ∀ x ∈ pre ++ post, key x ≠ key a := by
  rw [map_append,map_cons,nodup_middle,← map_append] at hl
  intro x hx hq
  exact (nodup_cons.mp hl).1 (hq ▸ mem_map_of_mem hx)
 have ha : (pre ++ post).countP (fun x => cts x && key x ≠ key a) =
   (pre ++ post).countP cts :=
  countP_congr fun x hx => by simp [hn x hx]
 rw [others,← ha,countP_append,countP_append,countP_cons]
 simp

section
variable (hl : (l.map key).Nodup)
include hl

lemma others_add_one (ha : a ∈ l) (hc : cts a = true) :
  others key cts (key a) l+1 = l.countP cts := by
 obtain ⟨pre,post,rfl⟩ := append_of_mem ha
 rw [others_split hl,countP_append,countP_append,countP_cons,if_pos hc]
 omega

/-- With too few other items that count, an item is reached in every order. -/
lemma mem_visited_of_lt (ha : a ∈ l) (h : others key cts (key a) l < b) : a ∈ visited cts b l := by
 obtain ⟨before,after,rfl⟩ := append_of_mem ha
 rw [others_split hl,countP_append] at h
 have hn : a ∉ before := by
  intro hm
  have ho := nodup_middle.mp (List.Nodup.of_map key hl)
  exact (nodup_cons.mp ho).1 (mem_append_left _ hm)
 exact (mem_visited_append hn b).mpr (by omega)

/-- With enough other items that count, an item is missed in some order. -/
lemma exists_perm_notMem_visited (ha : a ∈ l) (h : b ≤ others key cts (key a) l) :
  ∃ l', l'.Perm l ∧ a ∉ visited cts b l' := by
 obtain ⟨before,after,rfl⟩ := append_of_mem ha
 rw [others_split hl] at h
 refine ⟨before ++ after ++ [a],?_,?_⟩
 · exact (perm_append_singleton a _).trans perm_middle.symm
 · have hn : a ∉ before ++ after := (nodup_cons.mp (nodup_middle.mp (List.Nodup.of_map key hl))).1
   rw [mem_visited_append hn]
   omega

lemma others_lt_of_forall_perm (ha : a ∈ l)
  (h : ∀ l', l'.Perm l → ∃ x ∈ visited cts b l', key x = key a) : others key cts (key a) l < b := by
 by_contra hle
 obtain ⟨l',hp,hm⟩ := exists_perm_notMem_visited hl ha (Nat.not_lt.mp hle)
 obtain ⟨x,hx,hk⟩ := h l' hp
 have hme : x ∈ l := hp.mem_iff.mp (mem_of_mem_visited hx)
 rw [inj_on_of_nodup_map hl hme ha hk] at hx
 exact hm hx

lemma countP_le_of_forall_perm (ha : a ∈ l) (hc : cts a = true)
  (h : ∀ l', l'.Perm l → ∃ x ∈ visited cts b l', key x = key a) :
  0 < l.countP cts ∧ l.countP cts ≤ b := by
 have ho := others_add_one hl ha hc
 have hb := others_lt_of_forall_perm hl ha h
 omega

end

lemma others_mono {cou' : α → Bool} {l' : List α} (hp : l'.Perm l)
  (h : ∀ x, cou' x = true → cts x = true) (k : κ) : others key cou' k l' ≤ others key cts k l := by
 rw [others,others,hp.countP_eq]
 refine countP_mono_left fun x _ hx => ?_
 rw [Bool.and_eq_true] at hx ⊢
 exact ⟨h x hx.1,hx.2⟩

lemma mem_visited_of_countP_le {cou' : α → Bool} {l' : List α} (hl : (l.map key).Nodup)
  (hp : l'.Perm l) (ha : a ∈ l) (hc : cts a = true)
  (h : ∀ x, cou' x = true → cts x = true) (hb : l.countP cts ≤ b) : a ∈ visited cou' b l' := by
 have ho := others_add_one hl ha hc
 have hm : others key cou' (key a) l' ≤ others key cts (key a) l := others_mono hp h _
 exact mem_visited_of_lt ((hp.map key).nodup_iff.mpr hl) (hp.mem_iff.mpr ha) (by omega)

end

lemma exists_perm_mem_visited {b : ℕ} (ha : a ∈ l) (hb : 0 < b) :
  ∃ l', l'.Perm l ∧ a ∈ visited cts b l' := by
 obtain ⟨pre,post,rfl⟩ := append_of_mem ha
 refine ⟨[] ++ a::(pre ++ post),perm_middle.symm,?_⟩
 exact (mem_visited_append not_mem_nil b).mpr hb

end

end NovaEdge.BudgetedLoop
