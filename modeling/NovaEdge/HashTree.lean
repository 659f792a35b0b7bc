import Mathlib.Data.Multiset.Sort
import Mathlib.Data.List.Flatten
import Mathlib.Data.Set.Function
import Mathlib.Order.Lex
import Mathlib.Tactic

/-! Hash trees of bounded height over texts. A leaf is hashed as its text, an inner node as the
hashes of its children in increasing order, without any separator. Unless two hashed texts collide,
the root's hash determines the tree up to `Alike`; trees with a mark in every leaf are alike only if
they are the same. -/
namespace NovaEdge.HashTree
open List

universe u

/-- A hash function on texts whose values have one width and lack one symbol. -/
structure Hashing (β : Type u) where
 hash : List β → List β
 width : ℕ
 width_pos : 0 < width
 length_hash : ∀ x, (hash x).length = width
 mark : β
 mark_notMem_hash : ∀ x, mark ∉ hash x

def Tree (β : Type u) : ℕ → Type u
 | 0 => List β
 | n+1 => List β ⊕ Multiset (Tree β n)

def leaf {β : Type u} (x : List β) : (n : ℕ) → Tree β n
 | 0 => x
 | _+1 => .inl x

def node {β : Type u} {n : ℕ} (children : Multiset (Tree β n)) : Tree β (n+1) := .inr children

variable {β : Type u} [LinearOrder β] (H : Hashing β)

def text : (n : ℕ) → Tree β n → List β
 | 0, t => t
 | _+1, .inl t => t
 | n+1, .inr children => ((children.map fun c => H.hash (text n c)).sort (· ≤ ·)).flatten

def texts : (n : ℕ) → Tree β n → Set (List β)
 | 0, t => {t}
 | _+1, .inl t => {t}
 | n+1, .inr children => {x | x = text H (n+1) (.inr children) ∨ ∃ c ∈ children, x ∈ texts n c}

/-- A leaf may spell out the hashes below an inner node. -/
def Alike : (n : ℕ) → Tree β n → Tree β n → Prop
 | 0, t, t' => t = t'
 | _+1, .inl x, .inl x' => x = x'
 | n+1, .inl x, .inr children' => x = text H (n+1) (.inr children')
 | n+1, .inr children, .inl x' => text H (n+1) (.inr children) = x'
 | n+1, .inr children, .inr children' => Multiset.Rel (Alike n) children children'

/-- Every leaf has the symbol that hashes lack. -/
def Marked : (n : ℕ) → Tree β n → Prop
 | 0, t => H.mark ∈ text H 0 t
 | _+1, .inl t => H.mark ∈ t
 | n+1, .inr children => ∀ c ∈ children, Marked n c

variable (x : List β)

@[simp] lemma text_leaf (n : ℕ) : text H n (leaf x n) = x := by
 cases n <;> rfl

variable {n : ℕ}

@[simp] lemma texts_leaf (n : ℕ) : texts H n (leaf x n) = {x} := by
 cases n <;> rfl

@[simp] lemma marked_leaf (n : ℕ) : Marked H n (leaf x n) ↔ H.mark ∈ x := by
 cases n <;> rfl

@[simp] lemma marked_node (kids : Multiset (Tree β n)) :
  Marked H (n+1) (node kids) ↔ ∀ c ∈ kids, Marked H n c := Iff.rfl

omit [LinearOrder β] in
lemma flatten_injective {k : ℕ} (hk : 0 < k) {l l' : List (List β)} (hl : ∀ x ∈ l, x.length = k)
  (hl' : ∀ x ∈ l', x.length = k) (h : l.flatten = l'.flatten) : l = l' := by
 have hle : ∀ l : List (List β), (∀ x ∈ l, x.length = k) →
   l.map List.length = List.replicate l.length k := by
  intro l hl
  refine eq_replicate_iff.mpr ⟨length_map _,?_⟩
  intro n hn
  obtain ⟨x,hx,rfl⟩ := mem_map.mp hn
  exact hl x hx
 have hc : l.length = l'.length := by
  have hu := congrArg List.length h
  rw [length_flatten,length_flatten,hle l hl,hle l' hl',sum_replicate,sum_replicate] at hu
  exact Nat.eq_of_mul_eq_mul_right hk hu
 rw [eq_iff_flatten_eq]
 exact ⟨h,by rw [hle l hl,hle l' hl',hc]⟩

variable {H}

lemma text_mem_texts (n : ℕ) (t : Tree β n) : text H n t ∈ texts H n t := by
 cases n with
 | zero => exact rfl
 | succ n =>
  cases t with
  | inl x => exact rfl
  | inr children => exact .inl rfl

lemma mark_notMem_text (n : ℕ) (kids : Multiset (Tree β n)) :
  H.mark ∉ text H (n+1) (.inr kids) := by
 intro hm
 obtain ⟨x,hx,ha⟩ := mem_flatten.mp hm
 rw [Multiset.mem_sort,Multiset.mem_map] at hx
 obtain ⟨c,-,rfl⟩ := hx
 exact H.mark_notMem_hash _ ha

/-- The hashes of the children can be read off the text of a node. -/
lemma map_hash_eq_of_text_eq {kids chi' : Multiset (Tree β n)}
  (h : text H (n+1) (.inr kids) = text H (n+1) (.inr chi')) :
  kids.map (fun c => H.hash (text H n c)) = chi'.map fun c => H.hash (text H n c) := by
 have hw : ∀ m : Multiset (Tree β n),
   ∀ x ∈ (m.map fun c => H.hash (text H n c)).sort (· ≤ ·), x.length = H.width := by
  intro m x hx
  rw [Multiset.mem_sort,Multiset.mem_map] at hx
  obtain ⟨c,-,rfl⟩ := hx
  exact H.length_hash _
 have ho := flatten_injective H.width_pos (hw kids) (hw chi') h
 rw [← Multiset.sort_eq (kids.map fun c => H.hash (text H n c)) (· ≤ ·),ho,Multiset.sort_eq]

variable {S : Set (List β)}

lemma texts_child_subset {kids : Multiset (Tree β n)}
  (hu : texts H (n+1) (.inr kids) ⊆ S) {c : Tree β n} (hc : c ∈ kids) : texts H n c ⊆ S :=
 fun _ hx => hu (.inr ⟨c,hc,hx⟩)

lemma text_node_eq_iff {kids chi' : Multiset (Tree β n)} :
  text H (n+1) (.inr kids) = text H (n+1) (.inr chi') ↔
   Multiset.Rel (fun c c' => H.hash (text H n c) = H.hash (text H n c')) kids chi' := by
 rw [← Multiset.rel_map,Multiset.rel_eq]
 constructor
 · exact map_hash_eq_of_text_eq
 · intro h
   rw [text,text,h]

variable {t t' : Tree β n}

/-- Trees have the same root hash exactly if they are alike, unless two of the texts hashed in them
collide. -/
theorem root_hash_eq_iff (hS : Set.InjOn H.hash S) (hu : texts H n t ⊆ S)
  (hs' : texts H n t' ⊆ S) : H.hash (text H n t) = H.hash (text H n t') ↔ Alike H n t t' := by
 induction n with
 | zero => exact hS.eq_iff (hu rfl) (hs' rfl)
 | succ n ih =>
  rw [hS.eq_iff (hu (text_mem_texts _ t)) (hs' (text_mem_texts _ t'))]
  match t, t' with
  | .inl x, .inl x' | .inl x, .inr children' | .inr children, .inl x' => exact Iff.rfl
  | .inr children, .inr children' =>
   rw [text_node_eq_iff,Alike]
   constructor
   · intro h
     exact h.mono fun c hc c' hc' =>
      (ih (texts_child_subset hu hc) (texts_child_subset hs' hc')).mp
   · intro h
     exact h.mono fun c hc c' hc' =>
      (ih (texts_child_subset hu hc) (texts_child_subset hs' hc')).mpr

lemma Alike.eq (h : Alike H n t t') (ht : Marked H n t) (ht' : Marked H n t') : t = t' := by
 induction n with
 | zero => exact h
 | succ n ih =>
  match t, t' with
  | .inl x, .inl x' => exact congrArg Sum.inl h
  | .inl x, .inr children' =>
   obtain rfl : x = text H (n+1) (.inr children') := h
   exact absurd ht (mark_notMem_text n children')
  | .inr kids, .inl x' =>
   obtain rfl : text H (n+1) (.inr kids) = x' := h
   exact absurd ht' (mark_notMem_text n kids)
  | .inr kids, .inr children' =>
   have hr : Multiset.Rel Eq kids children' :=
    Multiset.Rel.mono h fun c hc c' hc' hcc => ih hcc (ht c hc) (ht' c' hc')
   exact congrArg Sum.inr (Multiset.rel_eq.mp hr)

theorem eq_of_root_hash_eq (hS : Set.InjOn H.hash S) (ht : Marked H n t)
  (ht' : Marked H n t') (hu : texts H n t ⊆ S) (hs' : texts H n t' ⊆ S)
  (h : H.hash (text H n t) = H.hash (text H n t')) : t = t' :=
 ((root_hash_eq_iff hS hu hs').mp h).eq ht ht'

end NovaEdge.HashTree
