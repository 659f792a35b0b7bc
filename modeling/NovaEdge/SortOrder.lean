import Mathlib.Data.List.Sort
import Mathlib.Tactic

/-! Sorting by an order that need not tell elements apart, and searching the sorted list: what
the result says about the order in which the elements were given. -/
namespace NovaEdge.SortOrder
open List
variable {α : Type*}

variable {p : α → Bool} {l : List α}

lemma rel_of_find? {r : α → α → Prop} {m : α} (hs : l.Pairwise r) (h : l.find? p = some m) {y : α}
  (hy : y ∈ l) (hp : p y = true) : y = m ∨ r m y := by
 obtain ⟨-,as,bs,rfl,has⟩ := find?_eq_some_iff_append.mp h
 rcases mem_append.mp hy with hm | hm
 · have hn := has y hm
   simp [hp] at hn
 · rcases mem_cons.mp hm with rfl | hm
   · exact .inl rfl
   · have ht := (pairwise_append.mp hs).2.1
     exact .inr ((pairwise_cons.mp ht).1 y hm)

lemma rel_of_getLast?_filter {r : α → α → Prop} {m : α} (hs : l.Pairwise r)
  (h : (l.filter p).getLast? = some m) {y : α} (hy : y ∈ l) (hp : p y = true) : y = m ∨ r y m := by
 obtain ⟨as,has⟩ := getLast?_eq_some_iff.mp h
 have hm : y ∈ as ++ [m] := has ▸ mem_filter.mpr ⟨hy,hp⟩
 have ho : (as ++ [m]).Pairwise r := has ▸ hs.filter p
 rcases mem_append.mp hm with hn | hl
 · exact .inr ((pairwise_append.mp ho).2.2 y hn m mem_cons_self)
 · exact .inl (mem_singleton.mp hl)

/-- Two searches agree exactly if they agree on the first element that either of them accepts. -/
lemma find?_eq_find?_iff {q : α → Bool} :
  l.find? p = l.find? q ↔ ∀ x, l.find? (fun x => p x || q x) = some x → p x = q x := by
 induction l with
 | nil => simp
 | cons y l ih =>
  by_cases hp : p y = true
  · by_cases hq : q y = true
    · simp [hp,hq]
    · have hn : l.find? q ≠ some y := fun h => hq (find?_some h)
      simpa [hp,hq] using hn.symm
  · by_cases hq : q y = true
    · have hn : l.find? p ≠ some y := fun h => hp (find?_some h)
      simpa [hp,hq] using hn
    · simpa [hp,hq] using ih

section
variable (r : α → α → Prop) [DecidableRel r] {p : α → Bool}

/-- An element that no match precedes is found first once it is inserted. -/
lemma find?_orderedInsert {x : α} (hx : p x = true) {l : List α}
  (h : ∀ y ∈ l, p y = true → r x y) : (l.orderedInsert r x).find? p = some x := by
 induction l with
 | nil => simp [hx]
 | cons y ys ih =>
  by_cases hxy : r x y
  · rw [orderedInsert_cons_of_le r ys hxy]
    simp [hx]
  · have hy : ¬ p y = true := fun hy => hxy (h y mem_cons_self hy)
    rw [orderedInsert_of_not_le r ys hxy,find?_cons_of_neg hy]
    exact ih fun z hz => h z (mem_cons_of_mem y hz)

lemma find?_of_unique {x : α} {l : List α} (hme : x ∈ l) (hx : p x = true)
  (h : ∀ y ∈ l, p y = true → y = x) : l.find? p = some x := by
 have ho : (l.find? p).isSome := find?_isSome.mpr ⟨x,hme,hx⟩
 obtain ⟨m,hm⟩ := Option.isSome_iff_exists.mp ho
 rw [hm,h m (mem_of_find?_eq_some hm) (find?_some hm)]

end

section
variable {κ : Type*} (key : α → κ)

def UniqueBy (l : List α) : Prop := ∀ a ∈ l, ∀ b ∈ l, key a = key b → a = b

variable {key}

/-- Elements made from distinct objects are told apart by a key of the objects exactly if the
objects have distinct keys. -/
lemma uniqueBy_map_iff {β : Type*} {l : List α} {f : α → β} {key' : β → κ} (hn : l.Nodup)
  (hin : ∀ a ∈ l, ∀ b ∈ l, f a = f b → a = b) (hk : ∀ a, key' (f a) = key a) :
  UniqueBy key' (l.map f) ↔ (l.map key).Nodup := by
 rw [nodup_map_iff_inj_on hn]
 simp only [UniqueBy,forall_mem_map,hk]
 constructor
 · intro h a ha b hb hab
   exact hin a ha b hb (h a ha b hb hab)
 · intro h a ha b hb hab
   rw [h a ha b hb hab]

end

section
variable {κ : Type*} [LinearOrder κ] (key : α → κ) {l s s' : List α}

/-- A result of sorting by a key: elements of one key may come in any order. -/
def SortedBy (built sorted : List α) : Prop :=
 sorted.Perm built ∧ sorted.Pairwise fun a b => key a ≤ key b

variable {key} in
lemma SortedBy.of_perm {l' : List α} (h : SortedBy key l s) (hp : l.Perm l') : SortedBy key l' s :=
 ⟨h.1.trans hp,h.2⟩

/-- Any element may come first among those of its key. -/
lemma exists_sortedBy_first {a : α} (ha : a ∈ l) :
  ∃ s, SortedBy key l s ∧ s.find? (fun b => key b = key a) = some a := by
 obtain ⟨as,bs,rfl⟩ := append_of_mem ha
 let r : α → α → Prop := fun a b => key a ≤ key b
 have ht : Std.Total r := ⟨fun a b => le_total (key a) (key b)⟩
 have hr : IsTrans α r := ⟨fun a b c => le_trans⟩
 refine ⟨(a::(as ++ bs)).insertionSort r,⟨?_,pairwise_insertionSort r _⟩,?_⟩
 · exact (perm_insertionSort r _).trans perm_middle.symm
 · refine find?_orderedInsert r (by simp) ?_
   intro y _ hy
   have hk : key y = key a := by simpa using hy
   exact hk.ge

/-- Any element may come last among those of its key. -/
lemma exists_sortedBy_last {a : α} (ha : a ∈ l) :
  ∃ pre post, SortedBy key l (pre ++ a::post) ∧ ∀ b ∈ post, key b ≠ key a := by
 let key' : α → κᵒᵈ := fun a => OrderDual.toDual (key a)
 obtain ⟨s,⟨hp,ho⟩,hf⟩ := exists_sortedBy_first key' ha
 obtain ⟨-,as,bs,rfl,has⟩ := find?_eq_some_iff_append.mp hf
 refine ⟨bs.reverse,as.reverse,⟨?_,?_⟩,?_⟩
 · have hr : (bs.reverse ++ a::as.reverse).Perm (as ++ a::bs) := by
    simpa using reverse_perm (as ++ a::bs)
   exact hr.trans hp
 · have hpi : ((as ++ a::bs).reverse).Pairwise fun a b => key a ≤ key b := pairwise_reverse.mpr ho
   simpa using hpi
 · intro b hb hk
   have hn := has b (mem_reverse.mp hb)
   simp [key',hk] at hn

lemma exists_sortedBy (l : List α) : ∃ s, SortedBy key l s := by
 cases l with
 | nil => exact ⟨[],List.Perm.refl _,List.Pairwise.nil⟩
 | cons a l =>
  obtain ⟨s,hs,-⟩ := exists_sortedBy_first key (mem_cons_self (a := a) (l := l))
  exact ⟨s,hs⟩

variable {key} in
/-- A sorted list of some of the elements extends to one of all elements. -/
lemma SortedBy.exists_extension {p : α → Bool} {kept : List α}
  (h : SortedBy key (l.filter p) kept) : ∃ s, SortedBy key l s ∧ s.filter p = kept := by
 let r : α → α → Prop := fun a b => key a ≤ key b
 have ht : Std.Total r := ⟨fun a b => le_total (key a) (key b)⟩
 have hr : IsTrans α r := ⟨fun a b c => le_trans⟩
 let s := (kept ++ l.filter fun a => !p a).insertionSort r
 have hp : s.Perm l := by
  refine (perm_insertionSort r _).trans ?_
  exact (h.1.append_right _).trans (filter_append_perm p l)
 have hu : kept.Sublist (s.filter p) := by
  have hf : kept.filter p = kept := by
   rw [filter_eq_self]
   intro a ha
   exact (mem_filter.mp (h.1.mem_iff.mp ha)).2
  rw [← hf]
  exact (sublist_insertionSort h.2 (sublist_append_left kept _)).filter p
 have hl : (s.filter p).length = kept.length := ((hp.filter p).trans h.1.symm).length_eq
 exact ⟨s,⟨hp,pairwise_insertionSort r _⟩,(hu.eq_of_length hl.symm).symm⟩

variable {key} in
lemma UniqueBy.sorted_eq (h : UniqueBy key l) (hs : SortedBy key l s) (hs' : SortedBy key l s') :
  s = s' := by
 refine List.Perm.eq_of_pairwise ?_ hs.2 hs'.2 (hs.1.trans hs'.1.symm)
 intro a b ha hb hab hba
 exact h a (hs.1.mem_iff.mp ha) b (hs'.1.mem_iff.mp hb) (le_antisymm hab hba)

/-- A sort that has one result only has a key that tells the elements apart. -/
lemma uniqueBy_of_sorted_eq (h : ∀ s s', SortedBy key l s → SortedBy key l s' → s = s') :
  UniqueBy key l := by
 intro a ha b hb hk
 obtain ⟨s,hs,hf⟩ := exists_sortedBy_first key ha
 obtain ⟨s',hs',hf'⟩ := exists_sortedBy_first key hb
 rw [h s s' hs hs',hk,hf'] at hf
 exact (Option.some.inj hf).symm

end

lemma exists_perm_pair {a b : α} (ha : a ∈ l) (hb : b ∈ l) (hn : a ≠ b) :
  ∃ rest, (a::b::rest).Perm l := by
 obtain ⟨as,bs,rfl⟩ := append_of_mem ha
 have hm : b ∈ as ++ bs := by
  rcases mem_append.mp hb with h | h
  · exact mem_append_left _ h
  · exact mem_append_right _ ((mem_cons.mp h).resolve_left (Ne.symm hn))
 obtain ⟨cs,ds,hp⟩ := append_of_mem hm
 have hmi : (a::b::(cs ++ ds)).Perm (a::(as ++ bs)) := hp ▸ (perm_middle.symm).cons a
 exact ⟨cs ++ ds,hmi.trans perm_middle.symm⟩

section
variable {β : Type*} {f : α → List β}

lemma flatMap_eq_of_perm {l l' : List α} (hpe : l.Perm l')
  (h : ∀ a ∈ l, ∀ b ∈ l, f a ++ f b = f b ++ f a) : l.flatMap f = l'.flatMap f := by
 induction hpe with
 | nil => rfl
 | cons a _ ih =>
  rw [flatMap_cons,flatMap_cons,ih fun b hb c hc =>
   h b (mem_cons_of_mem a hb) c (mem_cons_of_mem a hc)]
 | swap a b l =>
  have hab := h b mem_cons_self a (mem_cons_of_mem b mem_cons_self)
  simp only [flatMap_cons,← append_assoc,hab]
 | trans hp _ ih ih' =>
  refine (ih h).trans (ih' fun a ha b hb => ?_)
  exact h a (hp.mem_iff.mpr ha) b (hp.mem_iff.mpr hb)

/-- Lists that can be joined in any order of the elements commute. -/
lemma append_comm_of_flatMap_filter_eq {l : List α} {p : α → Bool}
  (h : ∀ l₁ l₂ : List α, l₁.Perm l → l₂.Perm l → (l₁.filter p).flatMap f = (l₂.filter p).flatMap f)
  {a b : α} (ha : a ∈ l.filter p) (hb : b ∈ l.filter p) : f a ++ f b = f b ++ f a := by
 by_cases hab : a = b
 · rw [hab]
 · obtain ⟨ha,hpa⟩ := mem_filter.mp ha
   obtain ⟨hb,hpb⟩ := mem_filter.mp hb
   obtain ⟨rest,hp⟩ := exists_perm_pair ha hb hab
   have hq := h _ _ hp ((List.Perm.swap a b rest).trans hp)
   simpa [hpa,hpb,← append_assoc] using hq

end

section
variable {β γ : Type*} {R : α → β → Prop}

lemma eq_none_of_rel_none {o : Option β} (h : Option.Rel R none o) : o = none := by
 cases h
 rfl

lemma exists_of_rel_some {a : α} {o : Option β} (h : Option.Rel R (some a) o) :
  ∃ b, o = some b ∧ R a b := by
 cases h with
 | some ha => exact ⟨_,rfl,ha⟩

lemma exists_of_rel_some_right {o : Option α} {b : β} (h : Option.Rel R o (some b)) :
  ∃ a, o = some a ∧ R a b := by
 cases h with
 | some ha => exact ⟨_,rfl,ha⟩

lemma rel_of_rel_left {S : α → γ → Prop} {T : β → γ → Prop} (h : ∀ a b c, R a b → S a c → T b c)
  {o : Option α} {p : Option β} {q : Option γ} (hR : Option.Rel R o p) (hS : Option.Rel S o q) :
  Option.Rel T p q := by
 cases hR with
 | none =>
  cases hS
  exact .none
 | some ha =>
  cases hS with
  | some hc => exact .some (h _ _ _ ha hc)

/-- Searches with related functions have related results. -/
lemma findSome?_rel {l : List γ} {f : γ → Option α} {g : γ → Option β}
  (h : ∀ c ∈ l, Option.Rel R (f c) (g c)) : Option.Rel R (l.findSome? f) (l.findSome? g) := by
 induction l with
 | nil => exact .none
 | cons c l ih =>
  have hc := h c mem_cons_self
  rw [findSome?_cons,findSome?_cons]
  cases hf : f c with
  | some a =>
   rw [hf] at hc
   obtain ⟨b,hb,ha⟩ := exists_of_rel_some hc
   rw [hb]
   exact .some ha
  | none =>
   rw [hf] at hc
   cases hg : g c with
   | some b =>
    rw [hg] at hc
    cases hc
   | none => exact ih fun c' hc' => h c' (mem_cons_of_mem c hc')

end

end NovaEdge.SortOrder
