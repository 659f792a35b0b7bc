import Mathlib.Logic.Relation
import Mathlib.Tactic

/-! Registers whose writes are settled by a precedence relation. `beats y x` says that write `y`
takes the place of write `x`; some writes delete. A register that has seen a set of writes is
settled when its value precedes every other write seen, or when each value seen is preceded by
a deletion seen. Settled registers over the same writes agree as soon as `beats` has no cycle. -/
namespace NovaEdge

variable {α : Type*} (beats : α → α → Prop) (deletes : α → Prop)

/-- The value of a register that has seen the writes of `seen`. -/
def Settled (seen : Set α) : Option α → Prop
 | some e => e ∈ seen ∧ ¬ deletes e ∧ ∀ x ∈ seen, x = e ∨ Relation.TransGen beats e x
 | none => ∀ x ∈ seen, ¬ deletes x → ∃ d ∈ seen, deletes d ∧ Relation.TransGen beats d x

namespace Settled
variable {beats deletes} {seen : Set α} {e y : α}

lemma empty : Settled beats deletes ∅ none := by
 intro x hx
 exact absurd hx (Set.notMem_empty x)

lemma keep (h : Settled beats deletes seen (some e)) (hb : beats e y) :
  Settled beats deletes (insert y seen) (some e) := by
 obtain ⟨he,hde,ha⟩ := h
 refine ⟨Set.mem_insert_of_mem y he,hde,?_⟩
 intro x hx
 rcases Set.mem_insert_iff.mp hx with rfl | hx
 · exact .inr (.single hb)
 · exact ha x hx

lemma trans_of_beats (h : Settled beats deletes seen (some e)) (hb : beats y e) :
  ∀ x ∈ seen, Relation.TransGen beats y x := by
 intro x hx
 rcases h.2.2 x hx with rfl | hx
 · exact .single hb
 · exact .head hb hx

lemma write (hy : ¬ deletes y) (ha : ∀ x ∈ seen, Relation.TransGen beats y x) :
  Settled beats deletes (insert y seen) (some y) := by
 refine ⟨Set.mem_insert y seen,hy,?_⟩
 intro x hx
 rcases Set.mem_insert_iff.mp hx with rfl | hx
 · exact .inl rfl
 · exact .inr (ha x hx)

lemma erase (hy : deletes y) (ha : ∀ x ∈ seen, Relation.TransGen beats y x) :
  Settled beats deletes (insert y seen) none := by
 intro x hx hde
 rcases Set.mem_insert_iff.mp hx with rfl | hx
 · exact absurd hy hde
 · exact ⟨y,Set.mem_insert y seen,hy,ha x hx⟩

lemma stay_empty (h : Settled beats deletes seen none) (hy : deletes y) :
  Settled beats deletes (insert y seen) none := by
 intro x hx hde
 rcases Set.mem_insert_iff.mp hx with rfl | hx
 · exact absurd hy hde
 · obtain ⟨d,hd,hdd,hdx⟩ := h x hx hde
   exact ⟨d,Set.mem_insert_of_mem y hd,hdd,hdx⟩

lemma fill (h : Settled beats deletes seen none) (hy : ¬ deletes y)
  (hb : ∀ d ∈ seen, deletes d → beats y d) : Settled beats deletes (insert y seen) (some y) := by
 apply write hy
 intro x hx
 by_cases hde : deletes x
 · exact .single (hb x hx hde)
 · obtain ⟨d,hd,hdd,hdx⟩ := h x hx hde
   exact .head (hb d hd hdd) hdx

theorem agree (ha : ∀ x, ¬ Relation.TransGen beats x x) {l l' : Option α}
  (h : Settled beats deletes seen l) (h' : Settled beats deletes seen l') : l = l' := by
 have hm : ∀ e, Settled beats deletes seen (some e) → ¬ Settled beats deletes seen none := by
  intro e he hn
  obtain ⟨d,hd,hdd,hde⟩ := hn e he.1 he.2.1
  rcases he.2.2 d hd with rfl | hed
  · exact he.2.1 hdd
  · exact ha e (hed.trans hde)
 cases l with
 | none =>
  cases l' with
  | none => rfl
  | some e => exact absurd h (hm e h')
 | some e =>
  cases l' with
  | none => exact absurd h' (hm e h)
  | some e' =>
   rcases h.2.2 e' h'.1 with rfl | hee
   · rfl
   · rcases h'.2.2 e h.1 with rfl | he'
     · rfl
     · exact absurd (hee.trans he') (ha e)

end Settled
end NovaEdge
