import Mathlib.Algebra.Order.Field.Basic
import Mathlib.Tactic

/-! Credit that grows with time up to a limit and of which every spending takes one unit. What is
spent in an interval is at most the limit and what the interval has added. -/
namespace NovaEdge.CreditLedger

variable {𝕜 : Type*} [Field 𝕜] [LinearOrder 𝕜] [IsStrictOrderedRing 𝕜]

structure Ledger (𝕜 : Type*) where
 (clock credit : 𝕜)
 /-- The times of the spendings. -/
 spent : List 𝕜

def Ledger.spentIn (l : Ledger 𝕜) (a b : 𝕜) : ℕ := l.spent.countP fun t => a ≤ t ∧ t ≤ b

def Ledger.Valid (limit : 𝕜) (l : Ledger 𝕜) : Prop := 0 ≤ l.credit ∧ l.credit ≤ limit

inductive Step (rate : 𝕜) (l : Ledger 𝕜) : Ledger 𝕜 → Prop
 | wait {d credit : 𝕜} (hd : 0 ≤ d) (hgain : credit ≤ l.credit+rate*d) :
  Step rate l ⟨l.clock+d,credit,l.spent⟩
 | spend : Step rate l ⟨l.clock,l.credit - 1,l.clock::l.spent⟩

/-- The account of the interval from `a` to `b`, before, in and after it. -/
structure Bounded (limit rate a b : 𝕜) (l : Ledger 𝕜) : Prop where
 before : l.clock < a → l.spentIn a b = 0
 during : a ≤ l.clock → l.clock ≤ b → l.spentIn a b+l.credit ≤ limit+rate*(l.clock - a)
 after : b < l.clock → (l.spentIn a b : 𝕜) ≤ limit+rate*(b - a)

variable {lim rate a b : 𝕜} {l l' : Ledger 𝕜}

lemma bounded_of_empty (hp : l.spent = []) (hl : l.credit ≤ lim) (hv : 0 ≤ lim)
  (hr : 0 ≤ rate) (ha : a ≤ b) : Bounded lim rate a b l := by
 have hz : l.spentIn a b = 0 := by simp [Ledger.spentIn,hp]
 refine ⟨fun _ => hz,fun hf _ => ?_,fun _ => ?_⟩
 · have hg := mul_nonneg hr (sub_nonneg.mpr hf)
   rw [hz,Nat.cast_zero]
   linarith
 · have hg := mul_nonneg hr (sub_nonneg.mpr ha)
   rw [hz,Nat.cast_zero]
   linarith

lemma spentIn_le (ha : a ≤ b) (hr : 0 ≤ rate) (h : Bounded lim rate a b l)
  (hv : l.Valid lim) : (l.spentIn a b : 𝕜) ≤ lim+rate*(b - a) := by
 have hl := mul_nonneg hr (sub_nonneg.mpr ha)
 rcases lt_or_ge l.clock a with hea | hn
 · rw [h.before hea,Nat.cast_zero]
   linarith [hv.1,hv.2]
 rcases le_or_gt l.clock b with hu | hla
 · have hdu := h.during hn hu
   have hm := mul_le_mul_of_nonneg_left (sub_le_sub_right hu a) hr
   linarith [hv.1]
 · exact h.after hla

lemma bounded_step (hr : 0 ≤ rate) (hab : a ≤ b) (h : Bounded lim rate a b l)
  (hv : l.Valid lim) (hv' : l'.Valid lim) (ht : Step rate l l') : Bounded lim rate a b l' := by
 cases ht with
 | @wait d credit hd hg =>
  refine ⟨fun hb => h.before (by linarith),fun hf hu => ?_,fun ha => ?_⟩
  · change (l.spentIn a b : 𝕜)+_ ≤ _
    rcases lt_or_ge l.clock a with hea | hn
    · have hsi := mul_nonneg hr (sub_nonneg.mpr hf)
      rw [h.before hea,Nat.cast_zero]
      linarith [hv'.2]
    · have hdu := h.during hn (by linarith)
      linarith [mul_add rate (l.clock - a) d]
  · have hl := spentIn_le hab hr h hv
    exact hl
 | spend =>
  have hp : Ledger.spentIn ⟨l.clock,l.credit - 1,l.clock::l.spent⟩ a b =
    l.spentIn a b+if a ≤ l.clock ∧ l.clock ≤ b then 1 else 0 := by
   simp [Ledger.spentIn,List.countP_cons]
  refine ⟨fun hb => ?_,fun hf hu => ?_,fun ha => ?_⟩
  · rw [hp,h.before hb,if_neg fun hn => hb.not_ge hn.1]
  · have hdu := h.during hf hu
    rw [hp,if_pos ⟨hf,hu⟩]
    push_cast
    linarith
  · rw [hp,if_neg fun hn => LT.lt.not_ge ha hn.2]
    exact h.after ha

end NovaEdge.CreditLedger
