import Mathlib.Data.List.Basic
import Mathlib.Tactic

/-! Names made by joining two parts with a slash: when two joins coincide, and when the parts can
be read back. -/
namespace NovaEdge.NameEncoding
open List String

variable {α : Type*}

/-- Two joins coincide only if one left part continues the other through a separator and the
right parts make up for it. -/
lemma append_sep_eq_iff {c : α} {xs xs' ys ys' : List α} : xs ++ c::ys = xs' ++ c::ys' ↔
      (xs = xs' ∧ ys = ys') ∨ (∃ ts, xs = xs' ++ c::ts ∧ ys' = ts ++ c::ys) ∨
       ∃ ts, xs' = xs ++ c::ts ∧ ys = ts ++ c::ys' := by
 constructor
 · intro h
   rcases append_eq_append_iff.mp h with ⟨ts,hx,hy⟩ | ⟨ts,hx,hy⟩
   · cases ts with
     | nil =>
      have hy' : ys = ys' := by simpa using hy
      exact Or.inl ⟨by simp [hx],hy'⟩
     | cons t ts =>
      have hc : c = t ∧ ys = ts ++ c::ys' := by simpa using hy
      obtain ⟨rfl,hy'⟩ := hc
      exact Or.inr (Or.inr ⟨ts,hx,hy'⟩)
   · cases ts with
     | nil =>
      have hy' : ys' = ys := by simpa using hy
      exact Or.inl ⟨by simp [hx],hy'.symm⟩
     | cons t ts =>
      have hc : c = t ∧ ys' = ts ++ c::ys := by simpa using hy
      obtain ⟨rfl,hy'⟩ := hc
      exact Or.inr (Or.inl ⟨ts,hx,hy'⟩)
 · intro h
   rcases h with ⟨hx,hy⟩ | ⟨ts,hx,hy⟩ | ⟨ts,hx,hy⟩
   · rw [hx,hy]
   · simp [hx,hy]
   · simp [hx,hy]

/-- Right parts without a separator can be read back. -/
lemma append_sep_inj {c : α} {xs xs' ys ys' : List α} (hy : c ∉ ys) (hy' : c ∉ ys')
  (h : xs ++ c::ys = xs' ++ c::ys') : xs = xs' ∧ ys = ys' := by
 rcases append_sep_eq_iff.mp h with hq | ⟨ts,-,hr⟩ | ⟨ts,-,hr⟩
 · exact hq
 · exact absurd (hr ▸ mem_append_right ts mem_cons_self) hy'
 · exact absurd (hr ▸ mem_append_right ts mem_cons_self) hy

lemma toList_join (a b : String) : (a ++ "/" ++ b).toList = a.toList ++ '/' :: b.toList := by
 simp

def Clash (p q : String × String) : Prop :=
 p = q ∨ (∃ t, p.1 = q.1 ++ "/" ++ t ∧ q.2 = t ++ "/" ++ p.2) ∨
  ∃ t, q.1 = p.1 ++ "/" ++ t ∧ p.2 = t ++ "/" ++ q.2

lemma extends_iff (a b c d : String) :
  (∃ ts, a.toList = b.toList ++ '/' :: ts ∧ c.toList = ts ++ '/' :: d.toList) ↔
   ∃ t, a = b ++ "/" ++ t ∧ c = t ++ "/" ++ d := by
 constructor
 · intro ⟨ts,ha,hc⟩
   have ha' : a = b ++ "/" ++ String.ofList ts := by rw [← toList_inj,toList_join,toList_ofList,ha]
   have hc' : c = String.ofList ts ++ "/" ++ d := by rw [← toList_inj,toList_join,toList_ofList,hc]
   exact ⟨String.ofList ts,ha',hc'⟩
 · intro ⟨t,ha,hc⟩
   exact ⟨t.toList,by rw [ha,toList_join],by rw [hc,toList_join]⟩

theorem join_eq_iff (a b a' b' : String) :
  a ++ "/" ++ b = a' ++ "/" ++ b' ↔ Clash (a,b) (a',b') := by
 rw [← toList_inj,toList_join,toList_join,append_sep_eq_iff,extends_iff,extends_iff,
  toList_inj,toList_inj,Clash,Prod.mk.injEq]

/-- Right parts without a slash can be read back, whatever the left parts are. -/
theorem join_inj {a b a' b' : String} (hb : '/' ∉ b.toList) (hb' : '/' ∉ b'.toList)
  (h : a ++ "/" ++ b = a' ++ "/" ++ b') : a = a' ∧ b = b' := by
 rw [← toList_inj,toList_join,toList_join] at h
 obtain ⟨ha,hbb⟩ := append_sep_inj hb hb' h
 exact ⟨toList_inj.mp ha,toList_inj.mp hbb⟩

lemma notMem_toString {c : Char} (hc : c.isDigit = false) (n : ℕ) : c ∉ (toString n).toList := by
 intro h
 have hd : c ∈ Nat.toDigits 10 n := by simpa [Nat.repr_eq_ofList_toDigits] using h
 have hdi := Nat.isDigit_of_mem_toDigits (by decide) (by decide) hd
 rw [hc] at hdi
 contradiction

lemma slash_notMem_toString (n : ℕ) : '/' ∉ (toString n).toList := notMem_toString (by decide) n

lemma toString_nat_injective : Function.Injective (toString : ℕ → String) := by
 intro m n h
 have hdi : Nat.toDigits 10 m = Nat.toDigits 10 n := by
  simpa [Nat.repr_eq_ofList_toDigits] using congrArg String.toList h
 have hv := congrArg (fun ds => Nat.ofDigitChars 10 ds 0) hdi
 simpa using hv

lemma toString_negSucc (n : ℕ) :
  (toString (Int.negSucc n)).toList = '-' :: (toString (n+1)).toList := by
 change ("-" ++ toString (n+1)).toList = _
 rw [toList_append]
 rfl

lemma notMem_toString_int {c : Char} (hc : c.isDigit = false) (hm : c ≠ '-') (n : ℤ) :
  c ∉ (toString n).toList := by
 cases n with
 | ofNat n => exact notMem_toString hc n
 | negSucc n =>
  rw [toString_negSucc,mem_cons,not_or]
  exact ⟨hm,notMem_toString hc (n+1)⟩

lemma toString_int_injective : Function.Injective (toString : ℤ → String) := by
 -- only negative numbers have a sign
 have hsi : ∀ m n : ℕ, toString (Int.ofNat m) ≠ toString (Int.negSucc n) := by
  intro m n h
  have hm : '-' ∈ (toString (Int.negSucc n)).toList := by
   rw [toString_negSucc]
   exact mem_cons_self
  rw [← h] at hm
  exact notMem_toString (by decide) m hm
 intro m n h
 cases m with
 | ofNat m =>
  cases n with
  | ofNat n => exact congrArg Int.ofNat (toString_nat_injective h)
  | negSucc n => exact absurd h (hsi m n)
 | negSucc m =>
  cases n with
  | ofNat n => exact absurd h.symm (hsi n m)
  | negSucc n =>
   rw [← toList_inj,toString_negSucc,toString_negSucc,cons_inj_right, toList_inj] at h
   exact congrArg Int.negSucc (Nat.succ.inj (toString_nat_injective h))

lemma append_toString_inj (s : String) {m n : ℕ} (h : s ++ toString m = s ++ toString n) :
  m = n := by
 rw [← toList_inj,toList_append,toList_append, append_cancel_left_eq,toList_inj] at h
 exact toString_nat_injective h

end NovaEdge.NameEncoding
