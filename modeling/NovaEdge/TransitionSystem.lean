import Mathlib.Tactic

/-! Labelled transition systems: runs, reachable states, and the rule that derives a property
of every reachable state from what one step preserves. -/
namespace NovaEdge

structure TransitionSystem (σ ι : Type*) where
 init : σ → Prop
 step : σ → ι → σ → Prop

namespace TransitionSystem
variable {σ ι : Type*}

inductive Reachable (T : TransitionSystem σ ι) : σ → Prop
 | start {s : σ} (h : T.init s) : Reachable T s
 | next {s t : σ} {i : ι} (h : Reachable T s) (hs : T.step s i t) : Reachable T t

def restrict (T : TransitionSystem σ ι) (ok : σ → ι → Prop) : TransitionSystem σ ι where
 init := T.init
 step s i t := T.step s i t ∧ ok s i

def ofFun (init : σ → Prop) (f : σ → ι → σ) : TransitionSystem σ ι where
 init := init
 step s i t := t = f s i

variable {T : TransitionSystem σ ι}

theorem Reachable.invariant {inv : σ → Prop} (h0 : ∀ s, T.init s → inv s)
  (ht : ∀ s i t, inv s → T.step s i t → inv t) {s : σ} (h : T.Reachable s) : inv s := by
 induction h with
 | start hs => exact h0 _ hs
 | next _ hs ih => exact ht _ _ _ ih hs

variable {ok : σ → ι → Prop} {s : σ}

theorem Reachable.of_restrict (h : (T.restrict ok).Reachable s) : T.Reachable s := by
 induction h with
 | start hs => exact .start hs
 | next _ hs ih => exact .next ih hs.1

def Along (f : σ → ι → σ) (ok : σ → ι → Prop) : σ → List ι → Prop
 | _, [] => True
 | s, i::rest => ok s i ∧ Along f ok (f s i) rest

instance Along.decidable {f : σ → ι → σ} {ok : σ → ι → Prop} [∀ s i, Decidable (ok s i)] :
  (s : σ) → (labels : List ι) → Decidable (Along f ok s labels)
 | _, [] => isTrue trivial
 | s, i::rest =>
  have := @Along.decidable f ok _ (f s i) rest
  inferInstanceAs (Decidable (ok s i ∧ Along f ok (f s i) rest))

theorem Reachable.foldl {f : σ → ι → σ} {ok : σ → ι → Prop} {s : σ} (h : T.Reachable s)
  {lbs : List ι} (hl : Along f ok s lbs)
  (ht : ∀ s i, ok s i → T.step s i (f s i)) : T.Reachable (lbs.foldl f s) := by
 induction lbs generalizing s with
 | nil => exact h
 | cons i rest ih => exact ih (.next h (ht s i hl.1)) hl.2

variable {f : σ → ι → σ} {labels : List ι}

theorem along_append_singleton {i : ι} :
  Along f ok s (labels ++ [i]) ↔ Along f ok s labels ∧ ok (labels.foldl f s) i := by
 induction labels generalizing s with
 | nil => simp [Along]
 | cons j rest ih =>
  rw [List.cons_append,Along,ih,Along,and_assoc]
  rfl

theorem along_true (f : σ → ι → σ) (s : σ) (lbs : List ι) : Along f (fun _ _ => True) s lbs := by
 induction lbs generalizing s with
 | nil => trivial
 | cons i rest ih => exact ⟨trivial,ih _⟩

/-- An invariant of the steps that meet a condition holds in every state of a run of such steps. -/
theorem invariant_take_of_along {f : σ → ι → σ} {ok : σ → ι → Prop} {inv : σ → Prop}
  (ht : ∀ s i, inv s → ok s i → inv (f s i)) {s : σ} (h0 : inv s) {lbs : List ι}
  (hl : Along f ok s lbs) (n : ℕ) : inv ((lbs.take n).foldl f s) := by
 induction lbs generalizing s n with
 | nil => simpa using h0
 | cons i rest ih =>
  cases n with
  | zero => exact h0
  | succ n => exact ih (ht s i h0 hl.1) hl.2 n

/-- An invariant may be used for the condition, and what the run is known to do. -/
theorem forall_take_iff_along_within {wit : σ → ι → Prop} {inv P : σ → Prop}
  (hin : ∀ s i, wit s i → inv s → P s → inv (f s i))
  (ht : ∀ s i, wit s i → inv s → P s → (P (f s i) ↔ ok s i)) (h0 : inv s) (hP : P s)
  (hl : Along f wit s labels) : (∀ n, P ((labels.take n).foldl f s)) ↔ Along f ok s labels := by
 induction labels generalizing s with
 | nil => simpa [Along] using hP
 | cons i rest ih =>
  obtain ⟨hi,hr⟩ := hl
  constructor
  · intro h
    have hn : P (f s i) := h 1
    exact ⟨(ht s i hi h0 hP).mp hn,(ih (hin s i hi h0 hP) hn hr).mp fun n => h (n+1)⟩
  · rintro ⟨hk,ho⟩ n
    have hn : P (f s i) := (ht s i hi h0 hP).mpr hk
    cases n with
    | zero => exact hP
    | succ n => exact (ih (hin s i hi h0 hP) hn hr).mpr ho n

theorem forall_take_iff_along {f : σ → ι → σ} {ok : σ → ι → Prop} {inv P : σ → Prop}
  (hn : ∀ s i, inv s → P s → inv (f s i)) (ht : ∀ s i, inv s → P s → (P (f s i) ↔ ok s i))
  {s : σ} (h0 : inv s) (hP : P s) (lbs : List ι) :
  (∀ n, P ((lbs.take n).foldl f s)) ↔ Along f ok s lbs :=
 forall_take_iff_along_within (fun s i _ => hn s i) (fun s i _ => ht s i) h0 hP
  (along_true f s lbs)

/-- Reachability of a computed system along an explicit list of labels. -/
theorem Reachable.ofFun_foldl {init : σ → Prop} (h : init s) (lbs : List ι) :
  (ofFun init f).Reachable (lbs.foldl f s) :=
 .foldl (.start h) (along_true f s lbs) fun _ _ _ => rfl

def advance (f : σ → ι → Option σ) (s : σ) (i : ι) : σ := (f s i).getD s

/-- Reachability along an explicit list of labels, each of which a partial step accepts. -/
theorem Reachable.advance_foldl {f : σ → ι → Option σ} (h : T.Reachable s)
  (hl : Along (advance f) (fun s i => (f s i).isSome ∧ ok s i) s labels)
  (hst : ∀ s i t, f s i = some t → ok s i → T.step s i t) :
  T.Reachable (labels.foldl (advance f) s) := by
 refine .foldl h hl fun s i hi => ?_
 obtain ⟨t,ht⟩ := Option.isSome_iff_exists.mp hi.1
 rw [advance,ht]
 exact hst s i t ht hi.2

/-- Whichever steps are taken, a state of the goal comes. -/
inductive Inevitable (next : σ → σ → Prop) (goal : σ → Prop) : σ → Prop
 | here {s : σ} (h : goal s) : Inevitable next goal s
 | later {s : σ} (hn : ∃ t, next s t) (h : ∀ t, next s t → Inevitable next goal t) :
   Inevitable next goal s

section
variable {R : σ → σ → Prop} {goal : σ → Prop} {s : σ}

lemma Inevitable.next {t : σ} (h : Inevitable R goal s) (hg : ¬ goal s) (ht : R s t) :
  Inevitable R goal t := by
 cases h with
 | here h => exact absurd h hg
 | later _ h => exact h t ht

variable (inv : σ → Prop)

lemma not_inevitable (hinv : ∀ s t, inv s → R s t → inv t) (hg : ∀ s, inv s → ¬ goal s)
  (h : inv s) : ¬ Inevitable R goal s := by
 intro hi
 induction hi with
 | here h' => exact hg _ h h'
 | later hn _ ih =>
  obtain ⟨t,ht⟩ := hn
  exact ih t ht (hinv _ _ h ht)

lemma inevitable_of_measure (m : σ → ℕ)
  (hinv : ∀ s t, inv s → ¬ goal s → R s t → inv t ∧ m t < m s)
  (hn : ∀ s, inv s → ¬ goal s → ∃ t, R s t) (h : inv s) : Inevitable R goal s := by
 induction hm : m s using Nat.strong_induction_on generalizing s with
 | _ n ih =>
  by_cases hg : goal s
  · exact .here hg
  · refine .later (hn s h hg) fun t ht => ?_
    obtain ⟨ht',hlt⟩ := hinv s t h hg ht
    exact ih (m t) (hm ▸ hlt) ht' rfl

end

end TransitionSystem

export TransitionSystem (Along Inevitable advance along_append_singleton along_true
 forall_take_iff_along forall_take_iff_along_within inevitable_of_measure invariant_take_of_along)

end NovaEdge
