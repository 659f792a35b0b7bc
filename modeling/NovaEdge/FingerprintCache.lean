import Mathlib.Data.List.Basic
import Mathlib.Tactic

/-! A table that readers share and that is kept with the fingerprint of the content it was built
from. A reader that finds another fingerprint builds its own table and stores it some time later. -/
namespace NovaEdge.FingerprintCache

structure Cached (φ τ : Type*) where
 fingerprint : φ
 table : τ

structure Shared (φ τ : Type*) where
 cached : Cached φ τ
 pending : List (Cached φ τ) := []

variable {κ φ τ : Type*} [DecidableEq φ] (usable : τ → Bool) (fp : κ → φ) (build : κ → τ)

def read (c : Cached φ τ) (fingerprint : φ) (built : τ) : τ × Option (Cached φ τ) :=
 if c.fingerprint = fingerprint ∧ usable c.table then (c.table,none)
 else (built,some ⟨fingerprint,built⟩)

def later (s : Shared φ τ) (stored : Option (Cached φ τ)) : Shared φ τ :=
 { s with pending := s.pending ++ stored.toList }

def store (s : Shared φ τ) (reader : ℕ) : Shared φ τ :=
 match s.pending[reader]? with
 | none => s
 | some c => { cached := c, pending := s.pending.eraseIdx reader }

/-- Whatever is usable was built from a content that was met. -/
def Coherent (met : κ → Prop) (s : Shared φ τ) : Prop :=
 ∀ c ∈ s.cached::s.pending, usable c.table = true →
  ∃ k, met k ∧ c.fingerprint = fp k ∧ c.table = build k

variable {usable fp build} {met : κ → Prop} {s : Shared φ τ}

lemma coherent_later (hs : Coherent usable fp build met s) {k : κ} (hk : met k) :
  Coherent usable fp build met (later s (read usable s.cached (fp k) (build k)).2) := by
 intro c hc hu
 have hm : c ∈ s.cached::s.pending ∨ c ∈ (read usable s.cached (fp k) (build k)).2.toList := by
  simpa [later,or_assoc] using hc
 rcases hm with ho | hn
 · exact hs c ho hu
 · refine ⟨k,hk,?_⟩
   unfold read at hn
   split_ifs at hn with hh
   · simp at hn
   · rw [Option.toList_some,List.mem_singleton] at hn
     subst hn
     exact ⟨rfl,rfl⟩

omit [DecidableEq φ] in
lemma coherent_store (hs : Coherent usable fp build met s) (rea : ℕ) :
  Coherent usable fp build met (store s rea) := by
 unfold store
 cases hr : s.pending[rea]? with
 | none => exact hs
 | some stored =>
  intro c hc
  refine hs c ?_
  rcases List.mem_cons.mp hc with rfl | hk
  · exact List.mem_cons_of_mem _ (List.mem_of_getElem? hr)
  · exact List.mem_cons_of_mem _ (List.mem_of_mem_eraseIdx hk)

lemma read_eq_build (hs : Coherent usable fp build met s) {k : κ}
  (hdi : ∀ k', met k' → fp k' = fp k → build k' = build k) :
  (read usable s.cached (fp k) (build k)).1 = build k := by
 unfold read
 split_ifs with hh
 · obtain ⟨hf,hu⟩ := hh
   obtain ⟨k',hk',hf',ht⟩ := hs s.cached (by simp) hu
   rw [ht]
   exact hdi k' hk' (hf'.symm.trans hf)
 · rfl

end NovaEdge.FingerprintCache
