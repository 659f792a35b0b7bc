import Mathlib.Data.List.Basic
import Mathlib.Tactic

/-! Lists of times that are cut down to those within a window before now. What is forgotten is
outside of the window for good, so that the rest answers every later question about the window. -/
namespace NovaEdge.SlidingWindow

variable {window now : ℕ} {sto full : List ℕ}

def recent (window now : ℕ) (times : List ℕ) : List ℕ := times.filter (now < · + window)

def Remembers (window now : ℕ) (stored full : List ℕ) : Prop :=
 recent window now stored = recent window now full

theorem recent_recent (win : ℕ) {now now' : ℕ} (hl : now ≤ now') (tim : List ℕ) :
  recent win now' (recent win now tim) = recent win now' tim := by
 rw [recent,recent,recent,List.filter_filter]
 refine List.filter_congr fun t _ => ?_
 rw [← Bool.decide_and,decide_eq_decide]
 omega

/-- Forgetting what is outside of the window. -/
theorem Remembers.recent (hr : Remembers window now sto full) :
  Remembers window now (recent window now sto) full :=
 (recent_recent window le_rfl sto).trans hr

theorem Remembers.append (hr : Remembers window now sto full) (t : ℕ) :
  Remembers window now (sto ++ [t]) (full ++ [t]) := by
 unfold Remembers SlidingWindow.recent at hr ⊢
 rw [List.filter_append,List.filter_append,hr]

theorem Remembers.later (hr : Remembers window now sto full) {now' : ℕ} (hl : now ≤ now') :
  Remembers window now' sto full := by
 unfold Remembers at hr ⊢
 rw [← recent_recent window hl sto,hr,recent_recent window hl full]

end NovaEdge.SlidingWindow
