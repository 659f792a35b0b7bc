import Mathlib.Tactic

/-! The configuration file of a standalone agent: loads on file events and on polling ticks. A load
notes the hash of the file before it applies the snapshot, and a tick loads only if the hash is
another one. -/
namespace NovaEdge.Standalone
open List

abbrev Bytes := List UInt8

/-- Parsing, conversion to a snapshot and SHA-256 in hexadecimal. -/
structure FileLibrary (C S : Type) where
 loadConfigFromBytes : Bytes → Option C
 toSnapshot : C → Option S
 computeHashFromData : Bytes → String

def FileLibrary.convert {C S : Type} (lib : FileLibrary C S) (data : Bytes) : Option S :=
 (lib.loadConfigFromBytes data).bind lib.toSnapshot

/-- `applied` is the last snapshot that was applied without an error; a file that cannot be read is
`none`. -/
structure ConfigWatcher (C S : Type) where
 file : Option Bytes
 lastConfig : Option C := none
 lastSnapshot : Option S := none
 lastHash : String := ""
 applied : Option S := none

inductive FileOp
 | edit (content : Option Bytes)
 | event (ours writes applies : Bool)
 | tick (applies : Bool)

section
variable {C S : Type} (lib : FileLibrary C S) (w : ConfigWatcher C S)

def loadAndApply (applies : Bool) : ConfigWatcher C S :=
 match w.file with
 | none => w
 | some data => match lib.loadConfigFromBytes data with
  | none => w
  | some config => match lib.toSnapshot config with
   | none => w
   | some snapshot =>
    { w with
      lastConfig := some config
      lastSnapshot := some snapshot
      lastHash := lib.computeHashFromData data
      applied := if applies then some snapshot else w.applied }

def hasChanged : Bool := w.file.any fun data => lib.computeHashFromData data ≠ w.lastHash

def afterOp : FileOp → ConfigWatcher C S
 | .edit content => { w with file := content }
 | .event ours writes applies => if ours && writes then loadAndApply lib w applies else w
 | .tick applies => if hasChanged lib w then loadAndApply lib w applies else w

/-- `Start` with a first content, which is applied (else `Start` ends with an error), and what
follows. -/
def watch (content : Bytes) (ops : List FileOp) : ConfigWatcher C S :=
 ops.foldl (afterOp lib) (loadAndApply lib { file := some content } true)

/-- File events while the file stays as it is and every snapshot is applied. -/
def quiet (events : List (Bool × Bool)) : List FileOp := events.map fun e => .event e.1 e.2 true

variable {lib w} {data : Bytes} {snap : S} (hf : w.file = some data)
 (hc : lib.convert data = some snap)
include hf hc

lemma loadAndApply_of_convert : ∃ config, loadAndApply lib w true = { w with
  lastConfig := some config
  lastSnapshot := some snap
  lastHash := lib.computeHashFromData data
  applied := some snap } := by
 obtain ⟨config,hl,hs⟩ := Option.bind_eq_some_iff.mp hc
 refine ⟨config,?_⟩
 simp [loadAndApply,hf,hl,hs]

lemma applied_tick : (afterOp lib w (.tick true)).applied = some snap ↔
  (w.lastHash = lib.computeHashFromData data → w.applied = some snap) := by
 obtain ⟨config,hl⟩ := loadAndApply_of_convert hf hc
 by_cases hh : w.lastHash = lib.computeHashFromData data
 · simp [afterOp,hasChanged,hf,hh]
 · simp [afterOp,hasChanged,hf,hh,Ne.symm hh,hl]

/-- After one load the snapshot stays applied; without one nothing changes. -/
lemma quiet_run (evs : List (Bool × Bool)) : ((quiet evs).foldl (afterOp lib) w).file = some data ∧
   (((true,true) ∈ evs → ((quiet evs).foldl (afterOp lib) w).applied = some snap) ∧
    ((true,true) ∉ evs → (quiet evs).foldl (afterOp lib) w = w)) := by
 induction evs using List.reverseRecOn with
 | nil => simp [quiet,hf]
 | append_singleton evs e ih =>
  obtain ⟨hf',hin,hout⟩ := ih
  rw [quiet,map_append,foldl_append,← quiet]
  by_cases he : e = (true,true)
  · obtain ⟨config,hl⟩ := loadAndApply_of_convert hf' hc
    subst he
    simp [afterOp,hl,hf']
  · have hn : (e.1 && e.2) = false := by
     rcases e with ⟨_ | _,_ | _⟩ <;> simp_all
    have hm : (true,true) ∈ evs ++ [e] ↔ (true,true) ∈ evs := by simp [Ne.symm he]
    rw [hm]
    simpa [afterOp,hn] using ⟨hf',hin,hout⟩

end

/-- After the next tick the file's content is what was applied last, unless a load of this content
was noted whose snapshot is not. -/
theorem file_takes_effect_iff {C S : Type} (lib : FileLibrary C S) (content : Bytes)
  (ops : List FileOp) (events : List (Bool × Bool)) {data : Bytes} {snapshot : S}
  (hfile : (watch lib content ops).file = some data) (hconvert : lib.convert data = some snapshot) :
  (watch lib content (ops ++ quiet events ++ [.tick true])).applied = some snapshot ↔
   (true,true) ∈ events ∨ ((watch lib content ops).lastHash = lib.computeHashFromData data →
    (watch lib content ops).applied = some snapshot) := by
 obtain ⟨hf,hin,hout⟩ := quiet_run hfile hconvert events
 have ht := applied_tick hf hconvert
 rw [watch,foldl_append,foldl_append]
 refine ht.trans ?_
 by_cases he : (true,true) ∈ events
 · exact iff_of_true (fun _ => hin he) (.inl he)
 · rw [or_iff_right he,hout he]

def sampleFiles : FileLibrary Bytes Bytes :=
 ⟨some,some,fun data => if data = [1] then "1" else "2"⟩

theorem edited_file_takes_effect :
  (watch sampleFiles [1] ([.edit (some [2])] ++ quiet [] ++ [.tick true])).applied = some [2] :=
 (@file_takes_effect_iff _ _ sampleFiles [1] [.edit (some [2])] [] [2] [2] rfl rfl).mpr
  (.inr (by decide))

/-- The snapshot of an edited file is refused once; no later tick tries it again. -/
theorem refused_file_not_retried :
  let w := watch sampleFiles [1] [.edit (some [2]),.event true true false,.tick true,.tick true]
  w.file = some [2] ∧ w.lastSnapshot = some [2] ∧ w.applied = some [1] := by decide

end NovaEdge.Standalone
