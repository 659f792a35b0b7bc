import NovaEdge.TransitionSystem
import NovaEdge.FederationClockLattice
import NovaEdge.FederationServer

/-! The clocks that local changes get. A call of `RecordLocalChange` takes the lock of the clock
twice, for `Increment` and for `ToMap`; steps of other calls and of peers may come in between. -/
namespace NovaEdge.Federation
open KeyedMap List VectorClock

structure LocalClock where
 member : String
 clock : VectorClock
 pending : List ℕ := []
 stamps : List (ℕ × VectorClock) := []
 /-- History only: the clock was raised since it was last read. -/
 advanced : Bool := true

inductive ClockStep
 | increment (call : ℕ)
 | toMap (call : ℕ)
 | mergeMap (clocks : VectorClock)

/-- Some entry is above that of the clock, so that merging the map raises it. -/
def VectorClock.raisedBy (vc clocks : VectorClock) : Bool :=
 clocks.pairs.any fun e => decide (vc.get e.1 < e.2.toInt)

namespace LocalClock

def start (member : String) (clock : VectorClock) : LocalClock where
 member := member
 clock := clock

def begun (s : LocalClock) (call : ℕ) : Bool := call ∈ s.pending || s.stamps.any (·.1 = call)

def step (s : LocalClock) : ClockStep → LocalClock
 | .increment call =>
  if s.begun call then s
  else { s with
   clock := s.clock.increment s.member, pending := call::s.pending, advanced := true }
 | .toMap call =>
  if call ∈ s.pending then
   { s with
     pending := s.pending.filter (· ≠ call), stamps := (call,s.clock.toMap)::s.stamps
     advanced := false }
  else s
 | .mergeMap clocks =>
  { s with clock := s.clock.mergeMap clocks, advanced := s.advanced || s.clock.raisedBy clocks }

def TotallyOrdered (s : LocalClock) : Prop := ∀ e ∈ s.stamps, ∀ e' ∈ s.stamps, e.1 ≠ e'.1 →
  e.2 ≠ e'.2 ∧ (e.2.happenedBefore e'.2 = true ∨ e'.2.happenedBefore e.2 = true)

def HasRoom (s : LocalClock) : ClockStep → Prop
 | .increment call => s.begun call = false → s.clock.get s.member < maxInt64
 | _ => True

def ReadsAdvanced (s : LocalClock) : ClockStep → Prop
 | .toMap call => call ∈ s.pending → s.advanced = true
 | _ => True

structure Ahead (s : LocalClock) : Prop where
 le : ∀ e ∈ s.stamps, e.2.get ≤ s.clock.get
 lt : s.advanced = true → ∀ e ∈ s.stamps, e.2.get < s.clock.get
 last : s.advanced = false → ∃ e ∈ s.stamps, e.2.get = s.clock.get
 unread : ∀ e ∈ s.stamps, e.1 ∉ s.pending

end LocalClock

namespace VectorClock

lemma mergeMap_lt_of_raisedBy {vc cks : VectorClock} (h : vc.raisedBy cks = true) :
  vc.get < (vc.mergeMap cks).get := by
 obtain ⟨⟨m,v⟩,he,hl⟩ := any_eq_true.mp h
 rw [Pi.lt_def]
 refine ⟨le_mergeMap vc cks,m,?_⟩
 rw [get_mergeMap,mem_pairs_iff.mp he]
 exact lt_max_of_lt_right (of_decide_eq_true hl)

lemma get_mergeMap_of_not_raisedBy {vc cks : VectorClock} (h : vc.raisedBy cks = false) :
  (vc.mergeMap cks).get = vc.get := by
 funext m
 rw [get_mergeMap]
 cases hm : cks.find? m with
 | none => rfl
 | some v =>
  have hn := any_eq_false.mp h (m,v) (mem_pairs_iff.mpr hm)
  exact max_eq_left (by simpa using hn)

end VectorClock

namespace LocalClock

variable {s : LocalClock} {call : ℕ}

lemma ahead_increment (h : s.Ahead) (hn : s.begun call = false)
  (hr : s.clock.get s.member < maxInt64) : (s.step (.increment call)).Ahead := by
 have hl : s.clock.get < (s.clock.increment s.member).get := lt_increment hr
 have ht : s.step (.increment call) = { s with
   clock := s.clock.increment s.member, pending := call::s.pending, advanced := true } := by
  simp [step,hn]
 rw [ht]
 refine ⟨fun e he => (h.le e he).trans hl.le,fun _ e he => (h.le e he).trans_lt hl,?_,?_⟩
 · simp
 · intro e he hm
   rcases mem_cons.mp hm with hc | hm
   · have hb : s.begun call = true := by
      rw [begun,Bool.or_eq_true,any_eq_true]
      exact .inr ⟨e,he,by simp [hc]⟩
     rw [hn] at hb
     cases hb
   · exact h.unread e he hm

lemma ahead_toMap (h : s.Ahead) (hp : call ∈ s.pending) : (s.step (.toMap call)).Ahead := by
 rw [step,if_pos hp]
 refine ⟨?_,by simp,fun _ => ⟨_,mem_cons_self,get_toMap _⟩,?_⟩
 · intro e he
   rcases mem_cons.mp he with rfl | he
   · exact (get_toMap _).le
   · exact h.le e he
 · intro e he hm
   obtain ⟨hm,hn⟩ := mem_filter.mp hm
   rcases mem_cons.mp he with rfl | he
   · simp at hn
   · exact h.unread e he hm

lemma ahead_mergeMap (h : s.Ahead) (cks : VectorClock) : (s.step (.mergeMap cks)).Ahead := by
 have hl := le_mergeMap s.clock cks
 refine ⟨fun e he => (h.le e he).trans hl,fun ha e he => ?_,fun ha => ?_,h.unread⟩
 · rcases Bool.or_eq_true_iff.mp ha with ha | hr
   · exact (h.lt ha e he).trans_le hl
   · exact (h.le e he).trans_lt (mergeMap_lt_of_raisedBy hr)
 · obtain ⟨ha,hr⟩ := Bool.or_eq_false_iff.mp ha
   obtain ⟨e,he,hsa⟩ := h.last ha
   exact ⟨e,he,hsa.trans (get_mergeMap_of_not_raisedBy hr).symm⟩

lemma ahead_step {i : ClockStep} (hr : s.HasRoom i) (h : s.Ahead) : (s.step i).Ahead := by
 cases i with
 | increment call =>
  cases hb : s.begun call with
  | true =>
   rw [step,if_pos hb]
   exact h
  | false => exact ahead_increment h hb (hr hb)
 | toMap call =>
  by_cases hp : call ∈ s.pending
  · exact ahead_toMap h hp
  · rw [step,if_neg hp]
    exact h
 | mergeMap clocks => exact ahead_mergeMap h clocks

/-- A read puts its clock after all earlier ones, or repeats the last of them. -/
lemma totallyOrdered_toMap_iff (h : s.Ahead) (ho : s.TotallyOrdered) (hp : call ∈ s.pending) :
  (s.step (.toMap call)).TotallyOrdered ↔ s.advanced = true := by
 rw [step,if_pos hp]
 have hn : ∀ e ∈ s.stamps, e.1 ≠ call := fun e he hc => h.unread e he (hc ▸ hp)
 constructor
 · intro hal
   by_contra ha
   obtain ⟨e,he,hsa⟩ := h.last (Bool.not_eq_true _ ▸ ha)
   have hbo := (hal e (mem_cons_of_mem _ he) (call,s.clock.toMap) mem_cons_self (hn e he)).2
   simp [hsa] at hbo
 · intro ha e he e' he' hne
   have hb : ∀ x ∈ s.stamps, x.2 ≠ s.clock.toMap ∧ x.2.happenedBefore s.clock.toMap = true := by
    intro x hx
    have hl : x.2.get < s.clock.toMap.get := by
     rw [get_toMap]
     exact h.lt ha x hx
    refine ⟨fun hq => ?_,(happenedBefore_iff _ _).mpr hl⟩
    rw [hq] at hl
    exact lt_irrefl _ hl
   rcases mem_cons.mp he with rfl | he
   · rcases mem_cons.mp he' with rfl | he'
     · exact absurd rfl hne
     · exact ⟨(hb e' he').1.symm,.inr (hb e' he').2⟩
   · rcases mem_cons.mp he' with rfl | he'
     · exact ⟨(hb e he).1,.inl (hb e he).2⟩
     · exact ho e he e' he' hne

lemma totallyOrdered_step_iff (h : s.Ahead) (ho : s.TotallyOrdered) (i : ClockStep) :
  (s.step i).TotallyOrdered ↔ s.ReadsAdvanced i := by
 cases i with
 | increment call =>
  refine iff_of_true ?_ trivial
  rw [step]
  split_ifs <;> exact ho
 | toMap call =>
  by_cases hp : call ∈ s.pending
  · rw [totallyOrdered_toMap_iff h ho hp,ReadsAdvanced,forall_prop_of_true hp]
  · rw [step,if_neg hp]
    exact iff_of_true ho fun hm => absurd hm hp
 | mergeMap clocks => exact iff_of_true ho trivial

theorem local_changes_totally_ordered_iff (member : String) (clock : VectorClock)
  (steps : List ClockStep)
  (hroom : Along step HasRoom (start member clock) steps) :
  (∀ n, ((steps.take n).foldl step (start member clock)).TotallyOrdered) ↔
   Along step ReadsAdvanced (start member clock) steps := by
 have h0 : (start member clock).Ahead := ⟨by simp [start],by simp [start],by simp [start],
  by simp [start]⟩
 have ho : (start member clock).TotallyOrdered := fun e he => by simp [start] at he
 exact forall_take_iff_along_within (fun s i hi h _ => ahead_step hi h)
  (fun s i _ h ho => totallyOrdered_step_iff h ho i) h0 ho hroom

/-- Both calls increment before either of them reads. -/
theorem overlapping_calls_get_equal_clocks :
  let s := [ClockStep.increment 1,.increment 2,.toMap 1,.toMap 2].foldl step
   (start "a" (VectorClock.increment ∅ "a"))
  s.stamps.map Prod.fst = [2,1] ∧ s.stamps.map (fun e => e.2.get "a") = [3,3] ∧
   ¬ s.TotallyOrdered := by
 refine ⟨by decide,by decide,fun h => ?_⟩
 have hb := (h (2,_) mem_cons_self (1,_) (mem_cons_of_mem _ mem_cons_self) (by decide)).2
 exact absurd hb (by decide)

theorem local_changes_totally_ordered_with_merge :
  let steps := [ClockStep.increment 1,.increment 2,.toMap 1,
   .mergeMap (set ∅ "b" 4),.toMap 2]
  let s := steps.foldl step (start "a" (VectorClock.increment ∅ "a"))
  s.stamps.length = 2 ∧ s.TotallyOrdered := by
 have hr : Along step HasRoom (start "a" (VectorClock.increment ∅ "a"))
   [.increment 1,.increment 2,.toMap 1,.mergeMap (set ∅ "b" 4),.toMap 2] := by
  refine ⟨fun _ => ?_,fun _ => ?_,trivial,trivial,trivial,trivial⟩ <;> decide
 have hre : Along step ReadsAdvanced (start "a" (VectorClock.increment ∅ "a"))
   [.increment 1,.increment 2,.toMap 1,.mergeMap (set ∅ "b" 4),.toMap 2] :=
  ⟨trivial,trivial,fun _ => rfl,trivial,fun _ => rfl,trivial⟩
 exact ⟨by decide,(local_changes_totally_ordered_iff _ _ _ hr).mpr hre 5⟩

def Of (l : LocalClock) (s : Server) : Prop :=
 l.member = s.config.localMember ∧ l.clock = s.vectorClock

/-- A call that is not interrupted is the operation of the server model. -/
theorem of_recordLocalChange {l : LocalClock} {s : Server} (h : l.Of s)
  (hn : l.begun call = false) (id : String) (key : ResourceKey) (t : ChangeType)
  (data : Bytes) (lbs : KeyedMap String String) (sp sto : Instant) :
  let l' := (l.step (.increment call)).step (.toMap call)
  l'.Of (s.recordLocalChange id key t data lbs sp sto) ∧
   l'.stamps = (call,(s.localEntry id key t data lbs sp sto).vectorClock.toMap) ::
    l.stamps := by
 obtain ⟨hm,hc⟩ := h
 simp only [step,hn,hm,hc,Of,mem_cons,true_or,if_true,Bool.false_eq_true,if_false]
 cases t <;> exact ⟨⟨rfl,rfl⟩,rfl⟩

theorem of_observe {l : LocalClock} {s : Server} (h : l.Of s) (cks : VectorClock) :
  (l.step (.mergeMap cks)).Of (s.observe cks) :=
 ⟨h.1,congrArg (VectorClock.mergeMap · cks) h.2⟩

end LocalClock
end NovaEdge.Federation
