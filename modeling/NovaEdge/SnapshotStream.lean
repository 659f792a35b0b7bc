import NovaEdge.TransitionSystem

/-! Configuration streams of the snapshot server. Streams share one dirty flag and one debounce
timer; a stream opens with a build and subscribes to notifications afterwards. A resource change
and the call of `TriggerUpdate` that follows it are separate steps. -/
namespace NovaEdge.Snapshot
open List

structure ConfigStream (V : Type*) where
 node : String
 lastVersion : V
 subscribed : Bool
 pending : ℕ
 deriving DecidableEq

open ConfigStream
structure Server (R V : Type*) where
 resources : R
 untriggered : ℕ
 dirty : Bool
 debounceTimer : Option String
 streams : List (ConfigStream V)

inductive Op (R : Type*)
 | change (resources : R)
 | triggerUpdate (nodeName : String)
 | debounceFires
 | openStream (node : String) (built : Bool)
 | subscribe (i : ℕ)
 | update (i : ℕ) (built : Bool)
 | tick (i : ℕ) (built : Bool)
 | closeStream (i : ℕ)

def updateCapacity : ℕ := 10

def Covers (nodeName node : String) : Prop := nodeName = "" ∨ nodeName = node

instance (nodeName node : String) : Decidable (Covers nodeName node) :=
 inferInstanceAs (Decidable (_ ∨ _))

section
variable {R V : Type*} [DecidableEq V] (version : R → String → V)

def ConfigStream.notify (nodeName : String) (st : ConfigStream V) : ConfigStream V :=
 if st.subscribed = true ∧ Covers nodeName st.node ∧ st.pending < updateCapacity then
  { st with pending := st.pending+1 }
 else st

def ConfigStream.rebuild (r : R) (built : Bool) (st : ConfigStream V) : ConfigStream V :=
 if built = true ∧ version r st.node ≠ st.lastVersion then
  { st with lastVersion := version r st.node }
 else st

def ConfigStream.receive (r : R) (built : Bool) (st : ConfigStream V) : ConfigStream V :=
 if st.pending = 0 then st
 else ConfigStream.rebuild version r built { st with pending := st.pending - 1 }

namespace Server

def doTrigger (s : Server R V) (nodeName : String) : Server R V :=
 { s with streams := s.streams.map (ConfigStream.notify nodeName) }

def step (s : Server R V) : Op R → Server R V
 | .change r => { s with resources := r, untriggered := s.untriggered+1 }
 | .triggerUpdate nodeName =>
  { s with dirty := true, debounceTimer := some nodeName, untriggered := s.untriggered - 1 }
 | .debounceFires => match s.debounceTimer with
  | none => s
  | some nodeName => { s.doTrigger nodeName with debounceTimer := none }
 | .openStream node built =>
  if built then
   { s with streams := s.streams ++ [⟨node,version s.resources node,false,0⟩] }
  else s
 | .subscribe i =>
  { s with streams := s.streams.modify i fun st => { st with subscribed := true } }
 | .update i built =>
  { s with streams := s.streams.modify i (ConfigStream.receive version s.resources built) }
 | .tick i built =>
  if s.dirty = true ∧ s.streams[i]?.any ConfigStream.subscribed = true then
   { s with dirty := false
            streams := s.streams.modify i (ConfigStream.rebuild version s.resources built) }
  else s
 | .closeStream i => { s with streams := s.streams.eraseIdx i }

end Server

def Started (s : Server R V) : Prop :=
 s.untriggered = 0 ∧ s.dirty = false ∧ s.debounceTimer = none ∧ s.streams = []

def streamSystem : TransitionSystem (Server R V) (Op R) := .ofFun Started (Server.step version)

def UpToDate (s : Server R V) (st : ConfigStream V) : Prop :=
 st.lastVersion = version s.resources st.node

def AllUpToDate (s : Server R V) : Prop := ∀ st ∈ s.streams, UpToDate version s st

/-- Nothing is left that could wake a stream, and every open stream is in its loop. -/
structure Quiescent (s : Server R V) : Prop where
 triggered : s.untriggered = 0
 timer : s.debounceTimer = none
 streams : ∀ st ∈ s.streams, st.subscribed = true ∧ st.pending = 0

def tickAll (s : Server R V) (order : List ℕ) : Server R V :=
 order.foldl (fun s i => s.step version (.tick i true)) s

/-- A wake-up other than the shared dirty flag is on its way to the stream. -/
def Signalled (s : Server R V) (st : ConfigStream V) : Prop :=
 0 < s.untriggered ∨ (∃ n, s.debounceTimer = some n ∧ Covers n st.node) ∨ 0 < st.pending

/-- The dirty flag serves the first ticker that fires, so it saves a stream only if that is the
only one. -/
def Rescued (s : Server R V) : Prop := s.dirty = true ∧ s.streams.length = 1

/-- A trigger, a timer, a failed build and a second stream must each leave a stale stream its
wake-up. -/
def WakeupSafe (s : Server R V) : Op R → Prop
 | .triggerUpdate nodeName => ∀ st ∈ s.streams, ¬ UpToDate version s st →
   1 < s.untriggered ∨ Covers nodeName st.node ∨ 0 < st.pending ∨ s.streams.length = 1
 | .debounceFires => ∀ n, s.debounceTimer = some n →
   ∀ st ∈ s.streams, ¬ UpToDate version s st → Covers n st.node →
    st.subscribed = true ∨ 0 < s.untriggered ∨ 0 < st.pending ∨ Rescued s
 | .openStream _ true => ∀ st ∈ s.streams, ¬ UpToDate version s st → Signalled s st ∨ ¬ Rescued s
 | .update i false => ∀ st, s.streams[i]? = some st → ¬ UpToDate version s st →
   0 < s.untriggered ∨ (∃ n, s.debounceTimer = some n ∧ Covers n st.node) ∨
    st.pending ≠ 1 ∨ Rescued s
 | .tick i false => ∀ st, s.streams[i]? = some st → ¬ UpToDate version s st →
   Signalled s st ∨ ¬ Rescued s
 | _ => True

/-- Every open stream is up to date or will be woken. -/
def Awake (s : Server R V) : Prop :=
 ∀ st ∈ s.streams, UpToDate version s st ∨ Signalled s st ∨ Rescued s

end

attribute [local simp] Server.step

section
variable {R V : Type*}

lemma mem_modify {l : List (ConfigStream V)} {i : ℕ} {f : ConfigStream V → ConfigStream V}
  {st' : ConfigStream V} (h : st' ∈ l.modify i f) :
  ∃ j st, l[j]? = some st ∧ st' = if i = j then f st else st := by
 obtain ⟨j,hj⟩ := mem_iff_getElem?.mp h
 rw [getElem?_modify] at hj
 cases hl : l[j]? with
 | none => simp [hl] at hj
 | some st =>
  refine ⟨j,st,hl,?_⟩
  simpa [hl] using hj.symm

variable {st : ConfigStream V}

lemma notify_pending_pos {n : String} (h : st.subscribed = true) (hc : Covers n st.node) :
  0 < (st.notify n).pending := by
 unfold notify
 split_ifs with ho
 · exact Nat.succ_pos _
 · by_contra hz
   exact ho ⟨h,hc,by unfold updateCapacity; omega⟩

variable (n : String)

lemma le_notify_pending (st : ConfigStream V) : st.pending ≤ (st.notify n).pending := by
 unfold notify
 split_ifs
 · exact Nat.le_succ _
 · exact le_rfl

lemma notify_node (st : ConfigStream V) : (st.notify n).node = st.node := by
 unfold notify
 split_ifs <;> rfl

lemma notify_lastVersion (st : ConfigStream V) : (st.notify n).lastVersion = st.lastVersion := by
 unfold notify
 split_ifs <;> rfl

variable [DecidableEq V] {ver : R → String → V} {s : Server R V}

lemma rebuild_node (r : R) (blt : Bool) (st : ConfigStream V) :
  (rebuild ver r blt st).node = st.node := by
 unfold rebuild
 split_ifs <;> rfl

lemma rebuild_lastVersion (r : R) (st : ConfigStream V) :
  (rebuild ver r true st).lastVersion = ver r st.node := by
 unfold rebuild
 split_ifs with h
 · rfl
 · by_contra hn
   exact h ⟨rfl,fun hq => hn hq.symm⟩

lemma upToDate_rebuild (st : ConfigStream V) :
  UpToDate ver s (rebuild ver s.resources true st) := by
 unfold UpToDate
 rw [rebuild_lastVersion,rebuild_node]

lemma awake_triggerUpdate (nn : String) (ha : WakeupSafe ver s (.triggerUpdate nn)) :
  Awake ver (s.step ver (.triggerUpdate nn)) := by
 intro st ht
 by_cases hu : UpToDate ver s st
 · exact .inl hu
 · right
   rcases ha st ht hu with hm | hc | hp | ho
   · exact .inl (.inl (by change 0 < s.untriggered - 1; omega))
   · exact .inl (.inr (.inl ⟨nn,rfl,hc⟩))
   · exact .inl (.inr (.inr hp))
   · exact .inr ⟨rfl,ho⟩

section
variable (h : Awake ver s)
include h

lemma awake_debounceFires (ha : WakeupSafe ver s .debounceFires) :
  Awake ver (s.step ver .debounceFires) := by
 cases ht : s.debounceTimer with
 | none => simpa [ht] using h
 | some n =>
  have hse : s.step ver .debounceFires = { s.doTrigger n with debounceTimer := none } := by
   simp [ht]
  rw [hse]
  intro st' hs'
  obtain ⟨st,hst,rfl⟩ := mem_map.mp hs'
  have hl : Rescued s → Rescued ({ s.doTrigger n with debounceTimer := none } : Server R V) :=
   fun hr => ⟨hr.1,(length_map ..).trans hr.2⟩
  have hpe : 0 < st.pending → 0 < (st.notify n).pending :=
   fun hp => hp.trans_le (le_notify_pending n st)
  by_cases hu : UpToDate ver s st
  · left
    unfold UpToDate at hu ⊢
    rw [notify_lastVersion,notify_node]
    exact hu
  · right
    rcases (h st hst).resolve_left hu with (hn | ⟨n',hn',hc⟩ | hp) | hre
    · exact .inl (.inl hn)
    · obtain rfl := Option.mem_unique ht hn'
      rcases ha n ht st hst hu hc with hsu | hn | hp | hre
      · exact .inl (.inr (.inr (notify_pending_pos hsu hc)))
      · exact .inl (.inl hn)
      · exact .inl (.inr (.inr (hpe hp)))
      · exact .inr (hl hre)
    · exact .inl (.inr (.inr (hpe hp)))
    · exact .inr (hl hre)

lemma awake_openStream (nd : String) (blt : Bool) (ha : WakeupSafe ver s (.openStream nd blt)) :
  Awake ver (s.step ver (.openStream nd blt)) := by
 cases blt with
 | false => exact h
 | true =>
  intro st ht
  rcases mem_append.mp ht with ht | ht
  · by_cases hu : UpToDate ver s st
    · exact .inl hu
    · right
      rcases ha st ht hu with hsi | hn
      · exact .inl hsi
      · exact .inl (((h st ht).resolve_left hu).resolve_right hn)
  · obtain rfl := mem_singleton.mp ht
    exact .inl rfl

lemma awake_subscribe (i : ℕ) : Awake ver (s.step ver (.subscribe i)) := by
 intro st' hs'
 obtain ⟨j,st,hj,rfl⟩ := mem_modify hs'
 have ht := mem_of_getElem? hj
 have hl : Rescued s → Rescued (s.step ver (.subscribe i)) :=
  fun hr => ⟨hr.1,(length_modify ..).trans hr.2⟩
 split_ifs
 · rcases h st ht with hu | hsi | hre
   · exact .inl hu
   · exact .inr (.inl hsi)
   · exact .inr (.inr (hl hre))
 · rcases h st ht with hu | hsi | hre
   · exact .inl hu
   · exact .inr (.inl hsi)
   · exact .inr (.inr (hl hre))

lemma awake_update (i : ℕ) (blt : Bool) (ha : WakeupSafe ver s (.update i blt)) :
  Awake ver (s.step ver (.update i blt)) := by
 intro st' hs'
 obtain ⟨j,st,hj,rfl⟩ := mem_modify hs'
 have ht := mem_of_getElem? hj
 have hl : Rescued s → Rescued (s.step ver (.update i blt)) :=
  fun hr => ⟨hr.1,(length_modify ..).trans hr.2⟩
 have hk : UpToDate ver s st ∨ Signalled s st ∨ Rescued s →
   UpToDate ver (s.step ver (.update i blt)) st ∨
    Signalled (s.step ver (.update i blt)) st ∨
    Rescued (s.step ver (.update i blt)) := by
  rintro (hu | hsi | hre)
  · exact .inl hu
  · exact .inr (.inl hsi)
  · exact .inr (.inr (hl hre))
 split_ifs with hij
 · unfold receive
   split_ifs with hz
   · exact hk (h st ht)
   · cases blt with
     | true => exact .inl (upToDate_rebuild _)
     | false =>
      subst hij
      by_cases hu : UpToDate ver s st
      · exact .inl hu
      · right
        rcases ha st hj hu with hn | hti | hp | hre
        · exact .inl (.inl hn)
        · exact .inl (.inr (.inl hti))
        · exact .inl (.inr (.inr (by change 0 < st.pending - 1; omega)))
        · exact .inr (hl hre)
 · exact hk (h st ht)

lemma awake_tick (i : ℕ) (blt : Bool) (ha : WakeupSafe ver s (.tick i blt)) :
  Awake ver (s.step ver (.tick i blt)) := by
 unfold Server.step
 dsimp only
 split_ifs with hc
 · intro st' hs'
   obtain ⟨j,st,hj,rfl⟩ := mem_modify hs'
   have ht := mem_of_getElem? hj
   split_ifs with hij
   · subst hij
     cases blt with
     | true => exact .inl (upToDate_rebuild _)
     | false =>
      by_cases hu : UpToDate ver s st
      · exact .inl hu
      · right
        rcases ha st hj hu with hsi | hn
        · exact .inl hsi
        · exact .inl (((h st ht).resolve_left hu).resolve_right hn)
   · have hn : ¬ Rescued s := by
      rintro ⟨-,ho⟩
      obtain ⟨hi,-⟩ : ∃ hi : i < s.streams.length, True := by
       cases hi : s.streams[i]? with
       | none => simp [hi] at hc
       | some _ => exact ⟨(List.getElem?_eq_some_iff.mp hi).1,trivial⟩
      have hj' := (List.getElem?_eq_some_iff.mp hj).1
      omega
     rcases h st ht with hu | hsi | hr
     · exact .inl hu
     · exact .inr (.inl hsi)
     · exact absurd hr hn
 · exact h

lemma awake_closeStream (i : ℕ) : Awake ver (s.step ver (.closeStream i)) := by
 intro st ht
 have hm : st ∈ s.streams := mem_of_mem_eraseIdx ht
 rcases h st hm with hu | hsi | ⟨hdi,ho⟩
 · exact .inl hu
 · exact .inr (.inl hsi)
 · refine .inr (.inr ⟨hdi,?_⟩)
   have hp : 0 < (s.streams.eraseIdx i).length := length_pos_of_mem ht
   have hl : (s.streams.eraseIdx i).length ≤ s.streams.length := length_eraseIdx_le ..
   change (s.streams.eraseIdx i).length = 1
   omega

lemma awake_step (op : Op R) (ha : WakeupSafe ver s op) : Awake ver (s.step ver op) := by
 cases op with
 | change r => exact fun _ _ => .inr (.inl (.inl (Nat.succ_pos _)))
 | triggerUpdate nodeName => exact awake_triggerUpdate nodeName ha
 | debounceFires => exact awake_debounceFires h ha
 | openStream node built => exact awake_openStream h node built ha
 | subscribe i => exact awake_subscribe h i
 | update i built => exact awake_update h i built ha
 | tick i built => exact awake_tick h i built ha
 | closeStream i => exact awake_closeStream h i

end

lemma awake_reachable (h : ((streamSystem ver).restrict (WakeupSafe ver)).Reachable s) :
  Awake ver s := by
 refine h.invariant ?_ ?_
 · rintro s ⟨-,-,-,hn⟩ st ht
   rw [hn] at ht
   exact absurd ht not_mem_nil
 · rintro s op t hs ⟨rfl,ha⟩
   exact awake_step hs op ha

lemma upToDate_tick (h : AllUpToDate ver s) (i : ℕ) :
  AllUpToDate ver (s.step ver (.tick i true)) := by
 unfold Server.step
 dsimp only
 split_ifs
 · intro st' hs'
   obtain ⟨j,st,hj,rfl⟩ := mem_modify hs'
   split_ifs
   · exact upToDate_rebuild st
   · exact h st (mem_of_getElem? hj)
 · exact h

lemma upToDate_tickAll (h : AllUpToDate ver s) (ord : List ℕ) :
  AllUpToDate ver (tickAll ver s ord) := by
 induction ord generalizing s with
 | nil => exact h
 | cons i rest ih => exact ih (upToDate_tick h i)

lemma tick_rescues (ht : s.streams = [st]) (hu : st.subscribed = true)
  (hdi : s.dirty = true) : AllUpToDate ver (s.step ver (.tick 0 true)) := by
 have hse : s.step ver (.tick 0 true) = { s with
   dirty := false
   streams := [rebuild ver s.resources true st] } := by
  simp [ht,hu,hdi,List.modify]
 rw [hse]
 intro st' hs'
 obtain rfl := mem_singleton.mp hs'
 exact upToDate_rebuild st

lemma tickAll_rescues (ht : s.streams = [st]) (hu : st.subscribed = true)
  (hdi : s.dirty = true) {ord : List ℕ} (h0 : 0 ∈ ord) : AllUpToDate ver (tickAll ver s ord) := by
 induction ord with
 | nil => exact absurd h0 not_mem_nil
 | cons i rest ih =>
  by_cases hi : i = 0
  · subst hi
    exact upToDate_tickAll (tick_rescues ht hu hdi) rest
  · have hn : s.streams[i]? = none := by
     rw [ht]
     exact getElem?_eq_none (by simp; omega)
    have hse : s.step ver (.tick i true) = s := by simp [hn]
    have h0' : 0 ∈ rest := (mem_cons.mp h0).resolve_left fun h => hi h.symm
    change AllUpToDate ver (tickAll ver (s.step ver (.tick i true)) rest)
    rw [hse]
    exact ih h0'

end

theorem no_lost_update {R V : Type*} [DecidableEq V] (version : R → String → V)
  (s : Server R V) (h : ((streamSystem version).restrict (WakeupSafe version)).Reachable s)
  (hquiet : Quiescent s) (order : List ℕ) (hall : ∀ i < s.streams.length, i ∈ order) :
  AllUpToDate version (tickAll version s order) := by
 have ha := awake_reachable h
 by_cases hu : AllUpToDate version s
 · exact upToDate_tickAll hu order
 · unfold AllUpToDate at hu
   push Not at hu
   obtain ⟨st,ht,hl⟩ := hu
   have hq := hquiet.streams st ht
   have hr : Rescued s := by
    refine ((ha st ht).resolve_left hl).resolve_left ?_
    rintro (hun | ⟨n,hn,-⟩ | hp)
    · exact absurd hquiet.triggered hun.ne'
    · exact absurd hn (hquiet.timer ▸ (Option.some_ne_none n).symm)
    · exact absurd hq.2 hp.ne'
   obtain ⟨st',ho⟩ := length_eq_one_iff.mp hr.2
   rw [ho] at ht
   obtain rfl := mem_singleton.mp ht
   exact tickAll_rescues ho hq.1 hr.1 (hall 0 (by rw [hr.2]; exact Nat.one_pos))

def bootServer : Server ℕ ℕ := ⟨0,0,false,none,[]⟩

def counterVersion (r : ℕ) (_ : String) : ℕ := r

def lateSubscriber : List (Op ℕ) :=
 [.openStream "n1" true,.subscribe 0,.openStream "n2" true,.change 1,.triggerUpdate "",
  .debounceFires,.subscribe 1,.update 0 true]

/-- The first ticker clears the dirty flag for both streams, so the second stays on version 0. -/
theorem late_subscriber_loses_update :
  ∃ s order, (streamSystem counterVersion).Reachable s ∧ Quiescent s ∧
   (∀ i < s.streams.length, i ∈ order) ∧
   ¬ AllUpToDate counterVersion (tickAll counterVersion s order) := by
 refine ⟨lateSubscriber.foldl (Server.step counterVersion) bootServer,[0,1],
  .ofFun_foldl ⟨rfl,rfl,rfl,rfl⟩ _,⟨rfl,rfl,by decide⟩,by decide,?_⟩
 intro ha
 have hl : (0 : ℕ) = 1 := ha ⟨"n2",0,true,0⟩ (by decide)
 cases hl

def earlySubscriber : List (Op ℕ) :=
 [.openStream "n1" true,.subscribe 0,.openStream "n2" true,.subscribe 1,.change 1,
  .triggerUpdate "",.debounceFires,.update 0 true,.update 1 true]

theorem no_lost_update_early_subscriber : AllUpToDate counterVersion (tickAll counterVersion
      (earlySubscriber.foldl (Server.step counterVersion) bootServer) [1,0]) := by
 have ha : Along (Server.step counterVersion) (WakeupSafe counterVersion)
   bootServer earlySubscriber := by
  refine ⟨?_,trivial,?_,trivial,trivial,?_,?_,trivial,trivial,trivial⟩
  · intro st ht
    exact absurd ht not_mem_nil
  · intro st ht hl
    obtain rfl := mem_singleton.mp ht
    exact absurd rfl hl
  · intro st _ _
    exact .inr (.inl (.inl rfl))
  · intro n _ st ht _ _
    have hu : ∀ st ∈ [(⟨"n1",0,true,0⟩ : ConfigStream ℕ),⟨"n2",0,true,0⟩],
      st.subscribed = true := by decide
    exact .inl (hu st ht)
 have hr : ((streamSystem counterVersion).restrict (WakeupSafe counterVersion)).Reachable
   bootServer := .start ⟨rfl,rfl,rfl,rfl⟩
 exact no_lost_update counterVersion _ (hr.foldl ha fun _ _ h => ⟨rfl,h⟩)
  ⟨rfl,rfl,by decide⟩ [1,0] (by decide)

end NovaEdge.Snapshot
