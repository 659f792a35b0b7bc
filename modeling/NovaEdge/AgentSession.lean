import NovaEdge.AgentApply
import NovaEdge.SnapshotStream

/-! The agent's watcher on its stream from the snapshot server. Snapshots that the server has sent
are in flight until the watcher receives them. The server does not send a version again that it sent
last on the stream, and the watcher does not try again. -/
namespace NovaEdge.Agent
open List Option
open Snapshot (ConfigStream Op)

structure Session (R : Type*) where
 server : Snapshot.Server R String
 stream : Option ℕ := none
 inFlight : List AgentSnapshot := []
 components : Components
 currentSnapshot : Option AgentSnapshot := none

open Session
inductive SessionOp (R : Type*)
 | server (op : Op R)
 | connect (built : Bool)
 | receive (outcome : Outcome)

section
variable {R : Type*}

def follow (i : ℕ) : Op R → Option ℕ
 | .closeStream j => if j = i then none else some (if j < i then i - 1 else i)
 | _ => some i

variable (build : R → String → AgentSnapshot)

def version (r : R) (node : String) : String := (build r node).version

def sendsOn (r : R) (built : Bool) (st : ConfigStream String) : Option AgentSnapshot :=
 if built = true ∧ version build r st.node ≠ st.lastVersion then some (build r st.node) else none

def sent (s : Snapshot.Server R String) (i : ℕ) : Op R → Option AgentSnapshot
 | .update j built =>
  if j = i then s.streams[i]?.bind fun st =>
   if st.pending = 0 then none else sendsOn build s.resources built st
  else none
 | .tick j built =>
  if j = i ∧ s.dirty = true then s.streams[i]?.bind fun st =>
   if st.subscribed then sendsOn build s.resources built st else none
  else none
 | _ => none

variable (render : JsonValue → String) (node : String)

namespace Session

/-- What was in flight on a stream that closes is lost. -/
def serverStep (s : Session R) (op : Op R) : Session R :=
 { s with
   server := s.server.step (version build) op
   stream := s.stream.bind (follow · op)
   inFlight := match s.stream with
    | none => s.inFlight
    | some i => match follow i op with
     | none => []
     | some _ => s.inFlight ++ (sent build s.server i op).toList }

def connect (s : Session R) (built : Bool) : Session R :=
 match s.stream, built with
 | none, true =>
  { s with
    server := s.server.step (version build) (.openStream node true)
    stream := some s.server.streams.length
    inFlight := [build s.server.resources node] }
 | _, _ => s

/-- The watcher keeps a snapshot as its current one only if applying it returned no error. -/
def receive (s : Session R) (outcome : Outcome) : Session R :=
 match s.inFlight with
 | [] => s
 | snapshot::rest =>
  { s with
    inFlight := rest
    components := (applyAgentConfig render s.components outcome snapshot).1
    currentSnapshot :=
     if (applyAgentConfig render s.components outcome snapshot).2.isNone then some snapshot
     else s.currentSnapshot }

def step (s : Session R) : SessionOp R → Session R
 | .server op => s.serverStep build op
 | .connect built => s.connect build node built
 | .receive outcome => s.receive render outcome

def initial (resources : R) (mesh : Option Mesh.TLSProvider) (sdwan : Bool) : Session R where
 server := ⟨resources,0,false,none,[]⟩
 components :=
  { mesh := mesh.map fun tlsProvider => { toManager := (Mesh.newManager tlsProvider).start }
    sdwan := if sdwan then some {} else none }

end Session

/-- What is left to do without a change, a trigger, a new stream or a closed one: the watcher
receives, the timer fires, a stream enters its loop, takes an update or finds the flag set. -/
def Enabled (s : Session R) : SessionOp R → Prop
 | .receive _ => s.inFlight ≠ []
 | .server .debounceFires => s.server.debounceTimer.isSome = true
 | .server (.subscribe i) => ∃ st, s.server.streams[i]? = some st ∧ st.subscribed = false
 | .server (.update i _) => ∃ st, s.server.streams[i]? = some st ∧ st.pending ≠ 0
 | .server (.tick i _) =>
   s.server.dirty = true ∧ ∃ st, s.server.streams[i]? = some st ∧ st.subscribed = true
 | _ => False

/-- One such step; the build of an update or a tick may fail. -/
def Continues (s t : Session R) : Prop :=
 ∃ op : SessionOp R, Enabled s op ∧ t = s.step build render node op

def Arrives (v : String) (s : Session R) : Prop :=
 ∃ snapshot rest, s.inFlight = snapshot::rest ∧ snapshot.version = v

/-- However the open stream goes on, the version reaches the watcher once more. -/
def Redelivered (s : Session R) (v : String) : Prop :=
 Inevitable (Continues build render node) (Arrives v) s

/-- In force if applying it returns no error, and delivered again otherwise. -/
def AppliedOrRedelivered (s : Session R) (outcome : Outcome) : Prop :=
 ∀ snapshot rest, s.inFlight = snapshot::rest →
  ((applyAgentConfig render s.components outcome snapshot).2 = none →
   InForce render s.components outcome.now
    (applyAgentConfig render s.components outcome snapshot).1 snapshot) ∧
  ((applyAgentConfig render s.components outcome snapshot).2 ≠ none →
   Redelivered build render node (s.receive render outcome) snapshot.version)

/-- The components can take it over, or its version is in flight once more behind it. -/
def Settled (s : Session R) (outcome : Outcome) : Prop :=
 ∀ snapshot rest, s.inFlight = snapshot::rest →
  (outcome.sync = .applied → Takes s.components outcome.rulesApplied snapshot) ∧
  (outcome.sync ≠ .applied → ∃ next ∈ rest, next.version = snapshot.version)

end

attribute [local simp] Session.step Session.serverStep Session.receive Session.connect follow sent
 sendsOn Snapshot.Server.step Snapshot.Server.doTrigger

section
variable {R : Type*} {build : R → String → AgentSnapshot} {render : JsonValue → String}
 {node : String} {s : Session R}

lemma running_step (h : s.components.Running) (op : SessionOp R) :
  (s.step build render node op).components.Running := by
 cases op with
 | server op => exact h
 | connect built =>
  cases hs : s.stream with
  | some i => simpa [hs] using h
  | none => cases built <;> simpa [hs] using h
 | receive outcome =>
  cases hf : s.inFlight with
  | nil => simpa [hf] using h
  | cons snapshot rest => simpa [hf] using h.applyAgentConfig render outcome snapshot

lemma running_initial (resources : R) (mesh : Option Mesh.TLSProvider) (sdwan : Bool) :
  (initial resources mesh sdwan).components.Running := by
 refine ⟨?_,?_⟩
 · intro m hm
   obtain ⟨tlsProvider,-,rfl⟩ := map_eq_some_iff.mp hm
   rfl
 · intro m hm
   cases sdwan with
   | false => cases hm
   | true =>
    cases hm
    rfl

/-- The same step with a build that fails. -/
def failing : SessionOp R → SessionOp R
 | .server (.update i _) => .server (.update i false)
 | .server (.tick i _) => .server (.tick i false)
 | op => op

lemma Enabled.failing {op : SessionOp R} (h : Enabled s op) : Enabled s (failing op) := by
 cases op with
 | server op => cases op <;> exact h
 | connect built => exact h
 | receive outcome => exact h

lemma inFlight_failing {op : SessionOp R} (h : Enabled s op) :
  (s.step build render node (failing op)).inFlight ⊆ s.inFlight := by
 cases op with
 | connect built => exact h.elim
 | receive outcome =>
  obtain ⟨snapshot,rest,hf⟩ := exists_cons_of_ne_nil h
  simp [failing,hf]
 | server op =>
  cases op with
  | change | triggerUpdate | openStream | closeStream => exact h.elim
  | debounceFires | subscribe i | update i built | tick i built =>
   cases hs : s.stream <;> simp [failing,hs]

lemma sum_map_modify {α : Type*} (w : α → ℕ) (f : α → α) {l : List α} {i : ℕ} {a : α}
  (h : l[i]? = some a) : ((l.modify i f).map w).sum + w a = (l.map w).sum + w (f a) := by
 induction l generalizing i with
 | nil => cases h
 | cons b l ih =>
  cases i with
  | zero =>
   cases h
   simp only [modify_zero_cons,map_cons,sum_cons]
   omega
  | succ i =>
   have hl := ih h
   simp only [modify_succ_cons,map_cons,sum_cons]
   omega

/-- An update costs a stream its notification and may put one snapshot in flight. -/
def streamWork (st : ConfigStream String) : ℕ := 2*st.pending + if st.subscribed then 0 else 1

def work (s : Session R) : ℕ :=
 s.inFlight.length + (if s.server.dirty then 2 else 0) + (s.server.streams.map streamWork).sum +
  if s.server.debounceTimer.isSome then 2*s.server.streams.length+1 else 0

lemma streamWork_notify_le (n : String) (st : ConfigStream String) :
  streamWork (st.notify n) ≤ streamWork st + 2 := by
 unfold ConfigStream.notify
 split_ifs
 · simp only [streamWork]
   omega
 · omega

lemma streamWork_rebuild (r : R) (built : Bool) (st : ConfigStream String) :
  streamWork (st.rebuild (version build) r built) = streamWork st := by
 unfold ConfigStream.rebuild streamWork
 split_ifs <;> rfl

variable (build) in
lemma streamWork_receive (r : R) (built : Bool) {st : ConfigStream String} (h : st.pending ≠ 0) :
  streamWork (st.receive (version build) r built) + 2 = streamWork st := by
 rw [ConfigStream.receive,if_neg h,streamWork_rebuild]
 unfold streamWork
 dsimp only
 omega

lemma sum_notify_le (n : String) (l : List (ConfigStream String)) :
  ((l.map (ConfigStream.notify n)).map streamWork).sum ≤ (l.map streamWork).sum + 2*l.length := by
 induction l with
 | nil => simp
 | cons st l ih =>
  have hn := streamWork_notify_le n st
  simp only [map_cons,sum_cons,length_cons]
  omega

variable (build) in
/-- A server step puts at most one snapshot in flight, behind the others. -/
lemma exists_inFlight_serverStep {op : Op R} (h : Enabled s (.server op)) :
  ∃ o : Option AgentSnapshot, (s.serverStep build op).inFlight = s.inFlight ++ o.toList := by
 cases hs : s.stream with
 | none => exact ⟨none,by simp [hs]⟩
 | some i =>
  refine ⟨sent build s.server i op,?_⟩
  cases op with
  | change | triggerUpdate | openStream | closeStream => exact h.elim
  | debounceFires | subscribe | update | tick => simp [hs]

variable (build) in
lemma length_inFlight_serverStep_le {op : Op R} (h : Enabled s (.server op)) :
  (s.serverStep build op).inFlight.length ≤ s.inFlight.length + 1 := by
 obtain ⟨o,hi⟩ := exists_inFlight_serverStep build h
 rw [hi,length_append]
 cases o <;> simp

lemma work_serverStep_lt {op : Op R} (h : Enabled s (.server op)) :
  work (s.serverStep build op) < work s := by
 have hl := length_inFlight_serverStep_le build h
 cases op with
 | change | triggerUpdate | openStream | closeStream => exact h.elim
 | debounceFires =>
  obtain ⟨n,hn⟩ := isSome_iff_exists.mp h
  have hi : (s.serverStep build .debounceFires).inFlight = s.inFlight := by
   cases hs : s.stream <;> simp [hs]
  have hw := sum_notify_le n s.server.streams
  have ht : (s.serverStep build .debounceFires).server =
    { s.server.doTrigger n with debounceTimer := none } := by simp [hn]
  simp only [work,hi,ht,hn,Snapshot.Server.doTrigger,isSome_none,isSome_some,if_true]
  simp only [Bool.false_eq_true,if_false]
  omega
 | subscribe i =>
  obtain ⟨st,hi,hs⟩ := h
  have hf : (s.serverStep build (.subscribe i)).inFlight = s.inFlight := by
   cases hs : s.stream <;> simp [hs]
  have hw := sum_map_modify streamWork (fun st => { st with subscribed := true }) hi
  simp only [streamWork,hs] at hw
  simp only [work,hf]
  simp at hw ⊢
  omega
 | update i built =>
  obtain ⟨st,hi,hp⟩ := h
  have hw := sum_map_modify streamWork
   (ConfigStream.receive (version build) s.server.resources built) hi
  have hr := streamWork_receive build s.server.resources built hp
  simp only [work]
  simp at hl ⊢
  omega
 | tick i built =>
  obtain ⟨hd,st,hi,hs⟩ := h
  have hw := sum_map_modify streamWork
   (ConfigStream.rebuild (version build) s.server.resources built) hi
  rw [streamWork_rebuild] at hw
  simp only [work]
  simp [hd,hi,hs] at hl ⊢
  omega

lemma Continues.work_lt {t : Session R} (h : Continues build render node s t) :
  work t < work s := by
 obtain ⟨op,ho,rfl⟩ := h
 cases op with
 | connect built => exact ho.elim
 | server op => exact work_serverStep_lt ho
 | receive outcome =>
  obtain ⟨snapshot,rest,hf⟩ := exists_cons_of_ne_nil ho
  simp [work,hf]

variable {v : String}

/-- Only the snapshot at the head leaves. -/
lemma Continues.exists_mem_inFlight {t : Session R} (h : Continues build render node s t)
  (ha : ¬Arrives v s) (hm : ∃ snapshot ∈ s.inFlight, snapshot.version = v) :
  ∃ snapshot ∈ t.inFlight, snapshot.version = v := by
 obtain ⟨op,ho,rfl⟩ := h
 obtain ⟨snapshot,hm,hv⟩ := hm
 refine ⟨snapshot,?_,hv⟩
 cases op with
 | connect built => exact ho.elim
 | server op =>
  obtain ⟨o,hi⟩ := exists_inFlight_serverStep build ho
  exact hi ▸ mem_append_left _ hm
 | receive outcome =>
  obtain ⟨first,rest,hf⟩ := exists_cons_of_ne_nil ho
  rw [hf] at hm
  rcases mem_cons.mp hm with rfl | hm
  · exact absurd ⟨_,rest,hf,hv⟩ ha
  · simpa [hf] using hm

/-- A version comes again exactly if it is in flight already: every build may fail. -/
theorem redelivered_iff :
  Redelivered build render node s v ↔ ∃ snapshot ∈ s.inFlight, snapshot.version = v := by
 constructor
 · intro h
   induction h with
   | here h =>
    obtain ⟨snapshot,rest,hf,hv⟩ := h
    exact ⟨snapshot,hf ▸ mem_cons_self,hv⟩
   | later hn _ ih =>
    obtain ⟨-,op,ho,-⟩ := hn
    obtain ⟨snapshot,hm,hv⟩ := ih _ ⟨failing op,ho.failing,rfl⟩
    exact ⟨snapshot,inFlight_failing ho hm,hv⟩
 · refine inevitable_of_measure
    (fun s : Session R => ∃ snapshot ∈ s.inFlight, snapshot.version = v) work ?_ ?_
   · exact fun s t hm ha ht => ⟨ht.exists_mem_inFlight ha hm,ht.work_lt⟩
   · rintro s ⟨snapshot,hm,-⟩ -
     exact ⟨_,.receive ⟨.applied,0,true⟩,ne_nil_of_mem hm,rfl⟩

lemma inFlight_receive {outcome : Outcome} {snapshot : AgentSnapshot} {rest : List AgentSnapshot}
  (hf : s.inFlight = snapshot::rest) : (s.receive render outcome).inFlight = rest := by
 simp [hf]

end

theorem applied_or_redelivered_iff {R : Type*} (build : R → String → AgentSnapshot)
  (render : JsonValue → String) (node : String) (resources : R) (mesh : Option Mesh.TLSProvider)
  (sdwan : Bool) (ops : List (SessionOp R)) (outcome : Outcome) :
  AppliedOrRedelivered build render node
    (ops.foldl (step build render node) (.initial resources mesh sdwan)) outcome ↔
   Settled (ops.foldl (step build render node) (.initial resources mesh sdwan)) outcome := by
 have hrun : (ops.foldl (step build render node)
   (.initial resources mesh sdwan)).components.Running := by
  suffices h : ∀ s : Session R, s.components.Running →
    (ops.foldl (step build render node) s).components.Running from
   h _ (running_initial resources mesh sdwan)
  induction ops with
  | nil => exact fun s h => h
  | cons op ops ih => exact fun s h => ih _ (running_step h op)
 generalize ops.foldl (step build render node) (.initial resources mesh sdwan) = s at hrun
 refine forall_congr' fun snapshot => forall_congr' fun rest => imp_congr_right fun hf => ?_
 have hr := applyAgentConfig_eq_none_iff render s.components outcome snapshot
 refine and_congr ?_ ?_
 · rw [hr]
   exact imp_congr_right fun ha => inForce_applyAgentConfig_iff hrun ha snapshot
 · rw [Ne,hr,redelivered_iff,inFlight_receive hf]

def linkBuild (cost : Int32) (_ : String) : AgentSnapshot where
 version := if cost = 10 then "v1" else "v2"
 meshAuthzPolicies := [Mesh.billingOnly]
 wanLinks := [{ name := "wan0",cost := cost }]

def plainText (_ : JsonValue) : String := ""

def connected : Session Int32 :=
 (Session.initial 10 (some {}) true).step linkBuild plainText "node" (.connect true)

def linkChanged : Session Int32 :=
 [SessionOp.receive ⟨.applied,0,true⟩,.server (.subscribe 0),.server (.change 20),
  .server (.triggerUpdate ""),.server .debounceFires,.server (.update 0 true)].foldl
   (Session.step linkBuild plainText "node") connected

/-- No error although policies are not enforced or a link keeps its cost; an error and no
redelivery. -/
theorem applied_but_not_in_force :
  ((applyAgentConfig plainText connected.components ⟨.applied,0,false⟩ (linkBuild 10 "node")).2 =
    none ∧
   ¬ AppliedOrRedelivered linkBuild plainText "node" connected ⟨.applied,0,false⟩) ∧
  ((applyAgentConfig plainText linkChanged.components ⟨.applied,0,true⟩ (linkBuild 20 "node")).2 =
    none ∧
   ¬ AppliedOrRedelivered linkBuild plainText "node" linkChanged ⟨.applied,0,true⟩) ∧
  ¬ AppliedOrRedelivered linkBuild plainText "node" connected ⟨.unreached,0,true⟩ := by
 refine ⟨⟨rfl,?_⟩,⟨rfl,?_⟩,?_⟩
 · intro h
   have hf := (h (linkBuild 10 "node") [] rfl).1 rfl
   have hp := (hf.mesh _ rfl).policies "payments.shop"
   exact absurd (congrArg Option.isSome hp) (by decide)
 · intro h
   have hf := (h (linkBuild 20 "node") [] rfl).1 rfl
   have hl := (hf.sdwan _ rfl).held { name := "wan0", cost := 20 } mem_cons_self
   exact absurd (congrArg (Option.map Sdwan.LinkConfig.cost) hl) (by decide)
 · intro h
   have hc := (h (linkBuild 10 "node") [] rfl).2 (by decide)
   obtain ⟨snapshot,hm,-⟩ := redelivered_iff.mp hc
   cases hm

end NovaEdge.Agent
