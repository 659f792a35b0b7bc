import NovaEdge.KeyedMap
import NovaEdge.TransitionSystem

/-! The agent status that the snapshot server keeps: streams that open and close, status reports and
the cleanup of stale entries, each under the lock of one entry. -/
namespace NovaEdge.Snapshot
open KeyedMap List

/-- In milliseconds. -/
def agentExpiryDuration : ℕ := 30000

/-- An agent reports at least once in this time while its stream is open. -/
def reportPeriod : ℕ := 30000

structure AgentStatusInfo where
 nodeName : String
 (agentVersion appliedConfigVersion : String := "")
 healthy : Bool := false
 lastSeen : ℕ := 0
 connected : Bool := false
 activeConnections : ℤ := 0
 errors : List String := []
 metrics : KeyedMap String ℤ := ∅
 (clusterName clusterRegion clusterZone : String := "")

/-- The name of the cluster is empty for local agents. -/
structure StreamConfigRequest where
 nodeName : String
 (agentVersion clusterName clusterRegion clusterZone : String := "")

structure AgentStatus where
 nodeName : String
 appliedConfigVersion : String := ""
 healthy : Bool := true
 metrics : KeyedMap String ℤ := ∅
 errors : List String := []
 clusterName : String := ""

abbrev StatusMap := KeyedMap String AgentStatusInfo

def StatusMap.updateEntry (m : StatusMap) (key nodeName : String)
  (f : AgentStatusInfo → AgentStatusInfo) : StatusMap :=
 set m key (f ((find? m key).getD { nodeName := nodeName }))

def storeAgentStatus (now : ℕ) (req : AgentStatus) (m : StatusMap) : StatusMap :=
 m.updateEntry req.nodeName req.nodeName fun status =>
  { status with
    appliedConfigVersion := req.appliedConfigVersion
    healthy := req.healthy
    lastSeen := now
    errors := req.errors
    metrics := req.metrics
    activeConnections := (req.metrics.find? "active_connections").getD status.activeConnections }

def StreamConfigRequest.agentKey (req : StreamConfigRequest) : String :=
 if req.clusterName = "" then req.nodeName else req.clusterName ++ "/" ++ req.nodeName

def updateAgentConnectionWithCluster (now : ℕ) (req : StreamConfigRequest) (connected : Bool)
  (m : StatusMap) : StatusMap :=
 m.updateEntry req.agentKey req.nodeName fun status =>
  { status with
    connected := connected
    agentVersion := req.agentVersion
    lastSeen := now
    clusterName := req.clusterName
    clusterRegion := req.clusterRegion
    clusterZone := req.clusterZone }

def AgentStatusInfo.expire (started : ℕ) (status : AgentStatusInfo) : AgentStatusInfo :=
 if status.lastSeen+agentExpiryDuration < started ∧ status.connected = true then
  { status with connected := false }
 else status

structure OpenStream where
 request : StreamConfigRequest
 lastReport : ℕ

structure StatusServer where
 now : ℕ := 0
 statusMap : StatusMap := ∅
 streams : List OpenStream := []

open StatusServer
inductive StatusOp
 | wait (duration : ℕ)
 | openStream (req : StreamConfigRequest)
 | closeStream (i : ℕ)
 | reportStatus (req : AgentStatus)
 | cleanup (key : String) (started : ℕ)

def OpenStream.reported (now : ℕ) (req : AgentStatus) (st : OpenStream) : OpenStream :=
 if st.request.nodeName = req.nodeName ∧ st.request.clusterName = req.clusterName then
  { st with lastReport := now }
 else st

/-- Time does not pass a moment at which the agent of an open stream must have reported. -/
def StatusServer.step (s : StatusServer) : StatusOp → StatusServer
 | .wait duration =>
  if ∀ st ∈ s.streams, s.now+duration ≤ st.lastReport+reportPeriod then
   { s with now := s.now+duration }
  else s
 | .openStream req =>
  { s with
    statusMap := updateAgentConnectionWithCluster s.now req true s.statusMap
    streams := s.streams ++ [⟨req,s.now⟩] }
 | .closeStream i =>
  match s.streams[i]? with
  | none => s
  | some st =>
   { s with
     statusMap := updateAgentConnectionWithCluster s.now st.request false s.statusMap
     streams := s.streams.eraseIdx i }
 | .reportStatus req =>
  { s with
    statusMap := storeAgentStatus s.now req s.statusMap
    streams := s.streams.map (OpenStream.reported s.now req) }
 | .cleanup key started =>
  match find? s.statusMap key with
  | none => s
  | some status =>
   if started ≤ s.now then
    { s with statusMap := set s.statusMap key (status.expire started) }
   else s

def statusRun (ops : List StatusOp) : StatusServer := ops.foldl StatusServer.step {}

def StatusServer.connected (s : StatusServer) (key : String) : Prop :=
 ∃ status, find? s.statusMap key = some status ∧ status.connected = true

def StatusServer.hasStream (s : StatusServer) (key : String) : Prop :=
 ∃ st ∈ s.streams, st.request.agentKey = key

def Tracked (s : StatusServer) : Prop := ∀ key, s.connected key ↔ s.hasStream key

/-- Streams close as the last of their key, and no cleanup meets an open remote one untouched too
long. -/
def KeepsTrack (s : StatusServer) : StatusOp → Prop
 | .closeStream i => ∀ st, s.streams[i]? = some st →
   ∀ st' ∈ s.streams.eraseIdx i, st'.request.agentKey ≠ st.request.agentKey
 | .cleanup key started => started ≤ s.now →
   ∀ st ∈ s.streams, st.request.agentKey = key → st.request.clusterName ≠ "" →
    ∀ status, find? s.statusMap key = some status →
     started ≤ status.lastSeen+agentExpiryDuration
 | _ => True

lemma find?_updateEntry (m : StatusMap) (key nn k : String)
  (f : AgentStatusInfo → AgentStatusInfo) : find? (m.updateEntry key nn f) k =
   if k = key then some (f ((find? m key).getD { nodeName := nn }))
   else find? m k :=
 find?_set m key k _

section
variable {s : StatusServer}

lemma connected_openStream (req : StreamConfigRequest) (key : String) :
  (s.step (.openStream req)).connected key ↔ key = req.agentKey ∨ s.connected key := by
 simp only [connected,step,updateAgentConnectionWithCluster,
  find?_updateEntry]
 by_cases hk : key = req.agentKey <;> simp [hk]

variable {i : ℕ} {st : OpenStream}

lemma connected_closeStream (ht : s.streams[i]? = some st) (key : String) :
  (s.step (.closeStream i)).connected key ↔ key ≠ st.request.agentKey ∧ s.connected key := by
 simp only [connected,step,ht,updateAgentConnectionWithCluster,
  find?_updateEntry]
 by_cases hk : key = st.request.agentKey <;> simp [hk]

lemma connected_reportStatus (req : AgentStatus) (key : String) :
  (s.step (.reportStatus req)).connected key ↔ s.connected key := by
 simp only [connected,step,storeAgentStatus,find?_updateEntry]
 by_cases hk : key = req.nodeName
 · cases h : find? s.statusMap req.nodeName <;> simp [hk,h]
 · simp [hk]

lemma connected_expire_iff (sd : ℕ) (sta : AgentStatusInfo) : (sta.expire sd).connected = true ↔
   sta.connected = true ∧ sd ≤ sta.lastSeen+agentExpiryDuration := by
 rw [AgentStatusInfo.expire]
 split_ifs with h
 · simp [h.2,h.1]
 · constructor
   · intro hc
     exact ⟨hc,by_contra fun hl => h ⟨not_le.mp hl,hc⟩⟩
   · exact And.left

lemma connected_cleanup (key : String) {sd : ℕ} (ht : sd ≤ s.now) (k : String) :
  (s.step (.cleanup key sd)).connected k ↔ s.connected k ∧
   (k = key → ∀ status, find? s.statusMap key = some status →
    sd ≤ status.lastSeen+agentExpiryDuration) := by
 simp only [connected,step]
 cases hn : find? s.statusMap key with
 | none => simp
 | some status =>
  simp only [ht,if_true,find?_set]
  by_cases hk : k = key
  · subst hk
    simp [connected_expire_iff,hn]
  · simp [hk]

lemma step_cleanup_early (key : String) {sd : ℕ} (ht : ¬ sd ≤ s.now) :
  s.step (.cleanup key sd) = s := by
 simp only [step,ht,if_false]
 cases find? s.statusMap key <;> rfl

lemma step_closeStream_none (hi : s.streams[i]? = none) : s.step (.closeStream i) = s := by
 simp only [step,hi]

lemma streams_closeStream (hi : s.streams[i]? = some st) :
  (s.step (.closeStream i)).streams = s.streams.eraseIdx i := by
 simp only [step,hi]

lemma hasStream_openStream (req : StreamConfigRequest) (key : String) :
  (s.step (.openStream req)).hasStream key ↔ key = req.agentKey ∨ s.hasStream key := by
 simp only [hasStream,step,mem_append,mem_singleton]
 constructor
 · rintro ⟨st,ht | rfl,hk⟩
   · exact .inr ⟨st,ht,hk⟩
   · exact .inl hk.symm
 · rintro (rfl | ⟨st,ht,hk⟩)
   · exact ⟨_,.inr rfl,rfl⟩
   · exact ⟨st,.inl ht,hk⟩

lemma hasStream_reportStatus (req : AgentStatus) (key : String) :
  (s.step (.reportStatus req)).hasStream key ↔ s.hasStream key := by
 have hr : ∀ st : OpenStream, (st.reported s.now req).request = st.request := by
  intro st
  rw [OpenStream.reported]
  split_ifs <;> rfl
 simp [hasStream,step,hr]

lemma hasStream_closeStream (ht : s.streams[i]? = some st) (key : String) : s.hasStream key ↔
      key = st.request.agentKey ∨ (s.step (.closeStream i)).hasStream key := by
 have hi : i < s.streams.length := (List.getElem?_eq_some_iff.mp ht).1
 have hp : s.streams.Perm (st::s.streams.eraseIdx i) := by
  have h := getElem_cons_eraseIdx_perm hi
  rw [(List.getElem?_eq_some_iff.mp ht).2] at h
  exact h.symm
 simp only [hasStream,step,ht,hp.mem_iff,mem_cons]
 constructor
 · rintro ⟨st',rfl | hm,hk⟩
   · exact .inl hk.symm
   · exact .inr ⟨st',hm,hk⟩
 · rintro (rfl | ⟨st',hm,hk⟩)
   · exact ⟨st,.inl rfl,rfl⟩
   · exact ⟨st',.inr hm,hk⟩

end

def Timely (s : StatusServer) : Prop :=
 ∀ st ∈ s.streams, st.lastReport ≤ s.now ∧ s.now ≤ st.lastReport+reportPeriod ∧
  (st.request.clusterName = "" → ∃ status,
   find? s.statusMap st.request.nodeName = some status ∧ st.lastReport ≤ status.lastSeen)

section
variable {s : StatusServer}

variable {k : String} {sta : AgentStatusInfo}

lemma exists_entry_updateEntry {m : StatusMap} (h : find? m k = some sta)
  (key nn : String) {now : ℕ} {f : AgentStatusInfo → AgentStatusInfo}
  (hf : ∀ sta, (f sta).lastSeen = now) : ∃ sta', find? (m.updateEntry key nn f) k = some sta' ∧
   (sta'.lastSeen = sta.lastSeen ∨ sta'.lastSeen = now) := by
 rw [find?_updateEntry]
 split_ifs
 · exact ⟨_,rfl,.inr (hf _)⟩
 · exact ⟨sta,h,.inl rfl⟩

lemma exists_entry_expire {m : StatusMap} {key : String} {ent : AgentStatusInfo} (st : ℕ)
  (hn : find? m key = some ent) (h : find? m k = some sta) :
  ∃ status', find? (set m key (ent.expire st)) k = some status' ∧
   status'.lastSeen = sta.lastSeen := by
 rw [find?_set]
 split_ifs with hk
 · obtain rfl : ent = sta := by
    rw [← hk,h] at hn
    exact (Option.some.inj hn).symm
   refine ⟨_,rfl,?_⟩
   rw [AgentStatusInfo.expire]
   split_ifs <;> rfl
 · exact ⟨sta,h,rfl⟩

lemma exists_entry_step (op : StatusOp) (h : find? s.statusMap k = some sta) :
  ∃ sta', find? (s.step op).statusMap k = some sta' ∧
   (sta'.lastSeen = sta.lastSeen ∨ sta'.lastSeen = s.now) := by
 cases op with
 | wait d =>
  refine ⟨sta,?_,.inl rfl⟩
  simp only [step]
  split_ifs <;> exact h
 | openStream req => exact exists_entry_updateEntry h req.agentKey req.nodeName fun _ => rfl
 | closeStream i =>
  simp only [step]
  cases s.streams[i]? with
  | none => exact ⟨sta,h,.inl rfl⟩
  | some st =>
   exact exists_entry_updateEntry h st.request.agentKey st.request.nodeName fun _ => rfl
 | reportStatus req => exact exists_entry_updateEntry h req.nodeName req.nodeName fun _ => rfl
 | cleanup key sd =>
  simp only [step]
  cases hn : find? s.statusMap key with
  | none => exact ⟨sta,h,.inl rfl⟩
  | some entry =>
   split_ifs
   · obtain ⟨sta',hf,hse⟩ := exists_entry_expire sd hn h
     exact ⟨sta',hf,.inl hse⟩
   · exact ⟨sta,h,.inl rfl⟩

/-- A stream that an operation leaves as it is stays timely, unless time passes. -/
lemma Timely.stream_step (hs : Timely s) {op : StatusOp} (hn : (s.step op).now = s.now)
  {st : OpenStream} (ht : st ∈ s.streams) :
  st.lastReport ≤ (s.step op).now ∧ (s.step op).now ≤ st.lastReport+reportPeriod ∧
   (st.request.clusterName = "" → ∃ sta,
    find? (s.step op).statusMap st.request.nodeName = some sta ∧ st.lastReport ≤ sta.lastSeen) := by
 obtain ⟨hp,hu,hl⟩ := hs st ht
 rw [hn]
 refine ⟨hp,hu,fun hc => ?_⟩
 obtain ⟨sta,hf,hse⟩ := hl hc
 obtain ⟨sta',hf',ha⟩ := exists_entry_step op hf
 refine ⟨sta',hf',?_⟩
 rcases ha with h | h <;> rwa [h]

lemma Timely.step (hs : Timely s) (op : StatusOp) : Timely (s.step op) := by
 cases op with
 | wait d =>
  simp only [StatusServer.step]
  split_ifs with hd
  · intro st ht
    obtain ⟨hp,-,hl⟩ := hs st ht
    exact ⟨Nat.le_add_right_of_le hp,hd st ht,hl⟩
  · exact hs
 | openStream req =>
  intro st ht
  rcases mem_append.mp ht with ht | ht
  · exact hs.stream_step rfl ht
  · obtain rfl := mem_singleton.mp ht
    refine ⟨le_rfl,Nat.le_add_right _ _,fun hc => ?_⟩
    simp only [StatusServer.step,updateAgentConnectionWithCluster,find?_updateEntry]
    have hk : req.agentKey = req.nodeName := if_pos hc
    rw [if_pos hk.symm]
    exact ⟨_,rfl,le_rfl⟩
 | closeStream i =>
  cases hi : s.streams[i]? with
  | none =>
   rw [step_closeStream_none hi]
   exact hs
  | some st' =>
   have hn : (s.step (.closeStream i)).now = s.now := by simp only [StatusServer.step,hi]
   intro st ht
   rw [streams_closeStream hi] at ht
   exact hs.stream_step hn (mem_of_mem_eraseIdx ht)
 | reportStatus req =>
  intro st' hs'
  obtain ⟨st,ht,rfl⟩ := mem_map.mp hs'
  rw [OpenStream.reported]
  split_ifs with hg
  · refine ⟨le_rfl,Nat.le_add_right _ _,fun _ => ?_⟩
    simp only [StatusServer.step,storeAgentStatus,find?_updateEntry]
    rw [if_pos hg.1]
    exact ⟨_,rfl,le_rfl⟩
  · exact hs.stream_step rfl ht
 | cleanup key started =>
  have ha : (s.step (.cleanup key started)).now = s.now ∧
    (s.step (.cleanup key started)).streams = s.streams := by
   simp only [StatusServer.step]
   cases find? s.statusMap key with
   | none => exact ⟨rfl,rfl⟩
   | some sta =>
    split_ifs <;> exact ⟨rfl,rfl⟩
  intro st ht
  rw [ha.2] at ht
  exact hs.stream_step ha.1 ht

lemma Tracked.closeStream_iff (hs : Tracked s) (i : ℕ) :
  Tracked (s.step (.closeStream i)) ↔ KeepsTrack s (.closeStream i) := by
 cases hi : s.streams[i]? with
 | none =>
  rw [step_closeStream_none hi]
  simp [KeepsTrack,hi,hs]
 | some st =>
  have hke : KeepsTrack s (.closeStream i) ↔
    ¬ (s.step (.closeStream i)).hasStream st.request.agentKey := by
   simp [KeepsTrack,hi,hasStream,streams_closeStream hi]
  rw [hke]
  constructor
  · intro h ho
    exact ((connected_closeStream hi _).mp ((h _).mpr ho)).1 rfl
  · intro hl key
    rw [connected_closeStream hi,hs key,hasStream_closeStream hi]
    by_cases hk : key = st.request.agentKey
    · simp [hk,hl]
    · simp [hk]

/-- Local agents with an open stream never expire, as their reports touch the same entry. -/
lemma Timely.not_expired (hs : Timely s) {st : OpenStream} (hst : st ∈ s.streams)
  (hl : st.request.clusterName = "") {str : ℕ} (ha : str ≤ s.now)
  (ht : find? s.statusMap st.request.agentKey = some sta) :
  str ≤ sta.lastSeen+agentExpiryDuration := by
 obtain ⟨-,hu,hn⟩ := hs st hst
 obtain ⟨status',hf,hse⟩ := hn hl
 have hk : st.request.agentKey = st.request.nodeName := if_pos hl
 obtain rfl : status' = sta := by
  rw [hk,hf] at ht
  exact Option.some.inj ht
 have hp : reportPeriod = agentExpiryDuration := rfl
 omega

lemma Tracked.cleanup_iff (ht : Timely s) (hs : Tracked s) (key : String) (sd : ℕ) :
  Tracked (s.step (.cleanup key sd)) ↔ KeepsTrack s (.cleanup key sd) := by
 by_cases ha : sd ≤ s.now
 swap
 · rw [step_cleanup_early key ha]
   simp [KeepsTrack,ha,hs]
 have hr : (s.step (.cleanup key sd)).streams = s.streams := by
  simp only [step,ha,if_true]
  cases find? s.statusMap key <;> rfl
 have ho : ∀ k, (s.step (.cleanup key sd)).hasStream k ↔ s.hasStream k := by
  intro k
  rw [hasStream,hr]
  rfl
 constructor
 · intro h _ st hst hke _ sta hstt
   have hc := (h key).mpr ((ho key).mpr ⟨st,hst,hke⟩)
   exact ((connected_cleanup key ha key).mp hc).2 rfl sta hstt
 · intro h k
   rw [connected_cleanup key ha,ho,hs k]
   refine ⟨And.left,fun hk => ⟨hk,?_⟩⟩
   rintro rfl sta hstt
   obtain ⟨st,hst,rfl⟩ := hk
   by_cases hl : st.request.clusterName = ""
   · exact ht.not_expired hst hl ha hstt
   · exact h ha st hst rfl hl sta hstt

lemma Tracked.step_iff (ht : Timely s) (hs : Tracked s) (op : StatusOp) :
  Tracked (s.step op) ↔ KeepsTrack s op := by
 cases op with
 | wait d =>
  refine iff_of_true ?_ trivial
  simp only [step]
  split_ifs <;> exact hs
 | openStream req =>
  refine iff_of_true (fun key => ?_) trivial
  rw [connected_openStream,hasStream_openStream,hs key]
 | closeStream i => exact hs.closeStream_iff i
 | reportStatus req =>
  refine iff_of_true (fun key => ?_) trivial
  rw [connected_reportStatus,hasStream_reportStatus,hs key]
 | cleanup key started => exact hs.cleanup_iff ht key started

end

theorem connectivity_tracked_iff (ops : List StatusOp) : (∀ n, Tracked (statusRun (ops.take n))) ↔
      Along step KeepsTrack {} ops := by
 have hn : Tracked {} := by
  intro key
  simp [connected,hasStream]
 have hti : Timely {} := by
  intro st hst
  cases hst
 have hv : ∀ s op, Timely s → Tracked s → Timely (s.step op) := fun _ op ht _ => ht.step op
 have hp : ∀ s op, Timely s → Tracked s → (Tracked (s.step op) ↔ KeepsTrack s op) :=
  fun _ op ht hs => hs.step_iff ht op
 exact forall_take_iff_along hv hp hti hn ops

/-- An old stream closes after the new one has opened; a remote agent's reports touch another entry.
-/
theorem open_streams_recorded_as_disconnected :
  let reconnect : List StatusOp :=
   [.openStream { nodeName := "n1" },.openStream { nodeName := "n1" },.closeStream 0]
  let remote : List StatusOp :=
   [.openStream { nodeName := "n1", clusterName := "edge" },.wait 25000,
    .reportStatus { nodeName := "n1", clusterName := "edge" },.wait 10000,
    .cleanup "edge/n1" 35000]
  (find? (statusRun reconnect).statusMap "n1").map (·.connected) = some false ∧
   (statusRun reconnect).streams.map (·.request.agentKey) = ["n1"] ∧
   (find? (statusRun remote).statusMap "edge/n1").map (·.connected) = some false ∧
   (statusRun remote).streams.map (·.request.agentKey) = ["edge/n1"] := by
 decide

end NovaEdge.Snapshot
