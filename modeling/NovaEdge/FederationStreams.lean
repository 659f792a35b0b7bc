import NovaEdge.FederationRun

/-! Sync streams and their outboxes, with the steps of each stream as separate steps of the system:
the handshake, the entry of its channel in the map of outboxes, the lookup by its sender, and the
cleanup at its end. -/
namespace NovaEdge.Federation
open List

structure RecordedChange where
 seq : ℕ
 entry : ChangeEntry

inductive StreamPhase
 | unopened
 | handshaken
 | registered
 | sending (outbox : ℕ)
 | ending
 | ended
 deriving DecidableEq

/-- What was received from the channel, what found it full and what was recorded since the handshake
are kept for the specification only. -/
structure SyncStream where
 peer : String := ""
 phase : StreamPhase := .unopened
 queue : List RecordedChange := []
 closed : Bool := false
 (received dropped : List RecordedChange := [])
 recorded : List RecordedChange := []

/-- Streams are numbered, and a channel goes by the number of the stream that created it. -/
structure OutboxServer where
 streams : ℕ → SyncStream := fun _ => {}
 peerOutboxes : KeyedMap String ℕ := ∅
 next : ℕ := 0
 sentToClosed : Bool := false

inductive StreamOp
 | handshake (i : ℕ) (peer : String)
 | abort (i : ℕ)
 | register (i : ℕ)
 | lookup (i : ℕ)
 | send (i : ℕ)
 | stop (i : ℕ)
 | cleanup (i : ℕ)
 | recordLocalChange (entry : ChangeEntry)

namespace SyncStream

def live (st : SyncStream) : Bool :=
 match st.phase with
 | .handshaken | .registered | .sending _ => true
 | .unopened | .ending | .ended => false

def outbox (i : ℕ) (st : SyncStream) : Option ℕ :=
 match st.phase with
 | .registered => some i
 | .sending c => some c
 | .unopened | .handshaken | .ending | .ended => none

def hasRoom (st : SyncStream) : Bool := st.queue.length < Server.outboxCapacity

/-- The send drops the change when the channel is full. -/
def afterRecord (held : Bool) (e : RecordedChange) (st : SyncStream) : SyncStream :=
 { st with
   queue := if held && st.hasRoom then st.queue ++ [e] else st.queue
   dropped := if held && !st.hasRoom then st.dropped ++ [e] else st.dropped
   recorded := if st.live then st.recorded ++ [e] else st.recorded }

def takeFirst (st : SyncStream) : SyncStream :=
 { st with queue := st.queue.tail, received := st.received ++ st.queue.head?.toList }

/-- The channel is closed and what it still held is drained. -/
def close (st : SyncStream) : SyncStream :=
 { st with phase := .ended, closed := true, queue := [], received := st.received ++ st.queue }

/-- Everything that was sent to the channel: it was enqueued, or the channel had no room. -/
def offered (st : SyncStream) : List RecordedChange := st.received ++ st.queue ++ st.dropped

end SyncStream

namespace OutboxServer

def modify (s : OutboxServer) (i : ℕ) (f : SyncStream → SyncStream) : OutboxServer :=
 { s with streams := Function.update s.streams i (f (s.streams i)) }

def setPhase (s : OutboxServer) (i : ℕ) (phase : StreamPhase) : OutboxServer :=
 s.modify i fun st => { st with phase := phase }

def register (s : OutboxServer) (i : ℕ) : OutboxServer :=
 { s.setPhase i .registered with peerOutboxes := s.peerOutboxes.set (s.streams i).peer i }

def lookup (s : OutboxServer) (i : ℕ) : OutboxServer :=
 match s.peerOutboxes.find? (s.streams i).peer with
 | some c => s.setPhase i (.sending c)
 | none => s.setPhase i .ending

/-- One receive of the sender, which ends when its channel is closed and empty. What it then sends to
the peer is left out. -/
def send (s : OutboxServer) (i c : ℕ) : OutboxServer :=
 if (s.streams c).queue ≠ [] then s.modify c SyncStream.takeFirst
 else if (s.streams c).closed then s.setPhase i .ending
 else s

/-- The entry of the peer is deleted, whatever channel it holds, and the own channel is closed. -/
def cleanup (s : OutboxServer) (i : ℕ) : OutboxServer :=
 { s.modify i SyncStream.close with peerOutboxes := s.peerOutboxes.delete (s.streams i).peer }

def recordLocalChange (s : OutboxServer) (entry : ChangeEntry) : OutboxServer :=
 let held := s.peerOutboxes.values
 { s with
   next := s.next+1
   sentToClosed := s.sentToClosed || held.any fun c => (s.streams c).closed
   streams := fun j => (s.streams j).afterRecord (j ∈ held) ⟨s.next,entry⟩ }

def step (s : OutboxServer) : StreamOp → OutboxServer
 | .handshake i peer =>
  if (s.streams i).phase = .unopened then
   s.modify i fun _ => { peer := peer, phase := .handshaken }
  else s
 | .abort i => if (s.streams i).phase = .handshaken then s.setPhase i .ended else s
 | .register i => if (s.streams i).phase = .handshaken then s.register i else s
 | .lookup i => if (s.streams i).phase = .registered then s.lookup i else s
 | .send i => match (s.streams i).phase with
  | .sending c => s.send i c
  | _ => s
 | .stop i => if ((s.streams i).outbox i).isSome then s.setPhase i .ending else s
 | .cleanup i => if (s.streams i).phase = .ending then s.cleanup i else s
 | .recordLocalChange entry => s.recordLocalChange entry

end OutboxServer

/-- What is recorded since the handshake was enqueued on the channel that the stream reads, where it
waits or was received, unless it found that channel full; and no send went to a closed channel. -/
structure Delivered (s : OutboxServer) : Prop where
 enqueued : ∀ i, (s.streams i).live = true → ∀ e ∈ (s.streams i).recorded,
  ∃ c, (s.streams i).outbox i = some c ∧
   (e ∈ (s.streams c).queue ∨ e ∈ (s.streams c).received ∨ e ∈ (s.streams c).dropped)
 unclosed : s.sentToClosed = false

/-- The map holds the channel of every live stream, and a sender that finds another one than its own
has missed nothing yet. -/
def KeepsDelivery (s : OutboxServer) : StreamOp → Prop
 | .recordLocalChange _ => ∀ i, (s.streams i).live = true →
   ∃ c, (s.streams i).outbox i = some c ∧ s.peerOutboxes.find? (s.streams i).peer = some c
 | .lookup i => (s.streams i).phase = .registered →
   ∀ c, s.peerOutboxes.find? (s.streams i).peer = some c → c = i ∨ (s.streams i).recorded = []
 | _ => True

/-- The channel of a stream with the peer, which has been opened. -/
def OutboxServer.IsChannel (s : OutboxServer) (peer : String) (c : ℕ) : Prop :=
 (s.streams c).peer = peer ∧ (s.streams c).phase ≠ .unopened

structure StreamInvariant (s : OutboxServer) : Prop where
 held : ∀ p c, s.peerOutboxes.find? p = some c → s.IsChannel p c ∧ (s.streams c).closed = false
 reads : ∀ i c, (s.streams i).phase = .sending c → s.IsChannel (s.streams i).peer c
 closed : ∀ i, (s.streams i).closed = true → (s.streams i).phase = .ended
 recorded : ∀ i, ∀ e ∈ (s.streams i).offered, e.seq < s.next
 offeredOnce : ∀ i j, (s.streams i).peer = (s.streams j).peer →
  ∀ e ∈ (s.streams i).offered, e ∈ (s.streams j).offered → i = j

open SyncStream

section
variable {st : SyncStream}

lemma mem_offered_iff {e : RecordedChange} :
  e ∈ st.offered ↔ e ∈ st.queue ∨ e ∈ st.received ∨ e ∈ st.dropped := by
 rw [offered,mem_append,mem_append,or_assoc,or_left_comm]

lemma mem_offered_afterRecord {e e' : RecordedChange} {held : Bool} :
  e' ∈ (st.afterRecord held e).offered ↔ e' ∈ st.offered ∨ held = true ∧ e' = e := by
 cases held with
 | false => simp [offered,afterRecord]
 | true =>
  cases hr : st.hasRoom with
  | true => simp [mem_offered_iff,afterRecord,hr,or_assoc,or_comm]
  | false => simp [mem_offered_iff,afterRecord,hr,or_assoc]

lemma offered_takeFirst (st : SyncStream) : st.takeFirst.offered = st.offered := by
 cases h : st.queue <;> simp [takeFirst,offered,h]

lemma offered_close (st : SyncStream) : st.close.offered = st.offered := by
 simp [close,offered]

end

section
variable {s : OutboxServer} {i j : ℕ} {f : SyncStream → SyncStream}

lemma streams_modify_self : (s.modify i f).streams i = f (s.streams i) :=
 Function.update_self ..

lemma streams_modify_ne (h : j ≠ i) : (s.modify i f).streams j = s.streams j :=
 Function.update_of_ne h ..

/-- What a step on one stream leaves as it was. -/
structure StreamKept (st st' : SyncStream) : Prop where
 peer : st'.peer = st.peer
 offered : st'.offered = st.offered
 opened : st'.phase ≠ .unopened

lemma StreamKept.peer_modify (h : StreamKept (s.streams i) (f (s.streams i))) (j : ℕ) :
  ((s.modify i f).streams j).peer = (s.streams j).peer := by
 by_cases hj : j = i
 · rw [hj,streams_modify_self,h.peer]
 · rw [streams_modify_ne hj]

lemma StreamKept.offered_modify (h : StreamKept (s.streams i) (f (s.streams i))) (j : ℕ) :
  ((s.modify i f).streams j).offered = (s.streams j).offered := by
 by_cases hj : j = i
 · rw [hj,streams_modify_self,h.offered]
 · rw [streams_modify_ne hj]

lemma StreamKept.isChannel_modify (h : StreamKept (s.streams i) (f (s.streams i))) {p : String} {c : ℕ}
  (hc : s.IsChannel p c) : (s.modify i f).IsChannel p c := by
 refine ⟨(h.peer_modify c).trans hc.1,?_⟩
 by_cases hj : c = i
 · rw [hj,streams_modify_self]
   exact h.opened
 · rw [streams_modify_ne hj]
   exact hc.2

variable {outboxes : KeyedMap String ℕ}

lemma StreamInvariant.modify (hs : StreamInvariant s) (h : StreamKept (s.streams i) (f (s.streams i)))
  (hc : (f (s.streams i)).closed = true → (f (s.streams i)).phase = .ended)
  (hr : ∀ c, (f (s.streams i)).phase = .sending c → s.IsChannel (s.streams i).peer c)
  (hh : ∀ p c, outboxes.find? p = some c → (s.modify i f).IsChannel p c ∧
   ((s.modify i f).streams c).closed = false) :
  StreamInvariant { s.modify i f with peerOutboxes := outboxes } where
 held := hh
 reads := by
  intro j c hp
  change ((s.modify i f).streams j).phase = .sending c at hp
  change (s.modify i f).IsChannel ((s.modify i f).streams j).peer c
  rw [h.peer_modify]
  by_cases hj : j = i
  · subst hj
    rw [streams_modify_self] at hp
    exact h.isChannel_modify (hr c hp)
  · rw [streams_modify_ne hj] at hp
    exact h.isChannel_modify (hs.reads j c hp)
 closed := by
  intro j hj
  change ((s.modify i f).streams j).closed = true at hj
  change ((s.modify i f).streams j).phase = .ended
  by_cases hi : j = i
  · subst hi
    rw [streams_modify_self] at hj ⊢
    exact hc hj
  · rw [streams_modify_ne hi] at hj ⊢
    exact hs.closed j hj
 recorded := fun j e he => hs.recorded j e (h.offered_modify j ▸ he)
 offeredOnce := by
  intro j k hp e hj hk
  change ((s.modify i f).streams j).peer = ((s.modify i f).streams k).peer at hp
  rw [h.peer_modify,h.peer_modify] at hp
  exact hs.offeredOnce j k hp e (h.offered_modify j ▸ hj) (h.offered_modify k ▸ hk)

/-- A step that leaves the map as it is and does not close the channel. -/
lemma StreamInvariant.modify_open (hs : StreamInvariant s)
  (h : StreamKept (s.streams i) (f (s.streams i)))
  (hc : (f (s.streams i)).closed = (s.streams i).closed)
  (he : (f (s.streams i)).closed = true → (f (s.streams i)).phase = .ended)
  (hr : ∀ c, (f (s.streams i)).phase = .sending c → s.IsChannel (s.streams i).peer c) :
  StreamInvariant (s.modify i f) := by
 refine hs.modify h he hr fun p c hp => ?_
 obtain ⟨hch,hcl⟩ := hs.held p c hp
 refine ⟨h.isChannel_modify hch,?_⟩
 by_cases hi : c = i
 · subst hi
   rw [streams_modify_self,hc,hcl]
 · rw [streams_modify_ne hi,hcl]

lemma Delivered.mem_offered (hd : Delivered s) (hl : (s.streams i).live = true)
  {e : RecordedChange} (he : e ∈ (s.streams i).recorded) :
  ∃ c, (s.streams i).outbox i = some c ∧ e ∈ (s.streams c).offered := by
 obtain ⟨c,hc,hm⟩ := hd.enqueued i hl e he
 exact ⟨c,hc,mem_offered_iff.mpr hm⟩

lemma Delivered.modify (hd : Delivered s) (h : StreamKept (s.streams i) (f (s.streams i)))
  (hl : (f (s.streams i)).live = true → ∀ e ∈ (f (s.streams i)).recorded,
   ∃ c, (f (s.streams i)).outbox i = some c ∧ e ∈ (s.streams c).offered) :
  Delivered { s.modify i f with peerOutboxes := outboxes } where
 enqueued := by
  intro j hj e he
  change ((s.modify i f).streams j).live = true at hj
  change e ∈ ((s.modify i f).streams j).recorded at he
  change ∃ c, ((s.modify i f).streams j).outbox j = some c ∧
   (e ∈ ((s.modify i f).streams c).queue ∨ e ∈ ((s.modify i f).streams c).received ∨
    e ∈ ((s.modify i f).streams c).dropped)
  simp only [← mem_offered_iff,h.offered_modify]
  by_cases hi : j = i
  · subst hi
    rw [streams_modify_self] at hj he ⊢
    exact hl hj e he
  · rw [streams_modify_ne hi] at hj he ⊢
    exact hd.mem_offered hj he
 unclosed := hd.unclosed

section
variable (hs : StreamInvariant s)
include hs

lemma StreamInvariant.ended_of_closed {ph : StreamPhase} (hp : (s.streams i).phase ≠ .ended)
  (hc : (s.streams i).closed = true) : ph = .ended :=
 absurd (hs.closed i hc) hp

lemma StreamInvariant.setPhase {ph : StreamPhase} (hu : ph ≠ .unopened)
  (hc : (s.streams i).closed = true → ph = .ended)
  (hr : ∀ c, ph = .sending c → s.IsChannel (s.streams i).peer c) :
  StreamInvariant (s.setPhase i ph) :=
 hs.modify_open ⟨rfl,rfl,hu⟩ rfl hc hr

lemma StreamInvariant.handshake (peer : String) (hu : (s.streams i).phase = .unopened) :
  StreamInvariant (s.modify i fun _ => { peer := peer, phase := .handshaken }) := by
 -- nobody refers to the stream before it is opened
 have hne : ∀ {p c}, s.IsChannel p c → c ≠ i := fun hc h => hc.2 (h ▸ hu)
 have hch : ∀ {p c}, s.IsChannel p c →
   (s.modify i fun _ => { peer := peer, phase := .handshaken }).IsChannel p c := by
  intro p c hc
  rw [OutboxServer.IsChannel,streams_modify_ne (hne hc)]
  exact hc
 have hcase : ∀ j, (s.modify i fun _ => { peer := peer, phase := .handshaken }).streams j =
   { peer := peer, phase := .handshaken } ∨
   (s.modify i fun _ => { peer := peer, phase := .handshaken }).streams j = s.streams j := by
  intro j
  by_cases hj : j = i
  · exact .inl (hj ▸ streams_modify_self)
  · exact .inr (streams_modify_ne hj)
 constructor
 · intro p c hp
   obtain ⟨hc,ho⟩ := hs.held p c hp
   refine ⟨hch hc,?_⟩
   rw [streams_modify_ne (hne hc),ho]
 · intro j c hp
   rcases hcase j with h | h
   · rw [h] at hp
     cases hp
   · rw [h] at hp ⊢
     exact hch (hs.reads j c hp)
 · intro j hc
   rcases hcase j with h | h
   · rw [h] at hc
     cases hc
   · rw [h] at hc ⊢
     exact hs.closed j hc
 · intro j e he
   rcases hcase j with h | h
   · rw [h] at he
     cases he
   · exact hs.recorded j e (h ▸ he)
 · intro j k hp e hj hk
   rcases hcase j with h | h
   · rw [h] at hj
     cases hj
   rcases hcase k with h' | h'
   · rw [h'] at hk
     cases hk
   rw [h,h'] at hp
   exact hs.offeredOnce j k hp e (h ▸ hj) (h' ▸ hk)

lemma StreamInvariant.register (hp : (s.streams i).phase = .handshaken) :
  StreamInvariant (s.register i) := by
 have hne : (s.streams i).phase ≠ .ended := by rw [hp]; exact nofun
 have ho : (s.streams i).closed = false := Bool.eq_false_iff.mpr fun h => hne (hs.closed i h)
 have hk : StreamKept (s.streams i) { s.streams i with phase := .registered } := ⟨rfl,rfl,nofun⟩
 have hr : StreamInvariant (s.setPhase i .registered) :=
  hs.setPhase nofun (hs.ended_of_closed hne) nofun
 refine hs.modify hk (hs.ended_of_closed hne) nofun fun p c h => ?_
 rcases KeyedMap.find?_set_eq_some_iff.mp h with ⟨rfl,rfl⟩ | ⟨-,h⟩
 · exact ⟨hk.isChannel_modify ⟨rfl,by rw [hp]; exact nofun⟩,by rw [streams_modify_self]; exact ho⟩
 · exact hr.held p c h

lemma StreamInvariant.lookup (hp : (s.streams i).phase = .registered) :
  StreamInvariant (s.lookup i) := by
 have hne : (s.streams i).phase ≠ .ended := by rw [hp]; exact nofun
 unfold OutboxServer.lookup
 cases hf : s.peerOutboxes.find? (s.streams i).peer with
 | none => exact hs.setPhase nofun (hs.ended_of_closed hne) nofun
 | some c =>
  refine hs.setPhase nofun (hs.ended_of_closed hne) fun c' h => ?_
  cases h
  exact (hs.held _ c hf).1

lemma StreamInvariant.cleanup : StreamInvariant (s.cleanup i) := by
 have hk : StreamKept (s.streams i) (s.streams i).close := ⟨rfl,offered_close _,nofun⟩
 refine hs.modify hk (fun _ => rfl) nofun fun p c h => ?_
 obtain ⟨hne,hf⟩ := KeyedMap.find?_delete_eq_some_iff.mp h
 obtain ⟨hc,ho⟩ := hs.held p c hf
 have hi : c ≠ i := fun h => hne (h ▸ hc.1).symm
 exact ⟨hk.isChannel_modify hc,by rw [streams_modify_ne hi,ho]⟩

end

lemma StreamInvariant.send (hs : StreamInvariant s) {c : ℕ} (hp : (s.streams i).phase = .sending c) :
  StreamInvariant (s.send i c) := by
 have hne : (s.streams i).phase ≠ .ended := by rw [hp]; exact nofun
 have hc := hs.reads i c hp
 have hk : StreamKept (s.streams c) (s.streams c).takeFirst := ⟨rfl,offered_takeFirst _,hc.2⟩
 unfold OutboxServer.send
 split_ifs
 · exact hs.modify_open hk rfl (hs.closed c) (hs.reads c)
 · exact hs.setPhase nofun (hs.ended_of_closed hne) nofun
 · exact hs

lemma StreamInvariant.find?_of_mem_values (hs : StreamInvariant s)
  (h : i ∈ s.peerOutboxes.values) : s.peerOutboxes.find? (s.streams i).peer = some i := by
 obtain ⟨p,hp⟩ := KeyedMap.mem_values_iff.mp h
 rw [(hs.held p i hp).1.1,hp]

lemma StreamInvariant.recordLocalChange (hs : StreamInvariant s) (entry : ChangeEntry) :
  StreamInvariant (s.recordLocalChange entry) where
 held := hs.held
 reads := hs.reads
 closed := hs.closed
 recorded := by
  intro j e he
  rcases mem_offered_afterRecord.mp he with he | ⟨-,rfl⟩
  · exact Nat.lt_succ_of_lt (hs.recorded j e he)
  · exact Nat.lt_succ_self _
 offeredOnce := by
  intro j k hp e he he'
  -- the change of this call is in no channel yet, and the map has one channel for the peer
  rcases mem_offered_afterRecord.mp he with he | ⟨hj,rfl⟩
  · rcases mem_offered_afterRecord.mp he' with he' | ⟨-,rfl⟩
    · exact hs.offeredOnce j k hp e he he'
    · exact absurd (hs.recorded j _ he) (lt_irrefl _)
  · rcases mem_offered_afterRecord.mp he' with he' | ⟨hk,-⟩
    · exact absurd (hs.recorded k _ he') (lt_irrefl _)
    · have hj := hs.find?_of_mem_values (of_decide_eq_true hj)
      have hk := hs.find?_of_mem_values (of_decide_eq_true hk)
      rw [show (s.streams j).peer = (s.streams k).peer from hp] at hj
      exact mem_unique hj hk

lemma StreamInvariant.step (hs : StreamInvariant s) (op : StreamOp) :
  StreamInvariant (s.step op) := by
 cases op with
 | recordLocalChange entry => exact hs.recordLocalChange entry
 | send i =>
  unfold OutboxServer.step
  dsimp only
  split
  · exact hs.send (by assumption)
  · exact hs
 | handshake i peer | abort i | register i | lookup i | stop i | cleanup i =>
  unfold OutboxServer.step
  dsimp only
  split_ifs with h
  · first
    | exact hs.handshake peer h
    | exact hs.register h
    | exact hs.lookup h
    | exact hs.cleanup
    | exact hs.setPhase nofun (fun _ => rfl) nofun
    | refine hs.setPhase nofun (hs.ended_of_closed fun hen => ?_) nofun
      simp [outbox,hen] at h
  · exact hs

/-- The map holds no closed channel, so that recording sends to none. -/
lemma StreamInvariant.sentToClosed_recordLocalChange (hs : StreamInvariant s)
  (entry : ChangeEntry) : (s.recordLocalChange entry).sentToClosed = s.sentToClosed := by
 have ho : (s.peerOutboxes.values.any fun c => (s.streams c).closed) = false := by
  rw [any_eq_false]
  intro c hc
  obtain ⟨p,hp⟩ := KeyedMap.mem_values_iff.mp hc
  rw [(hs.held p c hp).2]
  exact Bool.false_ne_true
 change (s.sentToClosed || _) = s.sentToClosed
 rw [ho,Bool.or_false]

lemma StreamInvariant.outbox_peer (hs : StreamInvariant s) {c : ℕ}
  (h : (s.streams i).outbox i = some c) : (s.streams c).peer = (s.streams i).peer := by
 cases hp : (s.streams i).phase with
 | registered =>
  obtain rfl : i = c := by simpa [outbox,hp] using h
  rfl
 | sending c' =>
  obtain rfl : c' = c := by simpa [outbox,hp] using h
  exact (hs.reads i c' hp).1
 | unopened | handshaken | ending | ended => simp [outbox,hp] at h

lemma Delivered.recordLocalChange_iff (hs : StreamInvariant s) (hd : Delivered s)
  (entry : ChangeEntry) :
  Delivered (s.recordLocalChange entry) ↔ KeepsDelivery s (.recordLocalChange entry) := by
 constructor
 · intro h i hl
   have hn : (⟨s.next,entry⟩ : RecordedChange) ∈
     ((s.recordLocalChange entry).streams i).recorded := by
    simp [OutboxServer.recordLocalChange,afterRecord,hl]
   obtain ⟨c,hc,hm⟩ := h.mem_offered hl hn
   refine ⟨c,hc,?_⟩
   -- the change is new, so it can only have been sent by this call
   have hv : c ∈ s.peerOutboxes.values := by
    rcases mem_offered_afterRecord.mp hm with hm | ⟨hv,-⟩
    · exact absurd (hs.recorded c _ hm) (lt_irrefl _)
    · exact of_decide_eq_true hv
   rw [← hs.outbox_peer hc,hs.find?_of_mem_values hv]
 · intro h
   refine ⟨fun i hl e he => ?_,by rw [hs.sentToClosed_recordLocalChange,hd.unclosed]⟩
   have hl' : (s.streams i).live = true := hl
   obtain ⟨c,hc,hf⟩ := h i hl'
   refine ⟨c,hc,mem_offered_iff.mp (mem_offered_afterRecord.mpr ?_)⟩
   have he' : e ∈ (s.streams i).recorded ∨ e = ⟨s.next,entry⟩ := by
    simpa [OutboxServer.recordLocalChange,afterRecord,hl'] using he
   rcases he' with he | he
   · obtain ⟨c',hc',hm⟩ := hd.mem_offered hl' he
     obtain rfl : c = c' := mem_unique hc hc'
     exact .inl hm
   · exact .inr ⟨decide_eq_true (KeyedMap.mem_values_iff.mpr ⟨_,hf⟩),he⟩

lemma Delivered.setPhase (hd : Delivered s) {ph : StreamPhase} (h : ph = .ending ∨ ph = .ended) :
  Delivered (s.setPhase i ph) := by
 refine hd.modify (f := fun st => { st with phase := ph }) ⟨rfl,rfl,?_⟩ fun hl => ?_
 · rcases h with rfl | rfl <;> exact nofun
 · rcases h with rfl | rfl <;> cases hl

lemma Delivered.handshake (hs : StreamInvariant s) (hd : Delivered s) (peer : String)
  (hu : (s.streams i).phase = .unopened) :
  Delivered (s.modify i fun _ => { peer := peer, phase := .handshaken }) where
 enqueued := by
  intro j hj e he
  by_cases hi : j = i
  · subst hi
    rw [streams_modify_self] at he
    cases he
  · rw [streams_modify_ne hi] at hj he ⊢
    obtain ⟨c,hc,hm⟩ := hd.enqueued j hj e he
    have hne : c ≠ i := by
     rintro rfl
     cases hp : (s.streams j).phase with
     | registered => exact hi (by simpa [outbox,hp] using hc)
     | sending c' =>
      obtain rfl : c' = c := by simpa [outbox,hp] using hc
      exact (hs.reads j c' hp).2 hu
     | unopened | handshaken | ending | ended => simp [outbox,hp] at hc
    exact ⟨c,hc,by rwa [streams_modify_ne hne]⟩
 unclosed := hd.unclosed

lemma Delivered.register (hd : Delivered s) (hp : (s.streams i).phase = .handshaken) :
  Delivered (s.register i) := by
 refine hd.modify ⟨rfl,rfl,nofun⟩ fun _ e he => ?_
 -- nothing was recorded before the stream had a channel
 obtain ⟨c,hc,-⟩ := hd.mem_offered (by rw [live,hp]) he
 simp [outbox,hp] at hc

lemma Delivered.send (hs : StreamInvariant s) (hd : Delivered s) {c : ℕ}
  (hp : (s.streams i).phase = .sending c) : Delivered (s.send i c) := by
 have hk : StreamKept (s.streams c) (s.streams c).takeFirst :=
  ⟨rfl,offered_takeFirst _,(hs.reads i c hp).2⟩
 unfold OutboxServer.send
 split_ifs
 · exact hd.modify hk fun hl e he => hd.mem_offered hl he
 · exact hd.setPhase (.inl rfl)
 · exact hd

lemma Delivered.lookup_iff (hs : StreamInvariant s) (hd : Delivered s)
  (hp : (s.streams i).phase = .registered) :
  Delivered (s.lookup i) ↔ KeepsDelivery s (.lookup i) := by
 have hl : (s.streams i).live = true := by rw [live,hp]
 have hown : ∀ e ∈ (s.streams i).recorded, e ∈ (s.streams i).offered := by
  intro e he
  obtain ⟨c,hc,hm⟩ := hd.mem_offered hl he
  obtain rfl : i = c := by simpa [outbox,hp] using hc
  exact hm
 rw [OutboxServer.lookup]
 cases hf : s.peerOutboxes.find? (s.streams i).peer with
 | none => exact iff_of_true (hd.setPhase (.inl rfl)) fun _ c hc => by rw [hf] at hc; cases hc
 | some c =>
  let f : SyncStream → SyncStream := fun st => { st with phase := .sending c }
  have hk : StreamKept (s.streams i) (f (s.streams i)) := ⟨rfl,rfl,nofun⟩
  constructor
  · intro h _ c' hc'
    obtain rfl : c = c' := mem_unique hf hc'
    rw [or_iff_not_imp_right]
    intro hr
    obtain ⟨e,he⟩ := exists_mem_of_ne_nil _ hr
    have hstream : (s.setPhase i (.sending c)).streams i = f (s.streams i) := streams_modify_self
    obtain ⟨c',hc',hm⟩ := h.mem_offered (i := i) (by rw [hstream]; rfl) (by rw [hstream]; exact he)
    rw [hstream] at hc'
    cases hc'
    exact hs.offeredOnce c i (hs.held _ c hf).1.1 e (hk.offered_modify c ▸ hm) (hown e he)
  · intro h
    refine hd.modify (f := f) hk fun _ e he => ⟨c,rfl,?_⟩
    rcases h hp c hf with rfl | hr
    · exact hown e he
    · rw [show (s.streams i).recorded = [] from hr] at he
      cases he

lemma Delivered.step_iff (hs : StreamInvariant s) (hd : Delivered s) (op : StreamOp) :
  Delivered (s.step op) ↔ KeepsDelivery s op := by
 cases op with
 | recordLocalChange entry => exact hd.recordLocalChange_iff hs entry
 | lookup i =>
  by_cases hp : (s.streams i).phase = .registered
  · rw [OutboxServer.step,if_pos hp]
    exact hd.lookup_iff hs hp
  · rw [OutboxServer.step,if_neg hp]
    exact iff_of_true hd fun h => absurd h hp
 | send i =>
  refine iff_of_true ?_ trivial
  unfold OutboxServer.step
  dsimp only
  split
  · exact hd.send hs (by assumption)
  · exact hd
 | handshake i peer | abort i | register i | stop i | cleanup i =>
  refine iff_of_true ?_ trivial
  unfold OutboxServer.step
  dsimp only
  split_ifs with h
  · first
    | exact hd.handshake hs peer h
    | exact hd.register h
    | exact hd.setPhase (.inl rfl)
    | exact hd.setPhase (.inr rfl)
    | exact hd.modify ⟨rfl,offered_close _,nofun⟩ nofun
  · exact hd

end

def streamRun (ops : List StreamOp) : OutboxServer := ops.foldl OutboxServer.step {}

lemma streamInvariant_init : StreamInvariant {} where
 held := nofun
 reads := nofun
 closed := nofun
 recorded := nofun
 offeredOnce := nofun

theorem outbox_delivery_iff (ops : List StreamOp) : (∀ n, Delivered (streamRun (ops.take n))) ↔
   Along OutboxServer.step KeepsDelivery {} ops := by
 have hn : Delivered {} := ⟨nofun,rfl⟩
 have hv : ∀ s op, StreamInvariant s → Delivered s → StreamInvariant (s.step op) :=
  fun _ op hs _ => hs.step op
 have hse : ∀ s op, StreamInvariant s → Delivered s →
   (Delivered (s.step op) ↔ KeepsDelivery s op) := fun _ op hs hd => hd.step_iff hs op
 exact forall_take_iff_along hv hse streamInvariant_init hn ops

lemma not_delivered_of_unoffered {s : OutboxServer} {i : ℕ} {peer : String} {e : RecordedChange}
  (h : s.streams i = { peer := peer, phase := .sending i, recorded := [e] }) : ¬Delivered s := by
 intro hd
 obtain ⟨c,hc,hm⟩ := hd.enqueued i (by rw [h]; rfl) e (by rw [h]; exact mem_singleton_self e)
 rw [h] at hc
 obtain rfl : i = c := Option.some.inj hc
 simp [h] at hm

/-- The old stream's cleanup takes the new one's channel; a change before the entry is lost as well.
-/
theorem overlapping_stream_misses_change :
  let entry : ChangeEntry := ⟨"1",⟨"ProxyRoute","default","web"⟩,.created,none,none,∅,0⟩
  let reconnect : List StreamOp :=
   [.handshake 0 "b",.register 0,.lookup 0,.handshake 1 "b",.register 1,.lookup 1,.stop 0,
    .cleanup 0,.recordLocalChange entry]
  let early : List StreamOp :=
   [.handshake 0 "b",.recordLocalChange entry,.register 0,.lookup 0]
  (streamRun reconnect).streams 1 =
    { peer := "b", phase := .sending 1, recorded := [⟨0,entry⟩] } ∧
   ¬Delivered (streamRun reconnect) ∧
   (streamRun early).streams 0 =
    { peer := "b", phase := .sending 0, recorded := [⟨0,entry⟩] } ∧
   ¬Delivered (streamRun early) :=
 ⟨rfl,not_delivered_of_unoffered (i := 1) rfl,rfl,not_delivered_of_unoffered (i := 0) rfl⟩

end NovaEdge.Federation
