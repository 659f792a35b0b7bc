import NovaEdge.TransitionSystem
import NovaEdge.FederationRegister

/-! A federation server as a transition system: its operations, the entries it holds for a key,
and what one operation can do to a register. -/
namespace NovaEdge.Federation
open Server

inductive Op
 | recordLocalChange (id : String) (key : ResourceKey) (changeType : ChangeType) (data : Bytes)
   (labels : KeyedMap String String) (stamp stored : Instant)
 | handleResourceChange (peerName : String) (change : ResourceChange)
   (detectedAt mergedAt : Instant)
 | resolveConflict (keyStr : String) (useLocal : Bool)
 | cleanupTombstones (now : Instant)
 | updateConfig (config : Config)
 | openOutbox (peerName : String)
 | closeOutbox (peerName : String)
 | sendNext (peerName : String)

def Server.step (codec : Codec) (s : Server) : Op → Server
 | .recordLocalChange id key t data labels stamp stored =>
  s.recordLocalChange id key t data labels stamp stored
 | .handleResourceChange p change d m => (s.handleResourceChange codec p change d m).1
 | .resolveConflict keyStr useLocal => (s.resolveConflict keyStr useLocal).1
 | .cleanupTombstones now => s.cleanupTombstones now
 | .updateConfig config => s.updateConfig config
 | .openOutbox p => s.openOutbox p
 | .closeOutbox p => s.closeOutbox p
 | .sendNext p => (s.sendNext p).1

def Fresh (s : Server) : Prop := ∃ config, s = newServer config

def serverSystem (codec : Codec) : TransitionSystem Server Op := .ofFun Fresh (step codec)

def serverRun (codec : Codec) (config : Config) (ops : List Op) : Server :=
 ops.foldl (step codec) (newServer config)

lemma reachable_serverRun (co : Codec) (cfg : Config) (ops : List Op) :
  (serverSystem co).Reachable (serverRun co cfg ops) :=
 .ofFun_foldl ⟨cfg,rfl⟩ ops

lemma reachable_serverRun_of_along {co : Codec} {ok : Server → Op → Prop} {cfg : Config}
  {ops : List Op} (h : Along (step co) ok (newServer cfg) ops) :
  ((serverSystem co).restrict ok).Reachable (serverRun co cfg ops) := by
 have ht : ((serverSystem co).restrict ok).Reachable (newServer cfg) := .start ⟨cfg,rfl⟩
 exact ht.foldl h fun _ _ ho => ⟨rfl,ho⟩

inductive Entry
 | live (r : TrackedResource)
 | tomb (t : Tombstone)

def Entry.clock : Entry → VectorClock
 | .live r => r.vectorClock
 | .tomb t => t.vectorClock

def Register.Holds (g : Register) : Entry → Prop
 | .live r => g.live = some r
 | .tomb t => g.tomb = some t

inductive RegisterStep (codec : Codec) (s : Server) (k : String) : Op → Register → Prop
 | unchanged (op : Op) : RegisterStep codec s k op (s.register k)
 | recorded (id : String) (key : ResourceKey) (t : ChangeType) (data : Bytes)
   (labels : KeyedMap String String) (stamp stored : Instant) (hk : k = key.string) :
   RegisterStep codec s k (.recordLocalChange id key t data labels stamp stored)
    ((s.register k).record (s.localEntry id key t data labels stamp stored))
 | received (p : String) (change : ResourceChange) (d m : Instant) (hk : k = change.key.string) :
   RegisterStep codec s k (.handleResourceChange p change d m)
    ((s.register k).receive codec s.config change d m)
 | resolved (useLocal : Bool) :
   RegisterStep codec s k (.resolveConflict k useLocal) ((s.register k).resolve useLocal)
 | cleaned (now : Instant) :
   RegisterStep codec s k (.cleanupTombstones now)
    { s.register k with
      tomb := (s.register k).tomb.filter fun t => !tombstoneExpired s.config now t }

theorem registerStep (co : Codec) (s : Server) (op : Op) (k : String) :
  RegisterStep co s k op ((s.step co op).register k) := by
 cases op with
 | recordLocalChange id key t data labels stamp stored =>
  rw [step,register_recordLocalChange]
  split_ifs with hk
  · exact .recorded id key t data labels stamp stored hk
  · exact .unchanged _
 | handleResourceChange p change d m =>
  rw [step,register_handleResourceChange]
  split_ifs with hk
  · exact .received p change d m hk
  · exact .unchanged _
 | resolveConflict keyStr useLocal =>
  rw [step,register_resolveConflict]
  split_ifs with hk
  · rw [← hk]
    exact .resolved useLocal
  · exact .unchanged _
 | cleanupTombstones now =>
  rw [step,register_cleanupTombstones]
  exact .cleaned now
 | updateConfig config | openOutbox p | closeOutbox p => exact .unchanged _
 | sendNext p =>
  rw [step,register_sendNext]
  exact .unchanged _

def Mergeable (codec : Codec) (a b : Bytes) : Prop :=
 ∃ x y d, codec.unmarshalObject a = some x ∧ codec.unmarshalObject b = some y ∧
  codec.marshalObject (mergeMaps x y) = some d

lemma mergeResources_ok {co : Codec} {cfg : Config} {now : Instant} {old rem mgd : TrackedResource}
  (h : mergeResources co cfg now old rem = .ok mgd) :
  Mergeable co old.data rem.data ∧ mgd.key = old.key ∧ mgd.vectorClock =
    (old.vectorClock.mergeMap rem.vectorClock).increment cfg.localMember := by
 unfold mergeResources at h
 cases hx : co.unmarshalObject old.data with
 | none => simp [hx] at h
 | some x =>
  cases hy : co.unmarshalObject rem.data with
  | none => simp [hx,hy] at h
  | some y =>
   cases hd : co.marshalObject (mergeMaps x y) with
   | none => simp [hx,hy,hd] at h
   | some d =>
    simp only [hx,hy,hd,Except.ok.injEq] at h
    exact ⟨⟨x,y,d,hx,hy,hd⟩,by rw [← h],by rw [← h]⟩

lemma mergeResources_isOk {co : Codec} {r v : TrackedResource}
  (h : Mergeable co r.data v.data) (cfg : Config) (now : Instant) :
  ∃ merged, mergeResources co cfg now r v = .ok merged := by
 obtain ⟨x,y,d,hx,hy,hd⟩ := h
 unfold mergeResources
 simp only [hx,hy,hd]
 exact ⟨_,rfl⟩

lemma mergeResources_isError {co : Codec} {r v : TrackedResource}
  (h : ¬ Mergeable co r.data v.data) (cfg : Config) (now : Instant) :
  ∃ e, mergeResources co cfg now r v = .error e := by
 cases hm : mergeResources co cfg now r v with
 | error e => exact ⟨e,rfl⟩
 | ok merged => exact absurd (mergeResources_ok hm).1 h

lemma record_localEntry (s : Server) (g : Register) (id : String) (key : ResourceKey)
  (t : ChangeType) (data : Bytes) (lbs : KeyedMap String String) (sp sto : Instant)
  {e : Entry} (h : (g.record (s.localEntry id key t data lbs sp sto)).Holds e) :
  e.clock = s.vectorClock.increment s.config.localMember := by
 cases t with
 | created | updated =>
  cases e with
  | live r => exact (Option.some.inj h) ▸ rfl
  | tomb u => exact absurd h (by simp [Register.record,localEntry,Register.Holds])
 | deleted =>
  cases e with
  | live r => exact absurd h (by simp [Register.record,localEntry,Register.Holds])
  | tomb u => exact (Option.some.inj h) ▸ rfl

lemma receive_of_lt (co : Codec) (cfg : Config) {g : Register} {r : TrackedResource}
  {ch : ResourceChange} (d m : Instant) (hli : g.live = some r)
  (hl : r.vectorClock.get < ch.vectorClock.get) : g.receive co cfg ch d m = g.apply ch := by
 have hc : ¬ r.vectorClock.concurrent ch.vectorClock = true := by
  rw [VectorClock.concurrent_iff]
  exact fun hn => hn.1 hl
 have hb : ¬ ch.vectorClock.happenedBefore r.vectorClock = true := by
  rw [VectorClock.happenedBefore_iff]
  exact lt_asymm hl
 unfold Register.receive
 simp only [hli]
 rw [if_neg hc,if_neg hb]

end NovaEdge.Federation
