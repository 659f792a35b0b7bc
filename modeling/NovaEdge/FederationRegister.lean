import NovaEdge.FederationServer

/-! Per-key view of a server. Each key owns a register (live version, tombstone, parked
conflict), every operation acts on one register, and the server is their product together
with its clock. Later modules reason about registers only. -/
namespace NovaEdge.Federation
open KeyedMap

structure Register where
 live : Option TrackedResource
 tomb : Option Tombstone
 parked : Option ConflictInfo

namespace Register

def put (g : Register) (r : TrackedResource) : Register := { g with live := some r }

def park (g : Register) (c : ConflictInfo) : Register := { g with parked := some c }

def pendingConflict (existing : TrackedResource) (change : ResourceChange)
  (detectedAt : Instant) : ConflictInfo :=
 ⟨change.key,existing,change.tracked,detectedAt,.pendingManual,true⟩

def conflict (codec : Codec) (config : Config) (g : Register) (existing : TrackedResource)
  (change : ResourceChange) (detectedAt mergedAt : Instant) : Register :=
 match config.conflictResolutionStrategy with
 | .lastWriterWins => if existing.lastModified < change.timestamp then g.put change.tracked else g
 | .merge => match Server.mergeResources codec config mergedAt existing change.tracked with
  | .error _ => g.park (pendingConflict existing change detectedAt)
  | .ok merged => g.put merged
 | .manual => g.park (pendingConflict existing change detectedAt)
 | .other _ => g

def apply (g : Register) (change : ResourceChange) : Register :=
 match change.changeType with
 | .created | .updated => { g with live := some change.tracked, tomb := none }
 | .deleted => { g with live := none, tomb := some change.tombstone }
 | .unspecified | .unrecognized _ => g

def receive (codec : Codec) (config : Config) (g : Register) (change : ResourceChange)
  (detectedAt mergedAt : Instant) : Register :=
 match g.live with
 | some existing =>
  if existing.vectorClock.concurrent change.vectorClock then
   g.conflict codec config existing change detectedAt mergedAt
  else if change.vectorClock.happenedBefore existing.vectorClock then g
  else g.apply change
 | none => g.apply change

def record (g : Register) (entry : ChangeEntry) : Register :=
 match entry.tombstone with
 | some t => { g with tomb := some t, live := none }
 | none => match entry.resource with
  | some r => { g with live := some r, tomb := none }
  | none => g

def resolve (g : Register) (useLocal : Bool) : Register :=
 match g.parked with
 | none => g
 | some c => { g with live := if useLocal then g.live else some c.remoteVersion, parked := none }

inductive Receipt (codec : Codec) (config : Config) (g : Register) (change : ResourceChange)
  (detectedAt mergedAt : Instant) : Register → Prop
 | ignored : Receipt codec config g change detectedAt mergedAt g
 | stored (ht : change.changeType = .created ∨ change.changeType = .updated)
   (hlive : ∀ r, g.live = some r → r.vectorClock.get < change.vectorClock.get) :
   Receipt codec config g change detectedAt mergedAt ⟨some change.tracked,none,g.parked⟩
 | deleted (ht : change.changeType = .deleted)
   (hlive : ∀ r, g.live = some r → r.vectorClock.get < change.vectorClock.get) :
   Receipt codec config g change detectedAt mergedAt ⟨none,some change.tombstone,g.parked⟩
 | remoteWins (r : TrackedResource) (hlive : g.live = some r)
   (hc : r.vectorClock.concurrent change.vectorClock)
   (hs : config.conflictResolutionStrategy = .lastWriterWins)
   (ht : r.lastModified < change.timestamp) :
   Receipt codec config g change detectedAt mergedAt (g.put change.tracked)
 | merged (r merged : TrackedResource) (hlive : g.live = some r)
   (hc : r.vectorClock.concurrent change.vectorClock)
   (hs : config.conflictResolutionStrategy = .merge)
   (hm : Server.mergeResources codec config mergedAt r change.tracked = .ok merged) :
   Receipt codec config g change detectedAt mergedAt (g.put merged)
 | parked (r : TrackedResource) (hlive : g.live = some r)
   (hc : r.vectorClock.concurrent change.vectorClock) :
   Receipt codec config g change detectedAt mergedAt
    (g.park (pendingConflict r change detectedAt))

variable (co : Codec)

lemma conflict_receipt (cfg : Config) {g : Register} {r : TrackedResource}
  {ch : ResourceChange} (d m : Instant) (hl : g.live = some r)
  (hc : r.vectorClock.concurrent ch.vectorClock) :
  Receipt co cfg g ch d m (g.conflict co cfg r ch d m) := by
 unfold conflict
 cases hs : cfg.conflictResolutionStrategy with
 | lastWriterWins =>
  split_ifs with ht
  · exact .remoteWins r hl hc hs ht
  · exact .ignored
 | merge =>
  cases hm : Server.mergeResources co cfg m r ch.tracked with
  | error e => exact .parked r hl hc
  | ok merged => exact .merged r merged hl hc hs hm
 | manual => exact .parked r hl hc
 | other n => exact .ignored

lemma apply_receipt (cfg : Config) {g : Register} {ch : ResourceChange} (d m : Instant)
  (hl : ∀ r, g.live = some r → r.vectorClock.get < ch.vectorClock.get) :
  Receipt co cfg g ch d m (g.apply ch) := by
 unfold apply
 cases ht : ch.changeType with
 | created => exact .stored (.inl ht) hl
 | updated => exact .stored (.inr ht) hl
 | deleted => exact .deleted ht hl
 | unspecified | unrecognized n => exact .ignored

theorem receive_receipt (cfg : Config) (g : Register) (ch : ResourceChange) (d m : Instant) :
  Receipt co cfg g ch d m (g.receive co cfg ch d m) := by
 unfold receive
 cases hl : g.live with
 | none =>
  apply apply_receipt
  simp [hl]
 | some r =>
  dsimp only
  split_ifs with hc hb
  · exact conflict_receipt co cfg d m hl hc
  · exact .ignored
  · have ht : r.vectorClock.get < ch.vectorClock.get := by
     rw [VectorClock.concurrent_iff] at hc
     rw [VectorClock.happenedBefore_iff] at hb
     by_contra hn
     exact hc ⟨hn,hb⟩
    apply apply_receipt
    intro r' hr'
    rw [hl,Option.some.injEq] at hr'
    exact hr' ▸ ht

end Register

namespace Server

def register (s : Server) (k : String) : Register :=
 ⟨s.resources.find? k,s.tombstones.find? k,s.conflicts.find? k⟩

@[simp] lemma register_newServer (cfg : Config) (k : String) :
  (newServer cfg).register k = ⟨none,none,none⟩ := rfl

variable (co : Codec) (s : Server)

@[simp] lemma register_notifyChange (key : ResourceKey) (t : ChangeType) (d : Bytes) (k : String) :
  (s.notifyChange key t d).register k = s.register k := rfl

@[simp] lemma register_countReceived (k : String) : s.countReceived.register k = s.register k := rfl

@[simp] lemma register_countConflict (k : String) : s.countConflict.register k = s.register k := rfl

@[simp] lemma register_countResolved (k : String) : s.countResolved.register k = s.register k := rfl

@[simp] lemma register_applyServiceEndpoints (d : Bytes) (p k : String) :
  (s.applyServiceEndpoints co d p).register k = s.register k := by
 unfold applyServiceEndpoints
 split <;> rfl

@[simp] lemma register_deleteServiceEndpoints (n m p k : String) :
  (s.deleteServiceEndpoints n m p).register k = s.register k := rfl

@[simp] lemma register_observe (cks : VectorClock) (k : String) :
  (s.observe cks).register k = s.register k := rfl

lemma register_storeResource (ks k : String) (r : TrackedResource) :
  (s.storeResource ks r).register k =
   if k = ks then (s.register k).put r else s.register k := by
 unfold storeResource register Register.put
 simp only [find?_set]
 split_ifs <;> rfl

lemma register_storeLive (ks k : String) (r : TrackedResource) : (s.storeLive ks r).register k =
      if k = ks then { s.register k with live := some r, tomb := none } else s.register k := by
 unfold storeLive register
 simp only [find?_set,find?_delete]
 split_ifs <;> rfl

lemma register_storeTombstone (ks k : String) (t : Tombstone) : (s.storeTombstone ks t).register k =
      if k = ks then { s.register k with live := none, tomb := some t } else s.register k := by
 unfold storeTombstone register
 simp only [find?_set,find?_delete]
 split_ifs <;> rfl

lemma register_parkConflict (ks k : String) (c : ConflictInfo) : (s.parkConflict ks c).register k =
      if k = ks then (s.register k).park c else s.register k := by
 unfold parkConflict register Register.park
 simp only [find?_set]
 split_ifs <;> rfl

lemma register_applyUpsert (pn : String) (ch : ResourceChange) (t : ChangeType) (k : String) :
  (s.applyUpsert co pn ch t).register k =
   if k = ch.key.string then { s.register k with live := some ch.tracked, tomb := none }
   else s.register k := by
 unfold applyUpsert
 rw [register_notifyChange,← register_storeLive]
 split_ifs
 · exact register_applyServiceEndpoints ..
 · rfl

lemma register_applyDelete (pn : String) (ch : ResourceChange) (k : String) :
  (s.applyDelete pn ch).register k =
   if k = ch.key.string then
    { s.register k with live := none, tomb := some ch.tombstone }
   else s.register k := by
 unfold applyDelete
 rw [register_notifyChange,← register_storeTombstone]
 split_ifs
 · exact register_deleteServiceEndpoints ..
 · rfl

lemma register_applyChange (pn : String) (ch : ResourceChange) (k : String) :
  (s.applyChange co pn ch).register k =
   if k = ch.key.string then (s.register k).apply ch else s.register k := by
 unfold applyChange Register.apply
 cases ch.changeType with
 | created | updated => rw [register_countReceived,register_applyUpsert]
 | deleted => rw [register_countReceived,register_applyDelete]
 | unspecified | unrecognized n => simp

lemma register_handleConflict (old : TrackedResource) (ch : ResourceChange)
  (d m : Instant) (k : String) : (s.handleConflict co ch.key old ch d m).1.register k =
   if k = ch.key.string then
    (s.register k).conflict co s.config old ch d m
   else s.register k := by
 have hc : s.countConflict.config = s.config := rfl
 unfold handleConflict Register.conflict
 simp only [hc]
 cases s.config.conflictResolutionStrategy with
 | lastWriterWins =>
  by_cases ht : old.lastModified < ch.timestamp
  · have ht' : old.lastModified < ch.tracked.lastModified := ht
    simp only [ht,ht',if_true,register_countResolved,register_notifyChange,
     register_storeResource,register_countConflict]
    rfl
  · have ht' : ¬ old.lastModified < ch.tracked.lastModified := ht
    simp only [ht,ht',if_false,register_countResolved,register_countConflict,ite_self]
 | merge =>
  have hr : ({ ch.tracked with key := ch.key } : TrackedResource) = ch.tracked := rfl
  simp only [hr]
  cases mergeResources co s.config m old ch.tracked with
  | error e => simp only [register_parkConflict,register_countConflict]; rfl
  | ok merged =>
   simp only [register_notifyChange,register_countResolved,register_storeResource,
    register_countConflict]
 | manual => simp only [register_parkConflict,register_countConflict]; rfl
 | other n => simp only [register_countConflict,ite_self]

/-- Receiving a change acts on the register of its key and on no other. -/
lemma register_handleResourceChange (pn : String) (ch : ResourceChange)
  (d m : Instant) (k : String) : (s.handleResourceChange co pn ch d m).1.register k =
   if k = ch.key.string then (s.register k).receive co s.config ch d m
   else s.register k := by
 unfold handleResourceChange
 have hf : (s.observe ch.vectorClock).resources.find? ch.key.string =
   (s.register ch.key.string).live := rfl
 simp only [hf]
 by_cases hk : k = ch.key.string
 · subst hk
   rw [if_pos rfl]
   unfold Register.receive
   cases (s.register ch.key.string).live with
   | none => exact (register_applyChange ..).trans (if_pos rfl)
   | some existing =>
    dsimp only
    split_ifs
    · exact (register_handleConflict ..).trans (if_pos rfl)
    · rfl
    · exact (register_applyChange ..).trans (if_pos rfl)
 · rw [if_neg hk]
   cases (s.register ch.key.string).live with
   | none => exact (register_applyChange ..).trans (if_neg hk)
   | some existing =>
    dsimp only
    split_ifs
    · exact (register_handleConflict ..).trans (if_neg hk)
    · rfl
    · exact (register_applyChange ..).trans (if_neg hk)

section
variable (id : String) (key : ResourceKey) (t : ChangeType) (data : Bytes)
 (lbs : KeyedMap String String) (sp sto : Instant)

lemma register_recordLocalChange (k : String) :
  (s.recordLocalChange id key t data lbs sp sto).register k =
   if k = key.string then
    (s.register k).record (s.localEntry id key t data lbs sp sto)
   else s.register k := by
 have ho : ∀ (u : Server) o, ({ u with peerOutboxes := o } : Server).register k = u.register k :=
  fun _ _ => rfl
 unfold recordLocalChange Register.record
 rw [ho]
 cases t with
 | created | updated => exact register_storeLive ..
 | deleted =>
  rw [show (s.localEntry id key .deleted data lbs sp sto).tombstone = some _ from rfl]
  rw [register_storeTombstone]
  rfl

@[simp] lemma vectorClock_recordLocalChange :
  (s.recordLocalChange id key t data lbs sp sto).vectorClock =
   s.vectorClock.increment s.config.localMember := by
 cases t <;> rfl

@[simp] lemma config_recordLocalChange :
  (s.recordLocalChange id key t data lbs sp sto).config = s.config := by
 cases t <;> rfl

@[simp] lemma vectorClock_localEntry : (s.localEntry id key t data lbs sp sto).vectorClock =
   s.vectorClock.increment s.config.localMember := by
 cases t <;> rfl

end

lemma register_resolveConflict (ks : String) (ul : Bool) (k : String) :
  (s.resolveConflict ks ul).1.register k =
   if k = ks then (s.register k).resolve ul else s.register k := by
 unfold resolveConflict Register.resolve
 by_cases hk : k = ks
 · subst hk
   cases hc : s.conflicts.find? k with
   | none => simp [register,hc]
   | some c => cases ul <;> simp [register,hc,countResolved,storeResource,notifyChange]
 · cases hc : s.conflicts.find? ks with
   | none => simp [hk]
   | some c =>
    cases ul <;> simp [register,hk,countResolved,storeResource,notifyChange]

lemma register_cleanupTombstones (now : Instant) (k : String) :
  (s.cleanupTombstones now).register k = { s.register k with
     tomb := (s.register k).tomb.filter fun t => !tombstoneExpired s.config now t } := by
 unfold cleanupTombstones register
 simp only [find?_deleteIf]

@[simp] lemma register_sendNext (p k : String) : (s.sendNext p).1.register k = s.register k := by
 unfold sendNext
 split <;> rfl

section
variable (p : String) (ch : ResourceChange) (d m : Instant)

lemma frame_applyChange : (s.applyChange co p ch).vectorClock = s.vectorClock ∧
  (s.applyChange co p ch).config = s.config := by
 unfold applyChange applyUpsert applyDelete applyServiceEndpoints
 cases ch.changeType <;> dsimp only <;> (try split_ifs) <;> (try split) <;> exact ⟨rfl,rfl⟩

lemma frame_handleConflict (key : ResourceKey) (old : TrackedResource) :
  (s.handleConflict co key old ch d m).1.vectorClock = s.vectorClock ∧
   (s.handleConflict co key old ch d m).1.config = s.config := by
 unfold handleConflict
 dsimp only
 split
 · split_ifs <;> exact ⟨rfl,rfl⟩
 · split <;> exact ⟨rfl,rfl⟩
 · exact ⟨rfl,rfl⟩
 · exact ⟨rfl,rfl⟩

lemma frame_handleResourceChange :
  (s.handleResourceChange co p ch d m).1.vectorClock = s.vectorClock.mergeMap ch.vectorClock ∧
   (s.handleResourceChange co p ch d m).1.config = s.config := by
 unfold handleResourceChange
 dsimp only
 split
 · split_ifs
   · exact frame_handleConflict ..
   · exact ⟨rfl,rfl⟩
   · exact frame_applyChange ..
 · exact frame_applyChange ..

@[simp] lemma vectorClock_handleResourceChange :
  (s.handleResourceChange co p ch d m).1.vectorClock = s.vectorClock.mergeMap ch.vectorClock :=
 (frame_handleResourceChange ..).1

@[simp] lemma config_handleResourceChange :
  (s.handleResourceChange co p ch d m).1.config = s.config :=
 (frame_handleResourceChange ..).2

end

@[simp] lemma vectorClock_resolveConflict (ks : String) (ul : Bool) :
  (s.resolveConflict ks ul).1.vectorClock = s.vectorClock := by
 unfold resolveConflict
 split
 · rfl
 · cases ul <;> rfl

@[simp] lemma vectorClock_sendNext (p : String) : (s.sendNext p).1.vectorClock = s.vectorClock := by
 unfold sendNext
 split <;> rfl

end Server
end NovaEdge.Federation
