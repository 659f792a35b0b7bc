import NovaEdge.FederationHub

/-! Live versions and tombstones of a key. Every writer of the live map removes the tombstone of the
key, apart from the three that expect a live version already: two conflict strategies, which are
right about that but store a received delete as a version, and the manual resolution, which is not.
-/
namespace NovaEdge.Federation
open Server

def Register.LiveOrDeleted (g : Register) : Prop := g.live = none ∨ g.tomb = none

def LiveOrDeleted (s : Server) : Prop :=
 ∀ k, s.resources.find? k = none ∨ s.tombstones.find? k = none

/-- A conflict is not resolved to its remote version while the key is deleted. -/
def ResolvesLive (s : Server) : Op → Prop
 | .resolveConflict k false => s.conflicts.find? k = none ∨ s.tombstones.find? k = none
 | _ => True

namespace Register.LiveOrDeleted
variable {g g' : Register}

variable (h : g.LiveOrDeleted)
include h

lemma put {r : TrackedResource} (hl : g.live = some r) (r' : TrackedResource) :
  (g.put r').LiveOrDeleted := by
 have ht : g.tomb = none := h.resolve_left (by simp [hl])
 exact .inr ht

lemma receipt {co : Codec} {cfg : Config} {ch : ResourceChange} {d m : Instant}
  (hg : Receipt co cfg g ch d m g') : g'.LiveOrDeleted := by
 cases hg with
 | ignored | parked => exact h
 | stored => exact .inr rfl
 | deleted => exact .inl rfl
 | remoteWins r hl | merged r r' hl => exact h.put hl _

lemma record (ent : ChangeEntry) : (g.record ent).LiveOrDeleted := by
 unfold Register.record
 split
 · exact .inl rfl
 · split
   · exact .inr rfl
   · exact h

lemma filter (keep : Tombstone → Bool) :
  ({ g with tomb := g.tomb.filter keep } : Register).LiveOrDeleted := by
 rcases h with h | h
 · exact .inl h
 · exact .inr (by simp [h])

/-- The one operation on a register that can break the property, and when it does. -/
lemma resolve_iff (ul : Bool) : (g.resolve ul).LiveOrDeleted ↔
      (ul = false → g.parked = none ∨ g.tomb = none) := by
 unfold resolve
 cases hp : g.parked with
 | none => exact iff_of_true h fun _ => .inl rfl
 | some c =>
  cases ul with
  | true => exact iff_of_true h (by simp)
  | false => simp [Register.LiveOrDeleted]

end Register.LiveOrDeleted

lemma liveOrDeleted_resolveConflict_iff {s : Server} (h : LiveOrDeleted s) (ks : String)
  (ul : Bool) : LiveOrDeleted (s.resolveConflict ks ul).1 ↔
   ResolvesLive s (.resolveConflict ks ul) := by
 have hr := register_resolveConflict s ks ul
 have hke : ((s.register ks).resolve ul).LiveOrDeleted ↔
   ResolvesLive s (.resolveConflict ks ul) := by
  have hk : (s.register ks).LiveOrDeleted := h ks
  rw [hk.resolve_iff]
  cases ul <;> simp [ResolvesLive,register]
 rw [← hke]
 constructor
 · intro hs
   have hk : (register _ ks).LiveOrDeleted := hs ks
   rwa [hr,if_pos rfl] at hk
 · intro hk k
   change (register _ k).LiveOrDeleted
   rw [hr]
   split_ifs with hke
   · exact hke ▸ hk
   · exact h k

lemma liveOrDeleted_step_iff (co : Codec) {s : Server} (h : LiveOrDeleted s) (op : Op) :
  LiveOrDeleted (s.step co op) ↔ ResolvesLive s op := by
 by_cases ho : ∃ k ul, op = .resolveConflict k ul
 · obtain ⟨k,ul,rfl⟩ := ho
   exact liveOrDeleted_resolveConflict_iff h k ul
 · -- every other operation keeps the property of each register
   refine iff_of_true (fun k => ?_) ?_
   · change (register _ k).LiveOrDeleted
     have hk : (s.register k).LiveOrDeleted := h k
     have ht := registerStep co s op k
     generalize (s.step co op).register k = g' at ht ⊢
     cases ht with
     | unchanged => exact hk
     | recorded => exact hk.record _
     | received p change d m => exact hk.receipt (Register.receive_receipt ..)
     | resolved ul => exact absurd ⟨k,ul,rfl⟩ ho
     | cleaned now => exact hk.filter _
   · cases op with
     | resolveConflict k ul => exact absurd ⟨k,ul,rfl⟩ ho
     | _ => trivial

theorem live_or_deleted_iff (codec : Codec) (config : Config) (ops : List Op) :
  (∀ n, LiveOrDeleted (serverRun codec config (ops.take n))) ↔
   Along (step codec) ResolvesLive (newServer config) ops := by
 have hn : LiveOrDeleted (newServer config) := fun _ => .inl rfl
 have ht : ∀ (s : Server) op, True → LiveOrDeleted s →
   (LiveOrDeleted (s.step codec op) ↔ ResolvesLive s op) :=
  fun _ op _ h => liveOrDeleted_step_iff codec h op
 exact forall_take_iff_along (fun _ _ _ _ => trivial) ht trivial hn ops

def reviveAfterDelete : List Op := [.recordLocalChange "1" sampleKey .created emptyObject ∅ 10 11,
   .handleResourceChange "b"
    (sampleChange "2" (KeyedMap.set ∅ "b" 1) .created sampleKey emptyObject 12 "b") 13 14,
   .recordLocalChange "3" sampleKey .deleted [] ∅ 15 16,
   .resolveConflict sampleKey.string false]

theorem revived_key_live_and_deleted :
  let s := serverRun emptyObjectCodec (sampleConfig "a" .manual) reviveAfterDelete
  (serverSystem emptyObjectCodec).Reachable s ∧
   (s.resources.find? sampleKey.string).isSome = true ∧
   (s.tombstones.find? sampleKey.string).isSome = true ∧ ¬ LiveOrDeleted s := by
 refine ⟨reachable_serverRun ..,by decide,by decide,?_⟩
 intro h
 exact absurd (h sampleKey.string) (by decide)

structure DeleteHonoured (s s' : Server) (change : ResourceChange) : Prop where
 kept_or_deleted : s'.resources.find? change.key.string = s.resources.find? change.key.string ∨
  s'.resources.find? change.key.string = none ∧
   ∃ t, s'.tombstones.find? change.key.string = some t ∧ t.vectorClock = change.vectorClock
 never_empty : ∀ r, s'.resources.find? change.key.string = some r → r.data = [] →
  s.resources.find? change.key.string = some r

section
variable {codec : Codec} {s : Server} {change : ResourceChange} {d m : Instant}

lemma Passes.keepsVersion (h : Passes s change) : KeepsVersion codec s change m :=
 fun _ hr hc => absurd hc (h.not_concurrent hr)

lemma deleteHonoured_of_passes (h : Passes s change) (hde : change.changeType = .deleted)
  (pn : String) : DeleteHonoured s (s.handleResourceChange codec pn change d m).1 change := by
 have hre := register_handleResourceChange codec s pn change d m change.key.string
 rw [if_pos rfl,receive_of_passes h,Register.apply,hde] at hre
 have hl := congrArg Register.live hre
 refine ⟨.inr ⟨hl,_,congrArg Register.tomb hre,rfl⟩,fun r hr => ?_⟩
 exact absurd (hl.symm.trans hr) (by simp)

lemma receive_of_not_passes (h : ¬ Passes s change) :
  ((s.register change.key.string).receive codec s.config change d m).live.isSome = true ∧
   ((s.register change.key.string).receive codec s.config change d m).tomb =
    s.tombstones.find? change.key.string := by
 have hre := Register.receive_receipt codec s.config (s.register change.key.string) change d m
 generalize (s.register change.key.string).receive codec s.config change d m = g' at hre ⊢
 cases hre with
 | ignored =>
  obtain ⟨r,hr,-⟩ := not_passes_iff.mp h
  exact ⟨isSome_iff_exists.mpr ⟨r,hr⟩,rfl⟩
 | stored _ hl | deleted _ hl => exact absurd hl h
 | remoteWins | merged => exact ⟨rfl,rfl⟩
 | parked r hl => exact ⟨isSome_iff_exists.mpr ⟨r,hl⟩,rfl⟩

lemma deleteHonoured_of_not_passes_iff (h : ¬ Passes s change) (pn : String) :
  DeleteHonoured s (s.handleResourceChange codec pn change d m).1 change ↔
   KeepsVersion codec s change m := by
 have hre := register_handleResourceChange codec s pn change d m change.key.string
 rw [if_pos rfl] at hre
 have hl := congrArg Register.live hre
 obtain ⟨ho,ht⟩ := @receive_of_not_passes codec s change d m h
 have hk : SameContent s (s.handleResourceChange codec pn change d m).1 ↔
   KeepsVersion codec s change m := sameContent_of_not_passes_iff h
 rw [← hk]
 constructor
 · rintro ⟨hke | ⟨hn,-⟩,-⟩
   · exact sameContent_receive_iff.mpr ⟨⟨hl.symm.trans hke,ht⟩,fun _ _ => by
      rw [endpointCache_of_not_passes h]⟩
   · -- the key cannot have been deleted on this path
     rw [← hl] at ho
     exact absurd ho (by rw [register,hn]; simp)
 · intro ha
   refine ⟨.inl (ha.resources _),fun r hr _ => ?_⟩
   rw [← ha.resources]
   exact hr

/-- A received delete is honoured exactly if it does not win a conflict. -/
theorem delete_honoured_iff (codec : Codec) (s : Server) (peerName : String)
  (change : ResourceChange) (d m : Instant) (hdel : change.changeType = .deleted) :
  DeleteHonoured s (s.handleResourceChange codec peerName change d m).1 change ↔
   KeepsVersion codec s change m := by
 by_cases h : Passes s change
 · exact iff_of_true (deleteHonoured_of_passes h hdel peerName) h.keepsVersion
 · exact deleteHonoured_of_not_passes_iff h peerName

end

def concurrentDelete : ResourceChange :=
 sampleChange "2" (KeyedMap.set ∅ "b" 1) .deleted sampleKey [] 20 "b"

theorem concurrent_delete_leaves_empty_version :
  let s := serverRun emptyObjectCodec (sampleConfig "a" .lastWriterWins) [.recordLocalChange "1"
   sampleKey .created emptyObject ∅ 10 11]
  let s' := (s.handleResourceChange emptyObjectCodec "b" concurrentDelete 21 22).1
  (s.resources.find? sampleKey.string).map (·.data) = some emptyObject ∧
   (s'.resources.find? sampleKey.string).map (·.data) = some [] ∧
   s'.tombstones.find? sampleKey.string = none ∧ ¬ DeleteHonoured s s' concurrentDelete := by
 refine ⟨by decide,by decide,by decide,?_⟩
 rintro ⟨hk | ⟨hn,-⟩,-⟩
 · cases hk
 · cases hn

theorem delete_honoured_when_it_loses :
  let s := serverRun emptyObjectCodec (sampleConfig "a" .lastWriterWins) [.recordLocalChange "1"
   sampleKey .created emptyObject ∅ 10 30]
  concurrentDelete.changeType = .deleted ∧
   DeleteHonoured s (s.handleResourceChange emptyObjectCodec "b" concurrentDelete 31 32).1
    concurrentDelete := by
 refine ⟨rfl,(delete_honoured_iff _ _ _ _ _ _ rfl).mpr ?_⟩
 intro r hr _
 cases hr
 change (20 : ℤ) ≤ 30
 decide

end NovaEdge.Federation
