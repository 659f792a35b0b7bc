import NovaEdge.FederationClockBound
import NovaEdge.FederationFencing

/-! Automatic resolution of conflicts when a partition heals. The source calls it last writer wins;
it stores the recorded remote version of every pending conflict and reads no modification time. -/
namespace NovaEdge.Federation
open KeyedMap Register List PartitionDetector

def ConflictsKeyed (s : Server) : Prop := ∀ k c, s.conflicts.find? k = some c → c.key.string = k

/-- The later version is there afterwards; either one if the times are equal. -/
structure LastWriterWins (before after : Server) : Prop where
 remote : ∀ k c r, before.conflicts.find? k = some c → before.resources.find? k = some r →
  r.lastModified < c.remoteVersion.lastModified → after.resources.find? k = some c.remoteVersion
 stored : ∀ k c r, before.conflicts.find? k = some c → before.resources.find? k = some r →
  c.remoteVersion.lastModified < r.lastModified → after.resources.find? k = some r
 tied : ∀ k c r, before.conflicts.find? k = some c → before.resources.find? k = some r →
  r.lastModified = c.remoteVersion.lastModified →
   after.resources.find? k = some r ∨ after.resources.find? k = some c.remoteVersion
 deleted : ∀ k c t, before.conflicts.find? k = some c → before.resources.find? k = none →
  before.tombstones.find? k = some t → c.remoteVersion.lastModified < t.deletionTime →
   after.resources.find? k = none

/-- No pending conflict has recorded a remote version that is older than what its key has now. -/
structure RemotesNotOlder (s : Server) : Prop where
 stored : ∀ k c r, s.conflicts.find? k = some c → s.resources.find? k = some r →
  r.lastModified ≤ c.remoteVersion.lastModified
 deleted : ∀ k c t, s.conflicts.find? k = some c → s.resources.find? k = none →
  s.tombstones.find? k = some t → t.deletionTime ≤ c.remoteVersion.lastModified

section
variable {s : Server}

lemma register_resolveAll {cfs : List ConflictInfo}
  (hn : (cfs.map (·.key.string)).Nodup) (k : String) : (resolveAll s cfs).register k =
   if k ∈ cfs.map (·.key.string) then (s.register k).resolve false
   else s.register k := by
 induction cfs generalizing s with
 | nil => rfl
 | cons c rest ih =>
  obtain ⟨hf,hn⟩ := nodup_cons.mp hn
  have ht : resolveAll s (c::rest) =
    resolveAll (s.resolveConflict c.key.string false).1 rest := rfl
  rw [ht,ih hn,Server.register_resolveConflict,map_cons]
  by_cases hk : k = c.key.string
  · subst hk
    rw [if_neg hf,if_pos rfl,if_pos mem_cons_self]
  · simp only [hk,if_false,mem_cons,false_or]

lemma find?_resolveAll (hke : ConflictsKeyed s) {cfs : List ConflictInfo}
  (ho : cfs.Perm s.conflicts.values) {k : String} {c : ConflictInfo}
  (hc : s.conflicts.find? k = some c) :
  (resolveAll s cfs).resources.find? k = some c.remoteVersion := by
 have hk : (s.conflicts.values.map (·.key.string)) = s.conflicts.pairs.map Prod.fst := by
  rw [values_eq_map_pairs,map_map]
  exact map_congr_left fun e he => hke e.1 e.2 (mem_pairs_iff.mp he)
 have hn : (cfs.map (·.key.string)).Nodup := by
  rw [(ho.map _).nodup_iff,hk]
  exact s.conflicts.pairs_keys_nodup
 have hm : k ∈ cfs.map fun c => c.key.string := by
  rw [(ho.map _).mem_iff,hk]
  exact mem_map.mpr ⟨(k,c),mem_pairs_iff.mpr hc,rfl⟩
 have hr := register_resolveAll (s := s) hn k
 rw [if_pos hm] at hr
 have hl := congrArg live hr
 have hp : (s.register k).parked = some c := hc
 rw [resolve,hp] at hl
 exact hl

end

lemma conflictsKeyed_serverRun (co : Codec) (cfg : Config) (ops : List Op) :
  ConflictsKeyed (serverRun co cfg ops) := by
 refine (reachable_serverRun co cfg ops).invariant ?_ ?_
 · rintro s ⟨cfg,rfl⟩ k c hc
   cases hc
 · rintro s op s' hn rfl k c hc
   have hp : ((s.step co op).register k).parked = some c := hc
   have ht := registerStep co s op k
   generalize (s.step co op).register k = g at hp ht
   cases ht with
   | unchanged | cleaned now => exact hn k c hp
   | recorded id key t data labels stamp stored hk =>
    rw [record] at hp
    split at hp
    · exact hn k c hp
    · split at hp <;> exact hn k c hp
   | received p ch d m hk =>
    subst hk
    have hr := receive_receipt co s.config (s.register ch.key.string) ch d m
    generalize (s.register ch.key.string).receive co s.config ch d m = g' at hp hr
    cases hr with
    | ignored | stored | deleted | remoteWins | merged => exact hn _ c hp
    | parked => exact Option.some.inj hp ▸ rfl
   | resolved useLocal =>
    rw [resolve] at hp
    split at hp
    · exact hn k c hp
    · cases hp

theorem healing_last_writer_wins_iff (d : PartitionDetector) (conflicts : List ConflictInfo)
  (hstate : d.state = .healing) (hauto : d.autoResolveOnHeal = true)
  (hkeyed : ConflictsKeyed d.server) (horder : conflicts.Perm d.server.conflicts.values) :
  LastWriterWins d.server (d.healWith conflicts).server ↔ RemotesNotOlder d.server := by
 have hse : (d.healWith conflicts).server = resolveAll d.server conflicts := by
  rw [PartitionDetector.healWith,if_neg (not_not_intro hstate),if_pos hauto]
  rfl
 have ha : ∀ k c, d.server.conflicts.find? k = some c →
   (d.healWith conflicts).server.resources.find? k = some c.remoteVersion := by
  intro k c hc
  rw [hse]
  exact find?_resolveAll hkeyed horder hc
 constructor
 · intro h
   constructor
   · intro k c r hc hr
     by_contra hl
     have hk := h.stored k c r hc hr (not_le.mp hl)
     rw [ha k c hc] at hk
     exact hl (Option.some.inj hk ▸ le_rfl)
   · intro k c t hc hr ht
     by_contra hl
     have hg := h.deleted k c t hc hr ht (not_le.mp hl)
     rw [ha k c hc] at hg
     cases hg
 · intro h
   refine ⟨fun k c r hc _ _ => ha k c hc,?_,fun k c r hc _ _ => .inr (ha k c hc),?_⟩
   · intro k c r hc hr hl
     exact absurd (h.stored k c r hc hr) (not_le.mpr hl)
   · intro k c t hc hr ht hl
     exact absurd (h.deleted k c t hc hr ht) (not_le.mpr hl)

def conflictServer (remoteTime : Instant) : Server :=
 serverRun silentCodec (sampleConfig "a" .manual)
  [.recordLocalChange "1" sampleKey .created [1] ∅ 20 21,.handleResourceChange "b"
     (sampleChange "2" (set ∅ "b" 2) .updated sampleKey [2] remoteTime "b") 30 30]

def healingDetector (remoteTime : Instant) : PartitionDetector :=
 { pairedState.detector with state := .healing, server := conflictServer remoteTime }

theorem later_remote_version_wins : LastWriterWins (conflictServer 25)
      ((healingDetector 25).healWith (conflictServer 25).conflicts.values).server := by
 refine (healing_last_writer_wins_iff (healingDetector 25) _ rfl rfl
  (conflictsKeyed_serverRun _ _ _) (.refl _)).mpr ⟨?_,?_⟩
 · intro k c r hc hr
   have hk : k = sampleKey.string := by
    by_contra hne
    have hn : (conflictServer 25).conflicts.find? k = none := find?_set_ne ∅ _ hne
    exact absurd (hn.symm.trans hc) (by simp)
   subst hk
   cases hc
   cases hr
   decide
 · intro k c t hc hr ht
   have hn : (conflictServer 25).tombstones.find? k = none := rfl
   exact absurd (hn.symm.trans ht) (by simp)

/-- The remote version was written at 5, and replaces the stored one that was written at 21. -/
theorem older_remote_version_wins : ConflictsKeyed (conflictServer 5) ∧
      ¬ LastWriterWins (conflictServer 5)
       ((healingDetector 5).healWith (conflictServer 5).conflicts.values).server := by
 refine ⟨conflictsKeyed_serverRun _ _ _,fun h => ?_⟩
 obtain ⟨c,r,hc,hr,holder,hre⟩ : ∃ c r,
   (conflictServer 5).conflicts.find? sampleKey.string = some c ∧
    (conflictServer 5).resources.find? sampleKey.string = some r ∧
    c.remoteVersion.lastModified < r.lastModified ∧
    ((healingDetector 5).healWith (conflictServer 5).conflicts.values).server.resources.find?
     sampleKey.string ≠ some r := ⟨_,_,rfl,rfl,by decide,by decide⟩
 exact hre (h.stored _ c r hc hr holder)

end NovaEdge.Federation
