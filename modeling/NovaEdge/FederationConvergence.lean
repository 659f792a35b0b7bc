import NovaEdge.PrecedenceRegister
import NovaEdge.FederationFullSync

/-! Convergence of a federation under the last-writer strategy. Members record changes and apply
each other's, every change once and in the order of its origin. The writes of a register beat each
other by causality or, when concurrent, by timestamp. -/
namespace NovaEdge.Federation
open Server VectorClock Register List Function

structure FederationState where
 server : String → Server
 log : List ChangeEntry
 applied : String → List ChangeEntry

inductive FederationOp
 | recordLocalChange (member id : String) (key : ResourceKey) (changeType : ChangeType)
   (data : Bytes) (labels : KeyedMap String String) (stamp stored : Instant)
 | deliver (member : String) (index : ℕ) (peerName : String) (detectedAt mergedAt : Instant)
 | cleanupTombstones (member : String) (now : Instant)

def ChangeEntry.origin (x : ChangeEntry) : String := (changeEntryToProto x).originMember

namespace FederationState

def record (F : FederationState) (member : String) (s : Server) (entry : ChangeEntry) :
  FederationState where
 server := Function.update F.server member s
 log := F.log
 applied := Function.update F.applied member (entry::F.applied member)

def step (codec : Codec) (F : FederationState) : FederationOp → FederationState
 | .recordLocalChange member id key t data labels stamp stored =>
  let entry := (F.server member).localEntry id key t data labels stamp stored
  let G := F.record member
   ((F.server member).recordLocalChange id key t data labels stamp stored) entry
  { G with log := G.log ++ [entry] }
 | .deliver member index peerName d m =>
  match F.log[index]? with
  | none => F
  | some entry => F.record member
    ((F.server member).handleResourceChange codec peerName (changeEntryToProto entry) d m).1
    entry
 | .cleanupTombstones member now =>
  let s := (F.server member).cleanupTombstones now
  { F with server := Function.update F.server member s }

def enabled (F : FederationState) : FederationOp → Bool
 | .deliver member index _ _ _ =>
  match F.log[index]? with
  | none => false
  | some entry => entry ∉ F.applied member &&
    (F.log.take index).all fun x => x.origin ≠ entry.origin || x ∈ F.applied member
 | _ => true

end FederationState

/-- Every member starts with an empty server of its own name and the last-writer strategy. -/
structure FreshFederation (F : FederationState) : Prop where
 log : F.log = []
 applied : ∀ m, F.applied m = []
 server : ∀ m, ∃ config, F.server m = newServer config ∧ config.localMember = m ∧
  config.conflictResolutionStrategy = .lastWriterWins

def federationSystem (codec : Codec) : TransitionSystem FederationState FederationOp :=
 (TransitionSystem.ofFun FreshFederation (FederationState.step codec)).restrict
  fun F op => F.enabled op = true

def Converged (F : FederationState) (m n : String) : Prop :=
 ∀ k, ((F.server m).register k).live.map (fun r => (r.data,r.vectorClock)) =
  ((F.server n).register k).live.map fun r => (r.data,r.vectorClock)

namespace ChangeEntry

def Deletes (x : ChangeEntry) : Prop := x.type = .deleted

instance : DecidablePred Deletes := fun x => inferInstanceAs (Decidable (x.type = .deleted))

def storedAt (x : ChangeEntry) : Instant := (x.resource.map (·.lastModified)).getD x.timestamp

/-- Whichever of the two a server holds first, and whether it is the origin of that one. -/
def Prevails (y x : ChangeEntry) : Prop := ¬ y.Deletes ∧ x.timestamp ≤ y.storedAt ∧
  ((x.Deletes ∧ x.timestamp ≤ y.timestamp) ∨
   (¬ x.Deletes ∧ x.timestamp < y.timestamp ∧ x.storedAt < y.timestamp))

def Beats (y x : ChangeEntry) : Prop := x.vectorClock.get < y.vectorClock.get ∨
  (x.vectorClock.concurrent y.vectorClock = true ∧ y.Prevails x)

lemma not_prevails_self (x : ChangeEntry) : ¬ x.Prevails x := by
 rintro ⟨hde,-,hc⟩
 rcases hc with ⟨hd',-⟩ | ⟨-,ht,-⟩
 · exact hde hd'
 · exact lt_irrefl _ ht

lemma not_beats_self (x : ChangeEntry) : ¬ x.Beats x := by
 rintro (hl | ⟨-,hp⟩)
 · exact lt_irrefl _ hl
 · exact x.not_prevails_self hp

end ChangeEntry

def BeatsIn (S : Set ChangeEntry) (y x : ChangeEntry) : Prop :=
 y ∈ S ∧ x ∈ S ∧ y.key.string = x.key.string ∧ y.Beats x

structure Resolvable (S : Set ChangeEntry) : Prop where
 decided : ∀ x ∈ S, ∀ y ∈ S, x ≠ y → x.key.string = y.key.string →
  x.vectorClock.concurrent y.vectorClock = true → ¬ (x.Deletes ∧ y.Deletes) →
  x.Prevails y ∨ y.Prevails x
 acyclic : ∀ x, ¬ Relation.TransGen (BeatsIn S) x x

/-- No change reaches an empty register after a deletion that causally follows it. -/
def DeletionSafe (F : FederationState) : FederationOp → Prop
 | .recordLocalChange m _ _ _ _ _ _ _ =>
  (F.server m).vectorClock.get (F.server m).config.localMember < maxInt64
 | .deliver m index _ _ _ =>
  ∀ y, F.log[index]? = some y → ¬ y.Deletes → ((F.server m).register y.key.string).live = none →
   ∀ d ∈ F.applied m, d.Deletes → d.key.string = y.key.string →
    ¬ y.vectorClock.get < d.vectorClock.get
 | .cleanupTombstones _ _ => True

structure Produced (x : ChangeEntry) : Prop where
 deletes_iff : x.Deletes ↔ x.resource = none
 clock : ∀ r, x.resource = some r → r.vectorClock = x.vectorClock

attribute [local simp] ChangeEntry.Deletes localEntry

lemma produced_localEntry (s : Server) (id : String) (key : ResourceKey) (t : ChangeType)
  (data : Bytes) (lbs : KeyedMap String String) (sp sto : Instant) :
  Produced (s.localEntry id key t data lbs sp sto) := by
 cases t with
 | created | updated =>
  refine ⟨by simp,?_⟩
  intro r hr
  exact Option.some.inj hr ▸ rfl
 | deleted => exact ⟨by simp,by simp⟩

def Shows (live : Option TrackedResource) : Option ChangeEntry → Prop
 | none => live = none
 | some x => ∃ r r₀, live = some r ∧ x.resource = some r₀ ∧ r.data = r₀.data ∧
   r.vectorClock = x.vectorClock ∧
   (r.lastModified = x.timestamp ∨ r.lastModified = r₀.lastModified)

def seenAt (A : List ChangeEntry) (k : String) : Set ChangeEntry :=
 {x | x ∈ A ∧ x.key.string = k}

variable {A : List ChangeEntry}

lemma seenAt_cons_self {x : ChangeEntry} :
  seenAt (x::A) x.key.string = insert x (seenAt A x.key.string) := by
 ext y
 simp only [seenAt,mem_cons,Set.mem_ofPred_eq,Set.mem_insert_iff]
 constructor
 · rintro ⟨rfl | hy,hk⟩
   · exact .inl rfl
   · exact .inr ⟨hy,hk⟩
 · rintro (rfl | ⟨hy,hk⟩)
   · exact ⟨.inl rfl,rfl⟩
   · exact ⟨.inr hy,hk⟩

lemma seenAt_cons_ne {x : ChangeEntry} {k : String} (h : k ≠ x.key.string) :
  seenAt (x::A) k = seenAt A k := by
 ext y
 simp only [seenAt,mem_cons,Set.mem_ofPred_eq]
 constructor
 · rintro ⟨rfl | hy,hk⟩
   · exact absurd hk.symm h
   · exact ⟨hy,hk⟩
 · rintro ⟨hy,hk⟩
   exact ⟨.inr hy,hk⟩

attribute [local simp] changeEntryToProto

section
variable {S : Set ChangeEntry} {A : List ChangeEntry} {y e : ChangeEntry}

lemma beatsIn_of_lt (hy : y ∈ S) (he : e ∈ S) (hk : y.key.string = e.key.string)
  (hl : e.vectorClock.get < y.vectorClock.get) : BeatsIn S y e :=
 ⟨hy,he,hk,.inl hl⟩

lemma transGen_of_lt (hS : ∀ x ∈ A, x ∈ S) (hy : y ∈ S)
  (hl : ∀ x ∈ A, x.vectorClock.get < y.vectorClock.get) :
  ∀ x ∈ seenAt A y.key.string, Relation.TransGen (BeatsIn S) y x := by
 intro x ⟨hx,hk⟩
 exact .single (beatsIn_of_lt hy (hS x hx) hk.symm (hl x hx))

variable (g : Register)

lemma shows_apply (hp : Produced y) :
  Shows (g.apply (changeEntryToProto y)).live (if y.type = .deleted then none else some y) := by
 cases hr : y.resource with
 | none =>
  have hde : y.type = .deleted := hp.deletes_iff.mpr hr
  simp [apply,hde,ChangeType.toWire,Shows]
 | some r₀ =>
  have hde : ¬ y.type = .deleted := fun h => by simp [hp.deletes_iff.mp h] at hr
  rw [if_neg hde]
  have hl : (g.apply (changeEntryToProto y)).live = some (changeEntryToProto y).tracked := by
   cases ht : y.type with
   | created | updated => simp [apply,ht,ChangeType.toWire]
   | deleted => exact absurd ht hde
  exact ⟨_,r₀,hl,hr,by simp [ResourceChange.tracked,hr],rfl,.inl rfl⟩

lemma shows_put (hp : Produced y) (hde : ¬ y.Deletes) :
  Shows (g.put (changeEntryToProto y).tracked).live (some y) := by
 obtain ⟨r₀,hr⟩ := ne_none_iff_exists'.mp fun h => hde (hp.deletes_iff.mpr h)
 exact ⟨_,r₀,rfl,hr,by simp [ResourceChange.tracked,hr],rfl,.inl rfl⟩

lemma settled_apply (hp : Produced y)
  (ha : ∀ x ∈ seenAt A y.key.string, Relation.TransGen (BeatsIn S) y x) :
  ∃ l, Shows (g.apply (changeEntryToProto y)).live l ∧
   Settled (BeatsIn S) ChangeEntry.Deletes (seenAt (y::A) y.key.string) l := by
 refine ⟨_,shows_apply g hp,?_⟩
 rw [seenAt_cons_self]
 split_ifs with hde
 · exact Settled.erase hde ha
 · exact Settled.write hde ha

lemma lastModified_lt_iff {r r₀ : TrackedResource} (he : e.resource = some r₀)
  (hm : r.lastModified = e.timestamp ∨ r.lastModified = r₀.lastModified)
  (hed : ¬ e.Deletes) (hde : e.Prevails y ∨ y.Prevails e) :
  r.lastModified < y.timestamp ↔ y.Prevails e := by
 have ho : e.storedAt = r₀.lastModified := by simp [ChangeEntry.storedAt,he]
 constructor
 · intro hlt
   rcases hde with hey | hye
   · obtain ⟨-,hle,hc⟩ := hey
     have ht : y.timestamp ≤ e.timestamp := by
      rcases hc with ⟨-,ht⟩ | ⟨-,ht,-⟩
      · exact ht
      · exact ht.le
     have hk : y.timestamp ≤ r.lastModified := by
      rcases hm with hl | hl
      · exact hl ▸ ht
      · exact hl ▸ ho ▸ hle
     exact absurd hlt (not_lt.mpr hk)
   · exact hye
 · rintro ⟨-,-,hc⟩
   rcases hc with ⟨hdl,-⟩ | ⟨-,ht,hst⟩
   · exact absurd hdl hed
   · rcases hm with hl | hl
     · exact hl ▸ ht
     · exact hl ▸ ho ▸ hst

section
variable {co : Codec} {cfg : Config} {g : Register} {l : Option ChangeEntry}
 (hres : Resolvable S) (hS : ∀ x ∈ A, x ∈ S) (hy : y ∈ S) (hnew : y ∉ A) (hp : Produced y)

include hres hS hy hnew hp

lemma settled_receive_empty (ha : ¬ y.Deletes → ∀ x ∈ A, x.Deletes → x.key.string = y.key.string →
      ¬ y.vectorClock.get < x.vectorClock.get) (hli : g.live = none)
  (hse : Settled (BeatsIn S) ChangeEntry.Deletes (seenAt A y.key.string) none) (d m : Instant) :
  ∃ l', Shows (g.receive co cfg (changeEntryToProto y) d m).live l' ∧
   Settled (BeatsIn S) ChangeEntry.Deletes (seenAt (y::A) y.key.string) l' := by
 have hr : g.receive co cfg (changeEntryToProto y) d m = g.apply (changeEntryToProto y) := by
  unfold receive
  rw [hli]
 refine ⟨_,hr ▸ shows_apply g hp,?_⟩
 rw [seenAt_cons_self]
 split_ifs with hde
 · exact hse.stay_empty hde
 · -- Of the deletions seen, each is before the change or loses to it by its timestamp.
   refine hse.fill hde ?_
   intro x ⟨hx,hk⟩ hxd
   refine ⟨hy,hS x hx,hk.symm,?_⟩
   by_cases hl : x.vectorClock.get < y.vectorClock.get
   · exact .inl hl
   · have hn := ha hde x hx hxd hk
     have hc := (concurrent_iff x.vectorClock y.vectorClock).mpr ⟨hl,hn⟩
     have hne : x ≠ y := fun hq => hnew (hq ▸ hx)
     rcases hres.decided x (hS x hx) y hy hne hk hc fun h => hde h.2 with hxy | hyx
     · exact absurd hxd hxy.1
     · exact .inr ⟨hc,hyx⟩

variable (hlww : cfg.conflictResolutionStrategy = .lastWriterWins)
include hlww

lemma settled_receive_concurrent
  (hse : Settled (BeatsIn S) ChangeEntry.Deletes (seenAt A y.key.string) (some e))
  (hh : Shows g.live (some e)) (hc : e.vectorClock.concurrent y.vectorClock = true)
  (d m : Instant) : ∃ l', Shows (g.receive co cfg (changeEntryToProto y) d m).live l' ∧
   Settled (BeatsIn S) ChangeEntry.Deletes (seenAt (y::A) y.key.string) l' := by
 obtain ⟨r,r₀,hl,her,ha,hcl,hm⟩ := hh
 have hA : e ∈ A := hse.1.1
 have hk : e.key.string = y.key.string := hse.1.2
 have hed : ¬ e.Deletes := hse.2.1
 have hr : g.receive co cfg (changeEntryToProto y) d m =
   if r.lastModified < y.timestamp then g.put (changeEntryToProto y).tracked else g := by
  have ho : r.vectorClock.concurrent y.vectorClock = true := hcl ▸ hc
  unfold receive conflict
  rw [hl,hlww]
  exact if_pos ho
 have hn : e ≠ y := fun hq => hnew (hq ▸ hA)
 have hde := hres.decided e (hS e hA) y hy hn hk hc fun h => hed h.1
 have hf := lastModified_lt_iff her hm hed hde
 rw [hr,seenAt_cons_self]
 split_ifs with ht
 · have hw := hf.mp ht
   refine ⟨some y,shows_put g hp hw.1,Settled.write hw.1 ?_⟩
   exact hse.trans_of_beats ⟨hy,hS e hA,hk.symm,.inr ⟨hc,hw⟩⟩
 · have hke := hde.resolve_right fun h => ht (hf.mpr h)
   refine ⟨some e,⟨r,r₀,hl,her,ha,hcl,hm⟩,hse.keep ?_⟩
   have hc' : y.vectorClock.concurrent e.vectorClock = true := by
    rw [concurrent_iff] at hc ⊢
    exact hc.symm
   exact ⟨hS e hA,hy,hk,.inr ⟨hc',hke⟩⟩

lemma settled_receive
  (hsa : ¬ y.Deletes → g.live = none → ∀ x ∈ A, x.Deletes → x.key.string = y.key.string →
      ¬ y.vectorClock.get < x.vectorClock.get) (hh : Shows g.live l)
  (hse : Settled (BeatsIn S) ChangeEntry.Deletes (seenAt A y.key.string) l) (d m : Instant) :
  ∃ l', Shows (g.receive co cfg (changeEntryToProto y) d m).live l' ∧
   Settled (BeatsIn S) ChangeEntry.Deletes (seenAt (y::A) y.key.string) l' := by
 cases l with
 | none =>
  have hl : g.live = none := hh
  exact settled_receive_empty hres hS hy hnew hp (fun hde => hsa hde hl) hl hse d m
 | some e =>
  by_cases hc : e.vectorClock.concurrent y.vectorClock = true
  · exact settled_receive_concurrent hres hS hy hnew hp hlww hse hh hc d m
  · obtain ⟨r,r₀,hl,her,hda,hcl,hm⟩ := hh
    have heS := hS e hse.1.1
    have hk : e.key.string = y.key.string := hse.1.2
    rw [← hcl] at hc
    by_cases hb : y.vectorClock.get < r.vectorClock.get
    · have hr : g.receive co cfg (changeEntryToProto y) d m = g := by
       unfold receive
       rw [hl]
       exact (if_neg hc).trans (if_pos ((happenedBefore_iff _ _).mpr hb))
      rw [hr,seenAt_cons_self]
      refine ⟨some e,⟨r,r₀,hl,her,hda,hcl,hm⟩,hse.keep ?_⟩
      exact beatsIn_of_lt heS hy hk (hcl ▸ hb)
    · have ha : r.vectorClock.get < y.vectorClock.get := by
       by_contra hn
       exact hc ((concurrent_iff _ _).mpr ⟨hn,hb⟩)
      have hch : r.vectorClock.get < (changeEntryToProto y).vectorClock.get := ha
      rw [receive_of_lt co cfg d m hl hch]
      refine settled_apply g hp (hse.trans_of_beats ?_)
      exact beatsIn_of_lt hy heS hk.symm (hcl ▸ ha)

end

end

structure Replica (S : Set ChangeEntry) (s : Server) (A : List ChangeEntry) : Prop where
 lww : s.config.conflictResolutionStrategy = .lastWriterWins
 nonneg : 0 ≤ s.vectorClock.get
 bound : ∀ x ∈ A, x.vectorClock.get ≤ s.vectorClock.get
 settled : (∀ x ∈ A, x ∈ S) → ∀ k, ∃ l, Shows (s.register k).live l ∧
  Settled (BeatsIn S) ChangeEntry.Deletes (seenAt A k) l

namespace Replica
variable {S : Set ChangeEntry} {s : Server} {A : List ChangeEntry}

lemma newServer {cfg : Config} (h : cfg.conflictResolutionStrategy = .lastWriterWins) :
  Replica S (newServer cfg) [] := by
 refine ⟨h,(clockBound_newServer cfg).nonneg,by simp,?_⟩
 intro _ k
 have hse : seenAt [] k = ∅ := by
  ext x
  simp [seenAt]
 exact ⟨none,rfl,hse ▸ Settled.empty⟩

lemma recordLocalChange (h : Replica S s A) (id : String) (key : ResourceKey) (t : ChangeType)
  (data : Bytes) (lbs : KeyedMap String String) (sp sto : Instant)
  (hm : s.vectorClock.get s.config.localMember < maxInt64) :
  Replica S (s.recordLocalChange id key t data lbs sp sto)
   (s.localEntry id key t data lbs sp sto::A) := by
 have hl := lt_increment hm
 have hc := vectorClock_localEntry s id key t data lbs sp sto
 refine ⟨?_,?_,?_,?_⟩
 · rw [config_recordLocalChange]
   exact h.lww
 · rw [vectorClock_recordLocalChange]
   exact h.nonneg.trans hl.le
 · intro x hx
   rw [vectorClock_recordLocalChange]
   rcases mem_cons.mp hx with rfl | hx
   · exact hc ▸ le_rfl
   · exact (h.bound x hx).trans hl.le
 · intro hS k
   have hyS := hS _ mem_cons_self
   have hAS : ∀ x ∈ A, x ∈ S := fun x hx => hS x (mem_cons_of_mem _ hx)
   have hke : (s.localEntry id key t data lbs sp sto).key = key := by cases t <;> rfl
   rw [register_recordLocalChange]
   split_ifs with hk
   · have ha := transGen_of_lt (y := s.localEntry id key t data lbs sp sto) hAS hyS
      fun x hx => hc ▸ (h.bound x hx).trans_lt hl
     have hse := seenAt_cons_self (A := A) (x := s.localEntry id key t data lbs sp sto)
     rw [hke] at hse
     rw [hk,hse]
     cases t with
     | created | updated =>
      refine ⟨some _,⟨_,_,rfl,rfl,rfl,rfl,.inr rfl⟩,Settled.write ?_ ha⟩
      simp
     | deleted => exact ⟨none,rfl,Settled.erase rfl ha⟩
   · rw [seenAt_cons_ne (hke.symm ▸ hk)]
     exact h.settled hAS k

lemma deliver {co : Codec} (h : Replica S s A) (hres : Resolvable S) {y : ChangeEntry}
  (hp : Produced y) (hnew : y ∉ A)
  (ha : ¬ y.Deletes → (s.register y.key.string).live = none → ∀ x ∈ A, x.Deletes →
   x.key.string = y.key.string → ¬ y.vectorClock.get < x.vectorClock.get)
  (p : String) (d m : Instant) :
  Replica S (s.handleResourceChange co p (changeEntryToProto y) d m).1 (y::A) := by
 have hl := s.vectorClock.le_mergeMap y.vectorClock
 have hc : (s.handleResourceChange co p (changeEntryToProto y) d m).1.vectorClock =
   s.vectorClock.mergeMap y.vectorClock := vectorClock_handleResourceChange ..
 refine ⟨?_,?_,?_,?_⟩
 · rw [config_handleResourceChange]
   exact h.lww
 · rw [hc]
   exact h.nonneg.trans hl
 · intro x hx
   rw [hc]
   rcases mem_cons.mp hx with rfl | hx
   · exact mergeMap_ge h.nonneg _
   · exact (h.bound x hx).trans hl
 · intro hS k
   have hyS := hS y mem_cons_self
   have hAS : ∀ x ∈ A, x ∈ S := fun x hx => hS x (mem_cons_of_mem _ hx)
   have hke : (changeEntryToProto y).key.string = y.key.string := rfl
   obtain ⟨l,hh,hse⟩ := h.settled hAS k
   rw [register_handleResourceChange,hke]
   split_ifs with hk
   · subst hk
     exact settled_receive hres hAS hyS hnew hp h.lww ha hh hse d m
   · rw [seenAt_cons_ne hk]
     exact ⟨l,hh,hse⟩

lemma cleanupTombstones (h : Replica S s A) (now : Instant) :
  Replica S (s.cleanupTombstones now) A := by
 refine ⟨h.lww,h.nonneg,h.bound,?_⟩
 intro hS k
 exact h.settled hS k

end Replica

structure FederationInv (S : Set ChangeEntry) (F : FederationState) : Prop where
 produced : ∀ x ∈ F.log, Produced x
 replica : ∀ m, Replica S (F.server m) (F.applied m)

variable {S : Set ChangeEntry} {F : FederationState}

lemma replica_update (h : ∀ m, Replica S (F.server m) (F.applied m)) (mem : String)
  {s : Server} (hs : Replica S s A) (m : String) :
  Replica S (Function.update F.server mem s m) (Function.update F.applied mem A m) := by
 by_cases hm : m = mem
 · subst hm
   rw [update_self,update_self]
   exact hs
 · rw [update_of_ne hm,update_of_ne hm]
   exact h m

lemma federationInv_step {co : Codec} (hres : Resolvable S) (h : FederationInv S F)
  (op : FederationOp) (hn : F.enabled op = true) (ha : DeletionSafe F op) :
  FederationInv S (F.step co op) := by
 cases op with
 | recordLocalChange member id key t data labels stamp stored =>
  refine ⟨?_,replica_update h.replica member
   ((h.replica member).recordLocalChange id key t data labels stamp stored ha)⟩
  intro x hx
  rcases mem_append.mp hx with hx | hx
  · exact h.produced x hx
  · obtain rfl := mem_singleton.mp hx
    exact produced_localEntry ..
 | deliver member idx peerName d m =>
  simp only [FederationState.enabled] at hn
  simp only [FederationState.step]
  cases hy : F.log[idx]? with
  | none => exact h
  | some y =>
   simp only [hy,Bool.and_eq_true,decide_eq_true_eq] at hn
   have hp := h.produced y (mem_of_getElem? hy)
   exact ⟨h.produced,replica_update h.replica member
    ((h.replica member).deliver hres hp hn.1 (ha y hy) peerName d m)⟩
 | cleanupTombstones member now =>
  refine ⟨h.produced,?_⟩
  intro m
  have hu := replica_update h.replica member ((h.replica member).cleanupTombstones now) m
  rwa [update_eq_self] at hu

lemma federationInv_reachable {co : Codec} (hres : Resolvable S)
  (h : ((federationSystem co).restrict DeletionSafe).Reachable F) : FederationInv S F := by
 refine h.invariant ?_ ?_
 · intro F hF
   refine ⟨by simp [hF.log],?_⟩
   intro m
   obtain ⟨config,hse,-,hlww⟩ := hF.server m
   rw [hse,hF.applied m]
   exact Replica.newServer hlww
 · rintro F op G hF ⟨⟨rfl,hn⟩,ha⟩
   exact federationInv_step hres hF op hn ha

lemma Shows.content {live : Option TrackedResource} {l : Option ChangeEntry} (h : Shows live l) :
  live.map (fun r => (r.data,r.vectorClock)) =
   l.bind fun x => x.resource.map fun r₀ => (r₀.data,x.vectorClock) := by
 cases l with
 | none =>
  have hn : live = none := h
  rw [hn]
  rfl
 | some x =>
  obtain ⟨r,r₀,rfl,hx,ha,hc,-⟩ := h
  simp [hx,ha,hc]

/-- Timestamps must resolve the conflicts, and deletions must be safe. -/
theorem federation_converges (codec : Codec) (F : FederationState)
  (h : ((federationSystem codec).restrict DeletionSafe).Reachable F) (m n : String)
  (hsame : ∀ x, x ∈ F.applied m ↔ x ∈ F.applied n)
  (hres : Resolvable {x | x ∈ F.applied m}) : Converged F m n := by
 have hn := federationInv_reachable hres h
 intro k
 obtain ⟨l,hh,ht⟩ := (hn.replica m).settled (fun x hx => hx) k
 obtain ⟨l',hh',hs'⟩ := (hn.replica n).settled (fun x hx => (hsame x).mpr hx) k
 have hse : seenAt (F.applied n) k = seenAt (F.applied m) k := by
  ext x
  exact and_congr_left fun _ => (hsame x).symm
 rw [hse] at hs'
 have ha := ht.agree hres.acyclic hs'
 rw [hh.content,hh'.content,ha]

def sampleFederation : FederationState where
 server m := newServer (sampleConfig m .lastWriterWins)
 log := []
 applied _ := []

lemma sampleFederation_fresh : FreshFederation sampleFederation :=
 ⟨rfl,fun _ => rfl,fun m => ⟨sampleConfig m .lastWriterWins,rfl,rfl,rfl⟩⟩

def deletionOvertakes : List FederationOp :=
 [.recordLocalChange "a" "1" sampleKey .created emptyObject ∅ 10 11,.deliver "b" 0 "a" 12 13,
  .recordLocalChange "b" "2" sampleKey .deleted [] ∅ 20 21,.deliver "a" 1 "b" 22 23,
  .deliver "c" 1 "b" 24 25,.deliver "c" 0 "a" 26 27]

theorem deletion_overtakes_creation : ∃ F, (federationSystem emptyObjectCodec).Reachable F ∧
      (∀ x, x ∈ F.applied "a" ↔ x ∈ F.applied "c") ∧ ¬ Converged F "a" "c" := by
 refine ⟨deletionOvertakes.foldl (FederationState.step emptyObjectCodec) sampleFederation,
  ?_,?_,?_⟩
 · have hr : (federationSystem emptyObjectCodec).Reachable sampleFederation :=
    .start sampleFederation_fresh
   have hn : Along (FederationState.step emptyObjectCodec)
     (fun F op => F.enabled op = true) sampleFederation deletionOvertakes :=
    ⟨rfl,by decide,rfl,by decide,by decide,by decide,trivial⟩
   exact hr.foldl hn fun _ _ h => ⟨rfl,h⟩
 · intro x
   exact (List.Perm.swap _ _ []).mem_iff
 · intro hc
   have hk : none = some _ := hc sampleKey.string
   exact some_ne_none _ hk.symm

def concurrentWrites : List FederationOp :=
 [.recordLocalChange "a" "1" sampleKey .created emptyObject ∅ 10 11,
  .recordLocalChange "b" "2" sampleKey .created [] ∅ 20 21,
  .deliver "a" 1 "b" 22 23,.deliver "b" 0 "a" 24 25]

def earlierWrite : ChangeEntry :=
 (sampleFederation.server "a").localEntry "1" sampleKey .created emptyObject ∅ 10 11

def laterWrite : ChangeEntry :=
 (sampleFederation.server "b").localEntry "2" sampleKey .created [] ∅ 20 21

lemma laterWrite_prevails : laterWrite.Prevails earlierWrite :=
 ⟨by decide,by decide,.inr ⟨by decide,by decide,by decide⟩⟩

lemma not_earlierWrite_beats : ¬ earlierWrite.Beats laterWrite := by
 rintro (hl | ⟨-,-,hle,-⟩)
 · rw [← happenedBefore_iff] at hl
   cases hl
 · cases hle

lemma resolvable_concurrentWrites : Resolvable {x | x ∈ [laterWrite,earlierWrite]} := by
 have hm : ∀ x, x ∈ [laterWrite,earlierWrite] → x = laterWrite ∨ x = earlierWrite := by simp
 constructor
 · intro x hx y hy hn _ _ _
   rcases hm x hx with rfl | rfl <;> rcases hm y hy with rfl | rfl
   · exact absurd rfl hn
   · exact .inl laterWrite_prevails
   · exact .inr laterWrite_prevails
   · exact absurd rfl hn
 · have hr : ∀ y x, BeatsIn {x | x ∈ [laterWrite,earlierWrite]} y x →
     x.timestamp < y.timestamp := by
    rintro y x ⟨hy,hx,-,hb⟩
    rcases hm y hy with rfl | rfl <;> rcases hm x hx with rfl | rfl
    · exact absurd hb (ChangeEntry.not_beats_self _)
    · decide
    · exact absurd hb not_earlierWrite_beats
    · exact absurd hb (ChangeEntry.not_beats_self _)
   intro x hc
   have hl : ∀ z, Relation.TransGen (BeatsIn {x | x ∈ [laterWrite,earlierWrite]}) x z →
     z.timestamp < x.timestamp := by
    intro z hz
    induction hz with
    | single hb => exact hr _ _ hb
    | tail _ hb ih => exact (hr _ _ hb).trans ih
   exact lt_irrefl _ (hl x hc)

theorem federation_converges_after_concurrent_writes :
  Converged (concurrentWrites.foldl (FederationState.step emptyObjectCodec) sampleFederation)
   "a" "b" := by
 have hr : ((federationSystem emptyObjectCodec).restrict DeletionSafe).Reachable
   sampleFederation := .start sampleFederation_fresh
 have ha : Along (FederationState.step emptyObjectCodec)
   (fun F op => F.enabled op = true ∧ DeletionSafe F op) sampleFederation concurrentWrites := by
  refine ⟨⟨rfl,?_⟩,⟨rfl,?_⟩,⟨by decide,?_⟩,⟨by decide,?_⟩,trivial⟩
  · change _ < maxInt64
    decide
  · change _ < maxInt64
    decide
  · intro y hy _ hn
    cases hy
    exact absurd hn (some_ne_none _)
  · intro y hy _ hn
    cases hy
    exact absurd hn (some_ne_none _)
 have hre := hr.foldl ha fun _ _ h => ⟨⟨rfl,h.1⟩,h.2⟩
 refine federation_converges emptyObjectCodec _ hre "a" "b" ?_ resolvable_concurrentWrites
 intro x
 exact (List.Perm.swap _ _ []).mem_iff

end NovaEdge.Federation
