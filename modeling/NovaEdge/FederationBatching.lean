import NovaEdge.FederationFullSync

/-! The batches of a full synchronisation as they go over the stream. The index arithmetic is that
of the source on signed integers: a negative batch size would panic, and a batch size of zero would
never advance. -/
namespace NovaEdge.Federation
open List

def safeIntToInt32 (v : ℤ) : Int32 :=
 if Int32.maxValue.toInt < v then Int32.maxValue
 else if v < Int32.minValue.toInt then Int32.minValue
 else Int32.ofInt v

structure NumberedBatch extends ResourceBatch where
 (batchNumber totalResources : Int32)
 vectorClock : VectorClock

inductive Sending
 | finished (batches : List NumberedBatch)
 | panicked
 | running

def Sending.after (batch : NumberedBatch) : Sending → Sending
 | .finished batches => .finished (batch::batches)
 | other => other

def goSlice {α : Type*} (l : List α) (i j : ℤ) : Option (List α) :=
 if 0 ≤ i ∧ i ≤ j ∧ j ≤ l.length then some ((l.drop i.toNat).take (j - i).toNat) else none

def fullSyncLoop (clockAt : ℤ → VectorClock) (resources : List ResourceChange) (batchSize : ℤ) :
  ℕ → ℤ → ℤ → Sending
 | 0, _, _ => .running
 | fuel+1, i, batchNum =>
  if i < resources.length then
   let stop := if (resources.length : ℤ) < i+batchSize then (resources.length : ℤ)
    else i+batchSize
   match goSlice resources i stop with
   | none => .panicked
   | some part =>
    .after
     { isLast := stop = resources.length
       resources := part
       batchNumber := safeIntToInt32 batchNum
       totalResources := safeIntToInt32 resources.length
       vectorClock := clockAt batchNum }
     (fullSyncLoop clockAt resources batchSize fuel (i+batchSize) (batchNum+1))
  else .finished []

namespace FullSyncStream

def sendFullSyncBatches (clockAt : ℤ → VectorClock) (batchSize : Int32) (resources : List ResourceChange)
  (fuel : ℕ) : Sending :=
 if resources.isEmpty then
  .finished [{ isLast := true, resources := [], batchNumber := 0, totalResources := 0
               vectorClock := clockAt 0 }]
 else
  let size := if batchSize.toInt = 0 then (resources.length : ℤ) else batchSize.toInt
  fullSyncLoop clockAt resources size fuel 0 0

end FullSyncStream

def configuredBatchSize (sync : Option Int32) : Int32 :=
 match sync with
 | some n => if 0 < n then n else 100
 | none => 100

inductive FullSyncError
 | batchLimitExceeded
 deriving DecidableEq

namespace FullSyncStream

def recvLoop (batches : List NumberedBatch) :
  List NumberedBatch → Except FullSyncError (List NumberedBatch)
 | [] => .ok batches
 | batch::rest =>
  let batches := batches ++ [batch]
  if maxFullSyncBatches < batches.length then .error .batchLimitExceeded
  else if batch.isLast then .ok batches
  else recvLoop batches rest

def requestFullSync (arriving : List NumberedBatch) : Except FullSyncError (List NumberedBatch) :=
 recvLoop [] arriving

end FullSyncStream
open FullSyncStream

def OnlyLast (flags : List Bool) : Prop := ∃ n, flags = List.replicate n false ++ [true]

lemma configuredBatchSize_pos (sync : Option Int32) : 0 < (configuredBatchSize sync).toInt := by
 have h100 : 0 < (100 : Int32).toInt := by decide
 unfold configuredBatchSize
 cases sync with
 | none => exact h100
 | some n =>
  dsimp only
  split_ifs with hn
  · have hl := Int32.lt_iff_toInt_lt.mp hn
    simpa using hl
  · exact h100

lemma OnlyLast.cons_iff {b : Bool} {fla : List Bool} :
  OnlyLast (b::fla) ↔ b = true ∧ fla = [] ∨ b = false ∧ OnlyLast fla := by
 constructor
 · rintro ⟨n,hn⟩
   cases n with
   | zero => exact .inl (by simpa using hn)
   | succ n =>
    rw [replicate_succ,cons_append,List.cons.injEq] at hn
    exact .inr ⟨hn.1,n,hn.2⟩
 · rintro (⟨rfl,rfl⟩ | ⟨rfl,n,rfl⟩)
   · exact ⟨0,rfl⟩
   · exact ⟨n+1,rfl⟩

lemma onlyLast_batchLoop {size : ℕ} (hsi : 0 < size) (fuel : ℕ) (rest : List ResourceChange)
  (hn : rest ≠ []) (hf : rest.length ≤ fuel) :
  OnlyLast ((Server.batchLoop size fuel rest).map ResourceBatch.isLast) := by
 induction fuel generalizing rest with
 | zero => exact absurd (length_eq_zero_iff.mp (Nat.le_zero.mp hf)) hn
 | succ fuel ih =>
  have hm : rest.isEmpty = false := by simp [hn]
  have hl := length_pos_of_ne_nil hn
  rw [Server.batchLoop,hm,if_neg (by simp),map_cons,OnlyLast.cons_iff]
  by_cases ho : rest.drop size = []
  · have ht : Server.batchLoop size fuel [] = [] := by cases fuel <;> rfl
    exact .inl (by simp [ho,ht])
  · have hr : (rest.drop size).length ≤ fuel := by
     rw [length_drop]
     omega
    exact .inr ⟨by simp [ho],ih _ ho hr⟩

section
variable (ca : ℤ → VectorClock) {rs : List ResourceChange} {size : ℕ}

lemma fullSyncLoop_of_lt {i : ℕ} (hi : i < rs.length) (fuel : ℕ) (bn : ℤ) :
  fullSyncLoop ca rs size (fuel+1) i bn = .after
    { isLast := ((rs.drop i).drop size).isEmpty
      resources := (rs.drop i).take size
      batchNumber := safeIntToInt32 bn
      totalResources := safeIntToInt32 rs.length
      vectorClock := ca bn }
    (fullSyncLoop ca rs size fuel ((i+size : ℕ) : ℤ) (bn+1)) := by
 have ht : (i : ℤ) < rs.length := by exact_mod_cast hi
 rw [fullSyncLoop,if_pos ht]
 by_cases hn : (rs.length : ℤ) < i+size
 · have hl : goSlice rs i rs.length = some ((rs.drop i).take size) := by
    rw [goSlice,if_pos ⟨by omega,by omega,le_rfl⟩]
    have ha : (rs.drop i).length ≤ size := by
     rw [length_drop]
     omega
    rw [take_of_length_le ha,Int.toNat_natCast,take_of_length_le]
    rw [length_drop]
    omega
   have hla : ((rs.drop i).drop size).isEmpty = true := by
    simp only [List.drop_drop,List.isEmpty_iff,List.drop_eq_nil_iff]
    omega
   simp only [if_pos hn,hl,hla,decide_true,Nat.cast_add]
 · have hl : goSlice rs i (i+size) = some ((rs.drop i).take size) := by
    rw [goSlice,if_pos ⟨by omega,by omega,by omega⟩]
    congr 2
    · omega
   have hla : ((rs.drop i).drop size).isEmpty =
     decide ((i : ℤ)+size = rs.length) := by
    rw [Bool.eq_iff_iff]
    simp only [List.drop_drop,List.isEmpty_iff,List.drop_eq_nil_iff,decide_eq_true_eq]
    omega
   simp only [if_neg hn,hl,hla,Nat.cast_add]

/-- With a positive size every round moves on, and the loop sends what the loop over the rest
sends. -/
lemma fullSyncLoop_finishes (hsi : 0 < size) (fuel fue' i : ℕ) (bn : ℤ)
  (hf : (rs.drop i).length < fuel) (hf' : (rs.drop i).length ≤ fue') :
  ∃ bts, fullSyncLoop ca rs size fuel i bn = .finished bts ∧
   bts.map NumberedBatch.toResourceBatch = Server.batchLoop size fue' (rs.drop i) := by
 induction fuel generalizing i bn fue' with
 | zero => omega
 | succ fuel ih =>
  rw [length_drop] at hf hf'
  by_cases hi : i < rs.length
  · obtain ⟨fue',rfl⟩ : ∃ n, fue' = n+1 := Nat.exists_eq_succ_of_ne_zero (by omega)
    have hr : (rs.drop (i+size)).length < fuel ∧
      (rs.drop (i+size)).length ≤ fue' := by
     rw [length_drop]
     omega
    obtain ⟨bts,hl,hm⟩ := ih fue' (i+size) (bn+1) hr.1 hr.2
    have hne : (rs.drop i).isEmpty = false := by
     simp only [isEmpty_eq_false_iff,ne_eq,List.drop_eq_nil_iff]
     omega
    refine ⟨_,by rw [fullSyncLoop_of_lt ca hi,hl]; rfl,?_⟩
    rw [map_cons,hm,Server.batchLoop,hne,if_neg (by simp),List.drop_drop]
  · have hg : ¬ (i : ℤ) < rs.length := by omega
    have hn : rs.drop i = [] := drop_eq_nil_of_le (by omega)
    refine ⟨[],by rw [fullSyncLoop,if_neg hg],?_⟩
    rw [hn]
    cases fue' <;> rfl

lemma fullSyncLoop_mono {bs : ℤ} {fuel fue' : ℕ} (hle : fuel ≤ fue') (i bn : ℤ)
  {bts : List NumberedBatch}
  (h : fullSyncLoop ca rs bs fuel i bn = .finished bts) :
  fullSyncLoop ca rs bs fue' i bn = .finished bts := by
 induction fuel generalizing fue' i bn bts with
 | zero => cases h
 | succ fuel ih =>
  obtain ⟨fue',rfl⟩ : ∃ n, fue' = n+1 := Nat.exists_eq_succ_of_ne_zero (by omega)
  by_cases hi : i < rs.length
  · rw [fullSyncLoop,if_pos hi] at h ⊢
    cases hl : goSlice rs i (if (rs.length : ℤ) < i+bs then
      (rs.length : ℤ) else i+bs) with
    | none => simp [hl] at h
    | some part =>
     simp only [hl] at h ⊢
     cases hr : fullSyncLoop ca rs bs fuel (i+bs) (bn+1) with
     | finished rest =>
      rw [hr] at h
      rw [ih (by omega) _ _ hr]
      exact h
     | panicked | running =>
      rw [hr] at h
      cases h
  · rw [fullSyncLoop,if_neg hi] at h ⊢
    exact h

end

lemma recvLoop_of_onlyLast (bts acc : List NumberedBatch)
  (h : OnlyLast (bts.map fun b => b.isLast)) :
  recvLoop acc bts =
   if acc.length+bts.length ≤ maxFullSyncBatches then .ok (acc ++ bts)
   else .error .batchLimitExceeded := by
 induction bts generalizing acc with
 | nil =>
  obtain ⟨n,hn⟩ := h
  simp at hn
 | cons b rest ih =>
  rw [map_cons,OnlyLast.cons_iff] at h
  rw [recvLoop,length_append,length_singleton,length_cons]
  rcases h with ⟨hb,hr⟩ | ⟨hb,hr⟩
  · obtain rfl : rest = [] := map_eq_nil_iff.mp hr
    simp only [hb,if_true,length_nil]
    by_cases hm : maxFullSyncBatches < acc.length+1
    · rw [if_pos hm,if_neg (by omega)]
    · rw [if_neg hm,if_pos (by omega)]
  · simp only [hb,Bool.false_eq_true,if_false]
    rw [ih _ hr,length_append,length_singleton,append_assoc]
    have hu : acc.length+1+rest.length = acc.length+(rest.length+1) := by omega
    by_cases hm : maxFullSyncBatches < acc.length+1
    · rw [if_pos hm,if_neg (by omega)]
    · rw [if_neg hm,hu]
      rfl

lemma sendFullSyncBatches_finishes (ca : ℤ → VectorClock) (s : Server) {bz : Int32}
  (hsi : (s.config.batchSize : ℤ) = bz.toInt) (rs : List ResourceChange) :
  ∃ bts, (∀ fuel, rs.length < fuel →
    sendFullSyncBatches ca bz rs fuel = .finished bts) ∧
   bts.map NumberedBatch.toResourceBatch = s.sendFullSyncBatches rs := by
 unfold sendFullSyncBatches Server.sendFullSyncBatches
 cases hem : rs.isEmpty with
 | true => exact ⟨_,fun _ _ => rfl,rfl⟩
 | false =>
  have hl : 0 < rs.length := length_pos_of_ne_nil (by simpa using hem)
  obtain ⟨size,hp,hin,hn⟩ : ∃ size : ℕ, 0 < size ∧
    (if bz.toInt = 0 then (rs.length : ℤ) else bz.toInt) = size ∧
    (if s.config.batchSize = 0 then rs.length else s.config.batchSize) = size := by
   rw [← hsi]
   by_cases h0 : s.config.batchSize = 0
   · exact ⟨rs.length,hl,by simp [h0],if_pos h0⟩
   · exact ⟨s.config.batchSize,Nat.pos_of_ne_zero h0,by simp [h0],if_neg h0⟩
  rw [hin,hn]
  obtain ⟨bts,ho,hm⟩ := @fullSyncLoop_finishes ca rs size hp
   (rs.length+1) rs.length 0 0 (by simp) (by simp)
  exact ⟨bts,fun fuel hf => fullSyncLoop_mono ca hf 0 0 ho,hm⟩

lemma sendFullSyncBatches_spec (s : Server) (rs : List ResourceChange) :
  (s.sendFullSyncBatches rs).flatMap ResourceBatch.resources = rs ∧
   OnlyLast ((s.sendFullSyncBatches rs).map ResourceBatch.isLast) := by
 unfold Server.sendFullSyncBatches
 cases hm : rs.isEmpty with
 | true =>
  rw [List.isEmpty_iff] at hm
  exact ⟨by simp [hm],0,rfl⟩
 | false =>
  have hn : rs ≠ [] := by simpa using hm
  have hp : 0 < if s.config.batchSize = 0 then rs.length else s.config.batchSize := by
   split_ifs with h0
   · exact length_pos_of_ne_nil hn
   · exact Nat.pos_of_ne_zero h0
  exact ⟨flatMap_batchLoop hp _ _ le_rfl,onlyLast_batchLoop hp _ _ hn le_rfl⟩

/-- The batches are the list in order, and the client takes them all or reports that they are too
many. -/
theorem full_sync_batching_lossless (clockAt : ℤ → VectorClock) (batchSize : Int32)
  (hsize : batchSize = 0 ∨ ∃ sync, batchSize = configuredBatchSize sync)
  (resources : List ResourceChange) :
  ∃ batches, (∀ fuel, resources.length < fuel →
    sendFullSyncBatches clockAt batchSize resources fuel = .finished batches) ∧
   batches.flatMap (fun b => b.resources) = resources ∧
   OnlyLast (batches.map fun b => b.isLast) ∧
   requestFullSync batches =
    if batches.length ≤ maxFullSyncBatches then .ok batches else .error .batchLimitExceeded := by
 have hn : 0 ≤ batchSize.toInt := by
  rcases hsize with rfl | ⟨sync,rfl⟩
  · exact le_rfl
  · exact (configuredBatchSize_pos sync).le
 -- the server model with this batch size sends the same resources under the same flags
 obtain ⟨batches,hse,hm⟩ := sendFullSyncBatches_finishes clockAt
  (newServer ⟨"",.manual,0,[],batchSize.toInt.toNat⟩) (Int.toNat_of_nonneg hn) resources
 obtain ⟨hf,hl⟩ := sendFullSyncBatches_spec
  (newServer ⟨"",.manual,0,[],batchSize.toInt.toNat⟩) resources
 rw [← hm] at hf hl
 rw [flatMap_map] at hf
 rw [map_map] at hl
 refine ⟨batches,hse,hf,hl,?_⟩
 have hr := recvLoop_of_onlyLast batches [] hl
 rw [length_nil,Nat.zero_add] at hr
 exact hr

theorem full_sync_batching_lossless_sample :
  let change := fun id => sampleChange id ∅ .created sampleKey emptyObject 5 "b"
  (2 : Int32) = configuredBatchSize (some 2) ∧
   ∃ batches, sendFullSyncBatches (fun _ => ∅) 2 [change "1",change "2",change "3"] 4 =
     .finished batches ∧ batches.map (fun b => b.isLast) = [false,true] ∧
    requestFullSync batches = .ok batches := by
 intro change
 have hc : (2 : Int32) = configuredBatchSize (some 2) := by decide
 obtain ⟨batches,hse,-,-,hr⟩ := full_sync_batching_lossless (fun _ => ∅) 2
  (.inr ⟨_,hc⟩) [change "1",change "2",change "3"]
 have ht := hse 4 (by decide)
 obtain ⟨b,b',rfl,hb,hb'⟩ : ∃ b b', batches = [b,b'] ∧ b.isLast = false ∧ b'.isLast = true :=
  ⟨_,_,(Sending.finished.inj ht).symm,rfl,rfl⟩
 refine ⟨hc,_,ht,by simp [hb,hb'],?_⟩
 rw [hr]
 rfl

end NovaEdge.Federation
