import NovaEdge.ProxyHandler
import NovaEdge.TransitionSystem

/-! Load shedding with one atomic 32-bit counter that all requests share. A request increments it,
compares the old value with the limit and takes its increment back if it is refused, or when it
ends. -/
namespace NovaEdge.Dataplane
open List UInt32 Finset

abbrev RequestId := ℕ

/-- The counter, the requests between their increment and their rejection, and the admitted ones in
flight. -/
@[ext]
structure LoadShed where
 activeRequests : UInt32
 (refusing admitted : Finset RequestId)

/-- How an admitted request ends. Its guard is dropped in every case. -/
inductive ExitPath
 | returned (reply : Reply)
 | cancelled
 | unwound

inductive ShedStep
 | fetchAdd (r : RequestId)
 | reject (r : RequestId)
 | dropGuard (r : RequestId) (exit : ExitPath)

namespace LoadShed

def start : LoadShed := ⟨0,∅,∅⟩

def counted (s : LoadShed) : ℕ := s.admitted.card+s.refusing.card

def InFlight (s : LoadShed) (r : RequestId) : Prop := r ∈ s.refusing ∨ r ∈ s.admitted

instance (s : LoadShed) (r : RequestId) : Decidable (s.InFlight r) :=
 inferInstanceAs (Decidable (r ∈ s.refusing ∨ r ∈ s.admitted))

def step (maxActiveRequests : UInt32) (s : LoadShed) : ShedStep → LoadShed
 | .fetchAdd r =>
  if s.InFlight r then s
  else
   let current := s.activeRequests
   if 0 < maxActiveRequests ∧ maxActiveRequests ≤ current then
    ⟨current+1,insert r s.refusing,s.admitted⟩
   else ⟨current+1,s.refusing,insert r s.admitted⟩
 | .reject r => if r ∈ s.refusing then ⟨s.activeRequests - 1,s.refusing.erase r,s.admitted⟩ else s
 | .dropGuard r _ =>
  if r ∈ s.admitted then ⟨s.activeRequests - 1,s.refusing,s.admitted.erase r⟩ else s

def run (maxActiveRequests : UInt32) (steps : List ShedStep) : LoadShed :=
 steps.foldl (step maxActiveRequests) start

/-- The bound, the meaning of the counter, and that it is zero when no request is in flight. -/
structure Exact (maxActiveRequests : UInt32) (s : LoadShed) : Prop where
 bound : s.admitted.card ≤ maxActiveRequests.toNat
 counter : s.activeRequests.toNat = s.admitted.card+s.refusing.card
 idle : s.admitted = ∅ → s.refusing = ∅ → s.activeRequests = 0

def ExactThroughout (maxActiveRequests : UInt32) (steps : List ShedStep) : Prop :=
 ∀ n, Exact maxActiveRequests (run maxActiveRequests (steps.take n))

def Fits (s : LoadShed) : ShedStep → Prop
 | .fetchAdd r => ¬ s.InFlight r → s.counted+1 < 2 ^ 32
 | .reject _ => True
 | .dropGuard _ _ => True

variable {maxActiveRequests : UInt32} {s : LoadShed}

lemma exact_of (hb : s.admitted.card ≤ maxActiveRequests.toNat)
  (hc : s.activeRequests.toNat = s.admitted.card+s.refusing.card) : Exact maxActiveRequests s := by
 refine ⟨hb,hc,fun ha hr => ?_⟩
 rw [ha,hr,card_empty,Nat.add_zero] at hc
 exact UInt32.toNat_inj.mp hc

lemma exact_start (mar : UInt32) : Exact mar start :=
 exact_of (Nat.zero_le _) rfl

lemma toNat_succ {n : UInt32} (hf : n.toNat+1 < 2 ^ 32) : (n+1).toNat = n.toNat+1 := by
 exact Nat.mod_eq_of_lt hf

lemma toNat_pred {n : UInt32} (hp : 0 < n.toNat) : (n - 1).toNat = n.toNat - 1 := by
 apply UInt32.toNat_sub_of_le
 exact hp

variable {r : RequestId}

lemma step_fetchAdd (hn : ¬ s.InFlight r) (hl : 0 < maxActiveRequests) :
  (s.activeRequests < maxActiveRequests ∧ step maxActiveRequests s (.fetchAdd r) =
    ⟨s.activeRequests+1,s.refusing,insert r s.admitted⟩) ∨ step maxActiveRequests s (.fetchAdd r) =
    ⟨s.activeRequests+1,insert r s.refusing,s.admitted⟩ := by
 simp only [step,if_neg hn]
 by_cases hover : maxActiveRequests ≤ s.activeRequests
 · exact Or.inr (if_pos ⟨hl,hover⟩)
 · exact Or.inl ⟨UInt32.not_le.mp hover,if_neg fun h => hover h.2⟩

lemma counted_fetchAdd (mar : UInt32) (hn : ¬ s.InFlight r) :
  (step mar s (.fetchAdd r)).counted = s.counted+1 := by
 rw [InFlight,not_or] at hn
 simp only [step,InFlight,hn.1,hn.2,or_self,if_false]
 split_ifs
 · simp only [counted,card_insert_of_notMem hn.1]
   omega
 · simp only [counted,card_insert_of_notMem hn.2]
   omega

lemma exact_fetchAdd (hl : 0 < maxActiveRequests) (hex : Exact maxActiveRequests s)
  (hn : ¬ s.InFlight r) (hr : s.counted+1 < 2 ^ 32) :
  Exact maxActiveRequests (step maxActiveRequests s (.fetchAdd r)) := by
 have ho := hex.counter
 have hc := counted_fetchAdd maxActiveRequests hn
 have hu : (s.activeRequests+1).toNat = s.counted+1 := by
  rw [toNat_succ (by rw [ho]; exact hr),ho,counted]
 rcases step_fetchAdd hn hl with ⟨hb,ht⟩ | ht
 · rw [ht] at hc ⊢
   refine exact_of ?_ (hu.trans hc.symm)
   -- the admitted ones are among those counted before, of which there were fewer than the limit
   have hb' := lt_iff_toNat_lt.mp hb
   have ha := card_insert_le r s.admitted
   change (insert r s.admitted).card ≤ _
   omega
 · rw [ht] at hc ⊢
   exact exact_of hex.bound (hu.trans hc.symm)

lemma not_exact_fetchAdd (hn : ¬ s.InFlight r) (hf : 2 ^ 32 ≤ s.counted+1) :
  ¬ Exact maxActiveRequests (step maxActiveRequests s (.fetchAdd r)) := by
 intro hexact
 have ho := hexact.counter
 have hc := counted_fetchAdd maxActiveRequests hn
 rw [counted] at hc
 have hl := (step maxActiveRequests s (.fetchAdd r)).activeRequests.toNat_lt
 omega

section
variable (hex : Exact maxActiveRequests s)
include hex

lemma exact_release {t : LoadShed} (ha : t.admitted.card ≤ s.admitted.card)
  (hc : t.counted+1 = s.counted) (ho : t.activeRequests = s.activeRequests - 1) :
  Exact maxActiveRequests t := by
 have hb : s.activeRequests.toNat = s.counted := hex.counter
 refine exact_of (ha.trans hex.bound) ?_
 rw [ho,toNat_pred (by omega),hb,← hc]
 rfl

lemma exact_reject (r : RequestId) :
  Exact maxActiveRequests (step maxActiveRequests s (.reject r)) := by
 simp only [step]
 split_ifs with hm
 · have hc := card_erase_add_one hm
   refine exact_release hex le_rfl ?_ rfl
   simp only [counted]
   omega
 · exact hex

lemma exact_dropGuard (r : RequestId) (exit : ExitPath) :
  Exact maxActiveRequests (step maxActiveRequests s (.dropGuard r exit)) := by
 simp only [step]
 split_ifs with hm
 · have hc := card_erase_add_one hm
   refine exact_release hex card_erase_le ?_ rfl
   simp only [counted]
   omega
 · exact hex

end

lemma exact_step_iff (hl : 0 < maxActiveRequests) (hex : Exact maxActiveRequests s)
  (i : ShedStep) : Exact maxActiveRequests (step maxActiveRequests s i) ↔ s.Fits i := by
 cases i with
 | fetchAdd r =>
  constructor
  · intro hne hn
    by_contra hf
    exact not_exact_fetchAdd hn (Nat.not_lt.mp hf) hne
  · intro hfi
    by_cases ho : s.InFlight r
    · simpa only [step,if_pos ho] using hex
    · exact exact_fetchAdd hl hex ho (hfi ho)
 | reject r => exact iff_of_true (exact_reject hex r) trivial
 | dropGuard r exit => exact iff_of_true (exact_dropGuard hex r exit) trivial

/-- Shedding is exact throughout a run exactly if every increment finds room in the counter. -/
theorem shedding_exact_iff {maxActiveRequests : UInt32} (hlimit : 0 < maxActiveRequests)
  (steps : List ShedStep) : ExactThroughout maxActiveRequests steps ↔
   Along (step maxActiveRequests) Fits start steps :=
 @forall_take_iff_along _ _ (step maxActiveRequests) Fits (fun _ => True)
  (Exact maxActiveRequests) (fun _ _ _ _ => trivial)
  (fun _ i _ hexact => exact_step_iff hlimit hexact i) _ trivial (exact_start _) steps

theorem second_request_refused : ExactThroughout 1
  [.fetchAdd 0,.fetchAdd 1,.dropGuard 0 .cancelled,.reject 1] := by
 refine (shedding_exact_iff (by decide) _).mpr ⟨fun _ => ?_,fun _ => ?_,trivial,trivial, trivial⟩
 · decide
 · decide

def crowd (n : ℕ) : List ShedStep := (List.range n).map .fetchAdd

lemma crowd_succ (n : ℕ) : crowd (n+1) = crowd n ++ [.fetchAdd n] := by
 rw [crowd,range_succ,map_append]
 rfl

/-- Under a limit of one only the first of them is admitted, as long as the counter does not wrap
around. -/
lemma run_crowd (n : ℕ) (hn : n < 2 ^ 32) :
  run 1 (crowd (n+1)) = ⟨UInt32.ofNat (n+1),Finset.Ico 1 (n+1),{0}⟩ := by
 induction n with
 | zero => rfl
 | succ n ih =>
  have hp := ih (by omega)
  rw [run] at hp
  have hne : ¬ InFlight ⟨UInt32.ofNat (n+1),Finset.Ico 1 (n+1),{0}⟩ (n+1) := by simp [InFlight]
  have hover : (1 : UInt32) ≤ UInt32.ofNat (n+1) := by
   rw [le_iff_toNat_le,toNat_ofNat_of_lt' hn]
   exact Nat.le_add_left 1 n
  rw [run,crowd_succ,foldl_append,hp,foldl_cons,foldl_nil]
  simp only [step,if_neg hne,if_pos (And.intro (by decide : (0 : UInt32) < 1) hover)]
  ext1
  · exact (ofNat_add _ _).symm
  · exact (Nat.Ico_succ_right_eq_insert_Ico (by omega)).symm
  · rfl

/-- After as many requests as the counter has values it is zero again, and one more is admitted. -/
theorem wrapped_counter_admits : ¬ ExactThroughout 1 (crowd (2 ^ 32+1)) := by
 intro hexact
 have hr := run_crowd (2 ^ 32 - 1) (by omega)
 have hu : 2 ^ 32 - 1+1 = 2 ^ 32 := by omega
 rw [hu] at hr
 have hb := (hexact (2 ^ 32+1)).bound
 have ha : (crowd (2 ^ 32+1)).take (2 ^ 32+1) = crowd (2 ^ 32+1) := by
  apply take_of_length_le
  simp only [crowd,length_map,length_range,le_refl]
 have hn : ¬ InFlight ⟨UInt32.ofNat (2 ^ 32),Finset.Ico 1 (2 ^ 32),{0}⟩ (2 ^ 32) := by
  simp [InFlight]
 rw [run] at hr
 rw [ha,run,crowd_succ,foldl_append,hr,foldl_cons,foldl_nil] at hb
 simp only [step,if_neg hn] at hb
 have hc : (insert (2 ^ 32) ({0} : Finset ℕ)).card = 2 := rfl
 have ho : (1 : UInt32).toNat = 1 := rfl
 change (insert (2 ^ 32) ({0} : Finset ℕ)).card ≤ _ at hb
 omega

section
variable (lib : TextLibrary) (eng : PolicyEngines) {h : ProxyHandler} {w : World} {mar : UInt32}
 {s : LoadShed} {id : RequestId} (hl : h.maxActiveRequests = mar.toNat)
 (hre : w.activeRequests = s.activeRequests.toNat) (hn : ¬ s.InFlight id)
include hl hre hn

lemma handleRequestInner_of_refused (hr : id ∈ (step mar s (.fetchAdd id)).refusing)
  (r : HttpRequest) :
  handleRequestInner lib eng h w r = ([],.text 503 "Service Overloaded") := by
 simp only [step,if_neg hn] at hr
 split_ifs at hr with hover
 · rw [handleRequestInner,if_pos]
   rw [hl,hre,← le_iff_toNat_le]
   exact ⟨lt_iff_toNat_lt.mp hover.1,hover.2⟩
 · exact absurd (Or.inl hr) hn

lemma handleRequestInner_of_admitted (ha : id ∈ (step mar s (.fetchAdd id)).admitted)
  (r : HttpRequest) :
  handleRequestInner lib eng h w r = withRoute lib h.router r (serveRoute eng h w r) := by
 simp only [step,if_neg hn] at ha
 split_ifs at ha with hover
 · exact absurd (Or.inr ha) hn
 · rw [handleRequestInner,if_neg]
   rw [hl,hre,← le_iff_toNat_le]
   exact fun h => hover ⟨lt_iff_toNat_lt.mpr h.1,h.2⟩

end

end LoadShed
end NovaEdge.Dataplane
