import NovaEdge.MeshAuthorization

/-! What the authorizer of the mesh agent decides, in terms of the policies that were given and not
of the order in which it keeps them. -/
namespace NovaEdge.Mesh
open List

/-- The same policy with its rules in any order. -/
def Reordered (p q : MeshAuthorizationPolicy) : Prop :=
 { p with rules := q.rules } = q ∧ p.rules.Perm q.rules

def ReorderedAll (policies policies' : List MeshAuthorizationPolicy) : Prop :=
 ∃ mid, policies.Perm mid ∧ Forall₂ Reordered mid policies'

lemma ReorderedAll.exists_iff {pols pol' : List MeshAuthorizationPolicy}
  {P : MeshAuthorizationPolicy → Prop} (h : ReorderedAll pols pol')
  (hP : ∀ p q, Reordered p q → (P p ↔ P q)) : (∃ p ∈ pols, P p) ↔ ∃ q ∈ pol', P q := by
 obtain ⟨mid,hm,h⟩ := h
 simp only [hm.mem_iff]
 clear hm
 induction h with
 | nil => simp
 | cons hp _ ih => simp only [exists_mem_cons_iff,hP _ _ hp,ih]

section
variable (lib : MeshLibrary) (source : SourceIdentity) (destService method path : String)

/-- A policy with the action for the service. -/
def Concerns (action : String) (p : MeshAuthorizationPolicy) : Prop :=
 serviceKey p.targetService p.targetNamespace = destService ∧ lib.equalFold p.action action = true

def Matches (action : String) (p : MeshAuthorizationPolicy) : Prop :=
 Concerns lib destService action p ∧ ∃ r ∈ p.rules, matchRule lib r source method path = true

def decides (policies : List MeshAuthorizationPolicy) : Bool :=
 (Authorizer.updatePolicies policies).authorize lib source destService method path

variable {lib source destService method path}

lemma getD_updatePolicies (pols : List MeshAuthorizationPolicy) :
  (KeyedMap.find? (Authorizer.updatePolicies pols) destService).getD [] =
   pols.filter fun p => serviceKey p.targetService p.targetNamespace = destService := by
 -- over any map to start with, whose policies of the service come first
 suffices h : ∀ acc : Authorizer, (KeyedMap.find? (pols.foldl (fun acc p =>
   let key := serviceKey p.targetService p.targetNamespace
   acc.set key (((KeyedMap.find? acc key).getD []) ++ [p])) acc) destService).getD [] =
    (KeyedMap.find? acc destService).getD [] ++
     pols.filter fun p => serviceKey p.targetService p.targetNamespace = destService by
  exact h ∅
 induction pols with
 | nil => simp
 | cons p pols ih =>
  intro acc
  rw [foldl_cons,ih,KeyedMap.find?_set,filter_cons]
  by_cases hk : destService = serviceKey p.targetService p.targetNamespace
  · simp [hk]
  · simp [hk,Ne.symm hk]

lemma decides_iff (pols : List MeshAuthorizationPolicy) :
  decides lib source destService method path pols = true ↔
   (¬ ∃ p ∈ pols, Matches lib source destService method path "DENY" p) ∧
   ((∃ p ∈ pols, Concerns lib destService "ALLOW" p) →
    ∃ p ∈ pols, Matches lib source destService method path "ALLOW" p) := by
 unfold decides Authorizer.authorize
 rw [getD_updatePolicies]
 simp only [Matches,Concerns]
 split_ifs with hn hd ha
 · simp only [filter_eq_nil_iff,decide_eq_true_eq] at hn
   simp only [true_iff]
   exact ⟨fun ⟨p,hp,h⟩ => hn p hp h.1.1,fun ⟨p,hp,h⟩ => absurd h.1 (hn p hp)⟩
 · simp only [any_eq_true,mem_filter,decide_eq_true_eq,Bool.and_eq_true] at hd
   obtain ⟨p,⟨hp,ht⟩,hf,hr⟩ := hd
   simp only [false_iff,not_and]
   exact fun h => absurd ⟨p,hp,⟨ht,hf⟩,hr⟩ h
 · simp only [any_eq_true,mem_filter,decide_eq_true_eq,Bool.and_eq_true] at hd ha ⊢
   constructor
   · rintro ⟨p,⟨hp,ht⟩,hf,hr⟩
     exact ⟨fun ⟨q,hq,⟨hs,hg⟩,hr⟩ => hd ⟨q,⟨hq,hs⟩,hg,hr⟩,fun _ => ⟨p,hp,⟨ht,hf⟩,hr⟩⟩
   · rintro ⟨-,h⟩
     obtain ⟨p,⟨hp,ht⟩,hf⟩ := ha
     obtain ⟨q,hq,⟨hs,hg⟩,hr⟩ := h ⟨p,hp,ht,hf⟩
     exact ⟨q,⟨hq,hs⟩,hg,hr⟩
 · simp only [any_eq_true,mem_filter,decide_eq_true_eq,Bool.and_eq_true] at hd ha
   simp only [true_iff]
   exact ⟨fun ⟨q,hq,⟨hs,hg⟩,hr⟩ => hd ⟨q,⟨hq,hs⟩,hg,hr⟩,
    fun ⟨p,hp,ht,hf⟩ => absurd ⟨p,⟨hp,ht⟩,hf⟩ ha⟩

lemma concerns_reordered {p q : MeshAuthorizationPolicy} (h : Reordered p q) (act : String) :
  Concerns lib destService act p ↔ Concerns lib destService act q := by
 rw [← h.1]
 rfl

lemma matches_reordered {p q : MeshAuthorizationPolicy} (h : Reordered p q) (act : String) :
  Matches lib source destService method path act p ↔
   Matches lib source destService method path act q := by
 simp only [Matches,concerns_reordered h,h.2.mem_iff]

end

structure DecidesFairly (lib : MeshLibrary) (source : SourceIdentity)
  (destService method path : String) (policies : List MeshAuthorizationPolicy) : Prop where
 order : ∀ policies', ReorderedAll policies policies' →
  decides lib source destService method path policies =
   decides lib source destService method path policies'
 deny : ∀ p ∈ policies, Matches lib source destService method path "DENY" p →
  decides lib source destService method path policies = false
 allow : (∃ p ∈ policies, Concerns lib destService "ALLOW" p) →
  decides lib source destService method path policies = true →
  ∃ p ∈ policies, Matches lib source destService method path "ALLOW" p
 addDeny : ∀ q, lib.equalFold q.action "DENY" = true → ∀ policies', policies'.Perm (q::policies) →
  decides lib source destService method path policies = false →
  decides lib source destService method path policies' = false

/-- Decisions do not depend on the order, deny rules come first, allow policies restrict, and
further deny policies open nothing. -/
theorem mesh_decides_fairly (lib : MeshLibrary) (source : SourceIdentity)
  (destService method path : String) (policies : List MeshAuthorizationPolicy) :
  DecidesFairly lib source destService method path policies where
 order policies' h := by
  rw [Bool.eq_iff_iff,decides_iff,decides_iff,
   h.exists_iff fun _ _ hr => matches_reordered hr "DENY",
   h.exists_iff fun _ _ hr => concerns_reordered hr "ALLOW",
   h.exists_iff fun _ _ hr => matches_reordered hr "ALLOW"]
 deny p hp h := by
  rw [← Bool.not_eq_true,decides_iff]
  exact fun hd => hd.1 ⟨p,hp,h⟩
 allow hc h := ((decides_iff policies).mp h).2 hc
 addDeny q hq policies' hp h := by
  rw [← Bool.not_eq_true,decides_iff] at h ⊢
  simp only [hp.mem_iff,exists_mem_cons_iff,not_or]
  rintro ⟨⟨hn,hd⟩,ha⟩
  refine h ⟨hd,fun hc => ?_⟩
  -- the new policy cannot be the one that allows, as it would deny first
  refine (ha (.inr hc)).resolve_left fun hm => hn ⟨⟨hm.1.1,hq⟩,hm.2⟩

end NovaEdge.Mesh
