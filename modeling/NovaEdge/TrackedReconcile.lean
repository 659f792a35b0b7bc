import NovaEdge.KeyedMapPatch

/-! Reconciliation of a remote set through calls that can fail. A reconciliation adds what is
desired and not tracked, removes what is tracked and no longer desired, and tracks an entry as long
as its last call leaves it installed. -/
namespace NovaEdge.TrackedReconcile
open KeyedMap List Option

structure State (κ ν τ ρ : Type*) where
 tracked : KeyedMap κ ν
 installed : KeyedMap τ ρ

structure Outcomes (τ : Type*) where
 (adds removes : τ → Bool)

def Outcomes.AllSucceed {τ : Type*} (outcomes : Outcomes τ) : Prop :=
 ∀ t, outcomes.adds t ∧ outcomes.removes t

structure Naming (κ ν τ : Type*) where
 target : κ → ν → τ
 entry : κ → ν → Prop
 value_eq : ∀ {k v w}, entry k v → entry k w → v = w
 key_eq : ∀ {k k' v v'}, entry k v → entry k' v' → target k v = target k' v' → k = k'

variable {κ ν τ ρ : Type*} [DecidableEq κ] [DecidableEq τ]

section
variable (target : κ → ν → τ) (payload : ρ) (outcomes : Outcomes τ)

def addStep (tracked : KeyedMap κ ν) (acc : State κ ν τ ρ) (e : κ × ν) : State κ ν τ ρ :=
 if (tracked.find? e.1).isSome then { acc with tracked := acc.tracked.set e.1 e.2 }
 else if outcomes.adds (target e.1 e.2) then
  { tracked := acc.tracked.set e.1 e.2
    installed := acc.installed.set (target e.1 e.2) payload }
 else acc

def removeStep (desired : KeyedMap κ ν) (acc : State κ ν τ ρ) (e : κ × ν) : State κ ν τ ρ :=
 if (desired.find? e.1).isSome then acc
 else if outcomes.removes (target e.1 e.2) then
  { acc with installed := acc.installed.delete (target e.1 e.2) }
 else { acc with tracked := acc.tracked.set e.1 e.2 }

def State.reconcile (s : State κ ν τ ρ) (desired : KeyedMap κ ν) (adds removes : List (κ × ν)) :
  State κ ν τ ρ :=
 removes.foldl (removeStep target outcomes desired)
  (adds.foldl (addStep target payload outcomes s.tracked) ⟨∅,s.installed⟩)

lemma foldl_addStep (trk : KeyedMap κ ν) (acc : State κ ν τ ρ) (l : List (κ × ν)) :
  l.foldl (addStep target payload outcomes trk) acc =
   ⟨l.foldl (fun m e => if (trk.find? e.1).isSome || outcomes.adds (target e.1 e.2) then
     m.set e.1 (id e.2) else m) acc.tracked,
    l.foldl (fun m e => if (trk.find? e.1).isNone && outcomes.adds (target e.1 e.2) then
     m.set (target e.1 e.2) payload else m) acc.installed⟩ := by
 induction l generalizing acc with
 | nil => rfl
 | cons e l ih =>
  rw [foldl_cons,ih,addStep]
  cases hf : trk.find? e.1 <;> cases ha : outcomes.adds (target e.1 e.2) <;> simp [hf,ha]

lemma foldl_removeStep (des : KeyedMap κ ν) (acc : State κ ν τ ρ) (l : List (κ × ν)) :
  l.foldl (removeStep target outcomes des) acc =
   ⟨l.foldl (fun m e => if (des.find? e.1).isNone && !outcomes.removes (target e.1 e.2) then
     m.set e.1 (id e.2) else m) acc.tracked,
    l.foldl (fun m e => if (des.find? e.1).isNone && outcomes.removes (target e.1 e.2) then
     m.delete (target e.1 e.2) else m) acc.installed⟩ := by
 induction l generalizing acc with
 | nil => rfl
 | cons e l ih =>
  rw [foldl_cons,ih,removeStep]
  cases hf : des.find? e.1 <;> cases hr : outcomes.removes (target e.1 e.2) <;> simp [hf,hr]

end

lemma find?_foldl_set_target {ε : Type*} (p : ε → Bool) (tg : ε → τ) (pay : ρ) (l : List ε)
  (m : KeyedMap τ ρ) (t : τ) :
  (l.foldl (fun m e => if p e then m.set (tg e) pay else m) m).find? t =
   if ∃ e ∈ l, tg e = t ∧ p e then some pay else m.find? t := by
 induction l generalizing m with
 | nil => simp
 | cons e l ih =>
  rw [foldl_cons,ih]
  by_cases ha : ∃ e' ∈ l, tg e' = t ∧ p e'
  · obtain ⟨e',he',h⟩ := ha
    rw [if_pos ⟨e',he',h⟩,if_pos ⟨e',mem_cons_of_mem _ he',h⟩]
  · rw [if_neg ha]
    by_cases hp : p e
    · rw [if_pos hp,find?_set]
      by_cases ht : t = tg e
      · rw [if_pos ht,if_pos ⟨e,mem_cons_self,ht.symm,hp⟩]
      · rw [if_neg ht,if_neg]
        simpa [Ne.symm ht] using ha
    · rw [if_neg hp,if_neg]
      simpa [hp] using ha

lemma find?_foldl_delete_target {ε : Type*} (p : ε → Bool) (tg : ε → τ) (l : List ε)
  (m : KeyedMap τ ρ) (t : τ) : (l.foldl (fun m e => if p e then m.delete (tg e) else m) m).find? t =
   if ∃ e ∈ l, tg e = t ∧ p e then none else m.find? t := by
 have h := find?_foldl_delete (fun e : τ × ε => p e.2) (l.map fun e => (tg e,e)) m t
 rw [foldl_map] at h
 simpa using h

attribute [local simp] Option.filter

section
variable {naming : Naming κ ν τ} {payload : ρ} {outcomes : Outcomes τ} {s : State κ ν τ ρ}
 {des : KeyedMap κ ν} {adds removes : List (κ × ν)}

def Naming.Names (naming : Naming κ ν τ) (m : KeyedMap κ ν) : Prop :=
 ∀ k v, m.find? k = some v → naming.entry k v

structure Synced (naming : Naming κ ν τ) (payload : ρ) (s : State κ ν τ ρ) : Prop where
 named : naming.Names s.tracked
 installed_iff : ∀ t r, s.installed.find? t = some r ↔
  r = payload ∧ ∃ k v, s.tracked.find? k = some v ∧ naming.target k v = t

lemma Synced.isSome_installed_iff (hs : Synced naming payload s) (t : τ) :
  (s.installed.find? t).isSome ↔ ∃ k v, s.tracked.find? k = some v ∧ naming.target k v = t := by
 simp [isSome_iff_exists,hs.installed_iff]

lemma synced_empty (nam : Naming κ ν τ) (pay : ρ) : Synced nam pay ⟨∅,∅⟩ where
 named := by simp [Naming.Names]
 installed_iff := by simp

/-- A desired entry is tracked if it was or its call succeeds, another one if its call fails. -/
lemma find?_tracked_reconcile (had : adds.Perm des.pairs)
  (hrem : removes.Perm s.tracked.pairs) (k : κ) :
  (s.reconcile naming.target payload outcomes des adds removes).tracked.find? k =
   ((s.tracked.find? k).filter fun v =>
    (des.find? k).isNone && !outcomes.removes (naming.target k v)).or ((des.find? k).filter fun v =>
    (s.tracked.find? k).isSome || outcomes.adds (naming.target k v)) := by
 rw [State.reconcile,foldl_removeStep,foldl_addStep,
  find?_foldl_set_of_perm (fun e => (des.find? e.1).isNone &&
   !outcomes.removes (naming.target e.1 e.2)) id hrem,
  find?_foldl_set_of_perm (fun e => (s.tracked.find? e.1).isSome ||
   outcomes.adds (naming.target e.1 e.2)) id had]
 simp

/-- Without failures the desired entries are tracked, and no others. -/
theorem tracked_reconcile_of_allSucceed (had : adds.Perm des.pairs)
  (hrem : removes.Perm s.tracked.pairs) (ha : outcomes.AllSucceed) (k : κ) :
  (s.reconcile naming.target payload outcomes des adds removes).tracked.find? k = des.find? k := by
 rw [find?_tracked_reconcile had hrem]
 cases s.tracked.find? k <;> cases des.find? k <;> simp [ha _]

lemma find?_installed_reconcile (t : τ) :
  (s.reconcile naming.target payload outcomes des adds removes).installed.find? t =
   if ∃ e ∈ removes, naming.target e.1 e.2 = t ∧
     ((des.find? e.1).isNone && outcomes.removes (naming.target e.1 e.2)) then none
   else if ∃ e ∈ adds, naming.target e.1 e.2 = t ∧
     ((s.tracked.find? e.1).isNone && outcomes.adds (naming.target e.1 e.2)) then some payload
   else s.installed.find? t := by
 rw [State.reconcile,foldl_removeStep,foldl_addStep,
  find?_foldl_delete_target (fun e : κ × ν => (des.find? e.1).isNone &&
   outcomes.removes (naming.target e.1 e.2)) fun e => naming.target e.1 e.2,
  find?_foldl_set_target (fun e : κ × ν => (s.tracked.find? e.1).isNone &&
   outcomes.adds (naming.target e.1 e.2)) fun e => naming.target e.1 e.2]

section
variable (hs : Synced naming payload s) (hdes : naming.Names des)
 (had : adds.Perm des.pairs) (hrem : removes.Perm s.tracked.pairs)
include hs hdes had hrem

lemma names_reconcile :
  naming.Names (s.reconcile naming.target payload outcomes des adds removes).tracked := by
 intro k v hk
 rw [find?_tracked_reconcile had hrem,or_eq_some_iff] at hk
 rcases hk with hk | ⟨-,hk⟩
 · exact hs.named k v (filter_eq_some_iff.mp hk).1
 · exact hdes k v (filter_eq_some_iff.mp hk).1

lemma tracked_of_installed {t : τ} {r : ρ}
  (ht : (s.reconcile naming.target payload outcomes des adds removes).installed.find? t = some r) :
  r = payload ∧ ∃ k v,
   (s.reconcile naming.target payload outcomes des adds removes).tracked.find? k = some v ∧
    naming.target k v = t := by
 simp only [find?_tracked_reconcile had hrem]
 rw [find?_installed_reconcile] at ht
 split_ifs at ht with hr ha
 · -- it was added just now
   obtain ⟨⟨k,v⟩,hm,hv,hc⟩ := ha
   have hk : des.find? k = some v := mem_pairs_iff.mp (had.mem_iff.mp hm)
   simp only [Bool.and_eq_true,isNone_iff_eq_none] at hc
   exact ⟨(Option.some.inj ht).symm,k,v,by simp [hk,hc],hv⟩
 · obtain ⟨rfl,k,v,hk,hv⟩ := (hs.installed_iff t r).mp ht
   refine ⟨rfl,k,v,?_,hv⟩
   cases hd : des.find? k with
   | none =>
    -- no longer desired, so its removal has failed
    have hf : outcomes.removes (naming.target k v) = false := by
     by_contra hc
     have hm : (k,v) ∈ removes := hrem.mem_iff.mpr (mem_pairs_iff.mpr hk)
     exact hr ⟨(k,v),hm,hv,by simp [hd,hc]⟩
    simp [hk,hf]
   | some w =>
    obtain rfl : w = v := naming.value_eq (hdes k w hd) (hs.named k v hk)
    simp [hk]

lemma installed_of_tracked {k : κ} {v : ν}
  (hk : (s.reconcile naming.target payload outcomes des adds removes).tracked.find? k = some v) :
  (s.reconcile naming.target payload outcomes des adds removes).installed.find?
   (naming.target k v) = some payload := by
 have hn := names_reconcile hs hdes had hrem k v hk
 rw [find?_tracked_reconcile had hrem,or_eq_some_iff] at hk
 simp only [filter_eq_some_iff] at hk
 -- its removal either is not asked for or fails
 have hke : ¬∃ e ∈ removes, naming.target e.1 e.2 = naming.target k v ∧
   ((des.find? e.1).isNone && outcomes.removes (naming.target e.1 e.2)) := by
  rintro ⟨⟨k',w⟩,hm,ha,hc⟩
  have hw : s.tracked.find? k' = some w := mem_pairs_iff.mp (hrem.mem_iff.mp hm)
  obtain rfl : k' = k := naming.key_eq (hs.named k' w hw) hn ha
  simp only [ha,Bool.and_eq_true,isNone_iff_eq_none] at hc
  rcases hk with ⟨-,hk⟩ | ⟨-,hk,-⟩ <;> simp [hc] at hk
 have hb : s.tracked.find? k = some v → s.installed.find? (naming.target k v) = some payload :=
  fun hv => (hs.installed_iff _ _).mpr ⟨rfl,k,v,hv,rfl⟩
 rw [find?_installed_reconcile,if_neg hke]
 split_ifs with hae
 · rfl
 rcases hk with ⟨hv,-⟩ | ⟨-,hd,hc⟩
 · exact hb hv
 · cases ht : s.tracked.find? k with
   | none =>
    have hm : (k,v) ∈ adds := had.mem_iff.mpr (mem_pairs_iff.mpr hd)
    exact absurd ⟨(k,v),hm,rfl,by simpa [ht] using hc⟩ hae
   | some w =>
    obtain rfl : w = v := naming.value_eq (hs.named k w ht) hn
    exact hb ht

theorem synced_reconcile : Synced naming payload
      (s.reconcile naming.target payload outcomes des adds removes) where
 named := names_reconcile hs hdes had hrem
 installed_iff t r := by
  constructor
  · exact tracked_of_installed hs hdes had hrem
  · rintro ⟨rfl,k,v,hk,rfl⟩
    exact installed_of_tracked hs hdes had hrem hk

end

end

end NovaEdge.TrackedReconcile
