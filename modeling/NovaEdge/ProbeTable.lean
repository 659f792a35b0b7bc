import Mathlib.Data.ZMod.Basic
import Mathlib.Algebra.Order.Floor.Div
import Mathlib.Tactic

/-! Filling a table by turns: every seeker takes the first free slot of its own sequence of probes,
one slot in a turn, until the table is full. When the size is prime, every sequence meets every
slot, so that the seekers share the slots evenly. -/
namespace NovaEdge.ProbeTable
open List Option

structure Seeker (α : Type) where
 owner : α
 (offset skip : ℕ)
 next : ℕ := 0

variable {α : Type} [DecidableEq α]

def Seeker.slot (e : Seeker α) (size k : ℕ) : ℕ := (e.offset+k*e.skip) % size

def probe (table : List (Option α)) (e : Seeker α) : ℕ → ℕ → Option ℕ
 | 0, _ => none
 | fuel+1, next =>
  if table[e.slot table.length next]? = some none then some next
  else probe table e fuel (next+1)

def pass (size : ℕ) : List (Seeker α) → List (Option α) → ℕ →
  Option (List (Seeker α) × List (Option α) × ℕ)
 | [], table, filled => some ([],table,filled)
 | e::rest, table, filled => do
  let k ← probe table e size e.next
  let table := table.set (e.slot table.length k) (some e.owner)
  let moved := { e with next := k+1 }
  if size ≤ filled+1 then some (moved::rest,table,filled+1)
  else
   let (rest,table,filled) ← pass size rest table (filled+1)
   some (moved::rest,table,filled)

def fill (size : ℕ) : ℕ → List (Seeker α) → List (Option α) → ℕ → Option (List (Option α))
 | 0, _, _, _ => none
 | fuel+1, seekers, table, filled =>
  if filled < size then do
   let (seekers,table,filled) ← pass size seekers table filled
   fill size fuel seekers table filled
  else some table

def Seeker.Valid (size : ℕ) (e : Seeker α) : Prop := 0 < e.skip ∧ e.skip < size

section
variable {tab : List (Option α)} {e : Seeker α} {size : ℕ}

lemma exists_probe {fuel next : ℕ} (hf : ∃ j < fuel, tab[e.slot tab.length (next+j)]? = some none) :
  ∃ k, probe tab e fuel next = some k ∧ tab[e.slot tab.length k]? = some none := by
 induction fuel generalizing next with
 | zero => simp at hf
 | succ fuel ih =>
  rw [probe]
  split_ifs with hn
  · exact ⟨next,rfl,hn⟩
  · obtain ⟨j,hj,hl⟩ := hf
    cases j with
    | zero => exact absurd hl hn
    | succ j =>
     refine ih ⟨j,by omega,?_⟩
     rwa [Nat.add_assoc,Nat.add_comm 1]

omit [DecidableEq α] in
lemma exists_slot_eq (hp : size.Prime) (hv : e.Valid size) (next : ℕ) {c : ℕ}
  (hc : c < size) : ∃ j < size, e.slot size (next+j) = c := by
 have := Fact.mk hp
 have hk : (e.skip : ZMod size) ≠ 0 := by
  rw [Ne,ZMod.natCast_eq_zero_iff]
  exact Nat.not_dvd_of_pos_of_lt hv.1 hv.2
 refine ⟨(((c : ZMod size) - e.offset) / e.skip - next).val,ZMod.val_lt _,?_⟩
 have ha : ((e.offset+(next+(((c : ZMod size) - e.offset) / e.skip - next).val)*e.skip : ℕ)
   : ZMod size) = c := by
  push_cast
  rw [ZMod.natCast_zmod_val]
  field_simp
  ring
 exact ((ZMod.natCast_eq_natCast_iff' _ _ _).mp ha).trans (Nat.mod_eq_of_lt hc)

lemma exists_probe_of_free (hp : size.Prime) (hv : e.Valid size)
  (hl : tab.length = size) (hf : none ∈ tab) (next : ℕ) :
  ∃ k, probe tab e size next = some k ∧ tab[e.slot size k]? = some none := by
 obtain ⟨c,hc,hsl⟩ := mem_iff_getElem.mp hf
 obtain ⟨j,hj,hj'⟩ := exists_slot_eq hp hv next (hl ▸ hc)
 rw [← hl] at hj' ⊢
 exact exists_probe ⟨j,hl ▸ hj,by rw [hj',getElem?_eq_getElem hc,hsl]⟩

end

structure FilledTo (size : ℕ) (table : List (Option α)) (filled : ℕ) : Prop where
 length : table.length = size
 free : table.count none+filled = size

variable {sks : List (Seeker α)}

section
variable {tab : List (Option α)} {size fil : ℕ}

lemma count_set {c : ℕ} (hc : tab[c]? = some none) (a : α) (b : Option α) :
  (tab.set c (some a)).count b+(if b = none then 1 else 0) =
   tab.count b+if b = some a then 1 else 0 := by
 obtain ⟨hl,hg⟩ := List.getElem?_eq_some_iff.mp hc
 rw [List.count_set hl,hg]
 cases b with
 | none =>
  have hp : 0 < tab.count none := count_pos_iff.mpr (mem_of_getElem? hc)
  simp
  omega
 | some b => simp [@eq_comm _ b a]

/-- A turn gives one slot to each of the first seekers, as far as the slots last. -/
lemma exists_pass (hp : size.Prime) (hv : ∀ e ∈ sks, e.Valid size) (ht : FilledTo size tab fil)
  (hro : fil < size) :
  ∃ seekers' table' filled', pass size sks tab fil = some (seekers',table',filled') ∧
   seekers'.map Seeker.owner = sks.map Seeker.owner ∧ (∀ e ∈ seekers', e.Valid size) ∧
   filled' = fil+min sks.length (size - fil) ∧ FilledTo size table' filled' ∧
   ∀ a, table'.count (some a) = tab.count (some a) +
    ((sks.map Seeker.owner).take (size - fil)).count a := by
 induction sks generalizing tab fil with
 | nil => exact ⟨[],tab,fil,rfl,rfl,by simp,by simp,ht,by simp⟩
 | cons e rest ih =>
  obtain ⟨he,hr⟩ := forall_mem_cons.mp hv
  have hfr : none ∈ tab := count_pos_iff.mp (by have := ht.free; omega)
  obtain ⟨k,hk,hl⟩ := exists_probe_of_free hp he ht.length hfr e.next
  have ht' : FilledTo size (tab.set (e.slot size k) (some e.owner)) (fil+1) := by
   refine ⟨by rw [length_set,ht.length],?_⟩
   have hc := count_set hl e.owner none
   have := ht.free
   simp at hc
   omega
  have htk : (((e::rest).map Seeker.owner).take (size - fil)) =
    e.owner::(rest.map Seeker.owner).take (size - (fil+1)) := by
   rw [show size - fil = size - (fil+1)+1 by omega]
   rfl
  have hg (a : α) : (tab.set (e.slot size k) (some e.owner)).count (some a) =
    tab.count (some a)+if e.owner = a then 1 else 0 := by
   simpa [eq_comm] using count_set hl e.owner (some a)
  by_cases ha : size ≤ fil+1
  · refine ⟨{ e with next := k+1 }::rest,_,fil+1,?_,rfl,
     forall_mem_cons.mpr ⟨he,hr⟩,?_,ht',fun a => ?_⟩
    · simp only [pass,hk,ht.length,bind_eq_bind,bind_some,if_pos ha]
    · simp
      omega
    · rw [htk,hg,count_cons,show size - (fil+1) = 0 by omega]
      simp
  · obtain ⟨rest',table',filled',hpa,ho,hv',hf',hf,hc⟩ := ih hr ht' (by omega)
    refine ⟨{ e with next := k+1 }::rest',table',filled',?_,by simp [ho],
     forall_mem_cons.mpr ⟨he,hv'⟩,?_,hf,fun a => ?_⟩
    · simp only [pass,hk,ht.length,bind_eq_bind,bind_some,if_neg ha,hpa]
    · simp
      omega
    · rw [hc,hg,htk,count_cons]
      simp
      ring

/-- Full turns and the part of a turn that fills the table. -/
lemma exists_fill (hpr : size.Prime) {fuel : ℕ} (hn : sks ≠ []) (hv : ∀ e ∈ sks, e.Valid size)
  (ha : FilledTo size tab fil) (hfe : size - fil < fuel) :
  ∃ full, fill size fuel sks tab fil = some full ∧ FilledTo size full size ∧
   ∀ a, full.count (some a) = tab.count (some a) +
    (size - fil) / sks.length*(sks.map Seeker.owner).count a +
    ((sks.map Seeker.owner).take ((size - fil) % sks.length)).count a := by
 induction fuel generalizing sks tab fil with
 | zero => omega
 | succ fuel ih =>
  have hle : fil ≤ size := by have := ha.free; omega
  have hp : 0 < sks.length := length_pos_iff.mpr hn
  by_cases hro : fil < size
  · obtain ⟨seekers',table',filled',hpa,ho,hv',hf',hf,hc⟩ := exists_pass hpr hv ha hro
    have hl : seekers'.length = sks.length := by simpa using congrArg List.length ho
    have hn' : seekers' ≠ [] := length_pos_iff.mp (hl ▸ hp)
    obtain ⟨full,hu,hfi,hc'⟩ := ih hn' hv' hf (by omega)
    refine ⟨full,?_,hfi,fun a => ?_⟩
    · simp only [fill,if_pos hro,hpa,bind_eq_bind,bind_some,hu]
    · rw [hc',hc,ho,hl,hf']
      by_cases ht : sks.length ≤ size - fil
      · have hr : size - (fil+min sks.length (size - fil)) = size - fil - sks.length := by omega
        rw [hr,take_of_length_le (by simpa using ht),
         Nat.div_eq_sub_div hp ht,Nat.mod_eq_sub_mod ht]
        ring
      · have hr : size - (fil+min sks.length (size - fil)) = 0 := by omega
        rw [hr,Nat.div_eq_of_lt (Nat.lt_of_not_le ht),Nat.mod_eq_of_lt (Nat.lt_of_not_le ht)]
        simp
  · obtain rfl : fil = size := by omega
    exact ⟨tab,by simp [fill],ha,by simp⟩

/-- Every owner has its fair share of the slots, up to one slot for each of its seekers. -/
lemma exists_fill_replicate (hr : size.Prime) (hn : sks ≠ []) (hv : ∀ e ∈ sks, e.Valid size) :
  ∃ full, fill size (size+1) sks (List.replicate size none) 0 = some full ∧
   full.length = size ∧ (∀ slot ∈ full, ∃ e ∈ sks, slot = some e.owner) ∧
   ∀ a, (sks.map Seeker.owner).count a*(size / sks.length) ≤ full.count (some a) ∧
    full.count (some a) ≤ (sks.map Seeker.owner).count a*(size ⌈/⌉ sks.length) := by
 have hm : FilledTo size (List.replicate size (none : Option α)) 0 := ⟨by simp,by simp⟩
 obtain ⟨full,hu,hf,hc⟩ := exists_fill hr hn hv hm (show size - 0 < size+1 by omega)
 have hp : 0 < sks.length := length_pos_iff.mpr hn
 have ht (a : α) (n : ℕ) : ((sks.map Seeker.owner).take n).count a ≤
   (sks.map Seeker.owner).count a := (take_sublist n _).count_le a
 have hc' (a : α) : full.count (some a) = size / sks.length*(sks.map Seeker.owner).count a +
       ((sks.map Seeker.owner).take (size % sks.length)).count a := by
  rw [hc a]
  simp [count_replicate]
 refine ⟨full,hu,hf.length,fun slot hl => ?_,fun a => ⟨?_,?_⟩⟩
 · cases slot with
   | none =>
    have hno : full.count none = 0 := by have := hf.free; omega
    exact absurd (count_pos_iff.mpr hl) (by omega)
   | some a =>
    have ho : 0 < (sks.map Seeker.owner).count a := by
     by_contra hz
     have hso := count_pos_iff.mpr hl
     have := ht a (size % sks.length)
     rw [hc',show (sks.map Seeker.owner).count a = 0 by omega] at hso
     omega
    obtain ⟨e,he,rfl⟩ := mem_map.mp (count_pos_iff.mp ho)
    exact ⟨e,he,rfl⟩
 · rw [hc',mul_comm]
   omega
 · rw [hc',mul_comm,Nat.ceilDiv_eq_add_pred_div]
   by_cases hev : size % sks.length = 0
   · rw [hev,take_zero,count_nil,Nat.add_zero]
     exact Nat.mul_le_mul_left _ (Nat.div_le_div_right (by omega))
   · have hce : size / sks.length+1 ≤ (size+sks.length - 1) / sks.length := by
      rw [Nat.le_div_iff_mul_le hp,add_mul,one_mul,mul_comm]
      have := Nat.div_add_mod size sks.length
      omega
     calc _ ≤ (sks.map Seeker.owner).count a*(size / sks.length+1) := by
           exact Nat.add_le_add_left (ht a _) _
      _ ≤ _ := Nat.mul_le_mul_left _ hce

end

end NovaEdge.ProbeTable
