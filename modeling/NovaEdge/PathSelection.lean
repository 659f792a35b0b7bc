import Mathlib.Tactic

/-! The choice of a WAN link for a policy: the first of the healthy links in the order of the
strategy, unless the policy switched a short while ago. Links of one rank come in any order. -/
namespace NovaEdge.Sdwan
open List

structure LinkQuality where
 linkName : String
 (latencyMs packetLoss : ℚ := 0)
 healthy : Bool := true

/-- What a selector keeps for one policy; times are in milliseconds. -/
structure PolicyPath where
 current : String := ""
 lastSwitch : Option ℕ := none

/-- The value by which a strategy sorts the links, the smallest first. -/
def rankOf (strategy : String) (bandwidths costs : String → ℚ) (l : LinkQuality) : ℚ :=
 match strategy with
 | "highest-bandwidth" => -bandwidths l.linkName
 | "most-reliable" => l.packetLoss
 | "lowest-cost" => costs l.linkName
 | _ => l.latencyMs

/-- The healthy links as `sort.Slice` can leave them. -/
structure SortedLinks (rank : LinkQuality → ℚ) (links sorted : List LinkQuality) : Prop where
 perm : sorted.Perm (links.filter (·.healthy))
 sorted : sorted.Pairwise fun a b => rank a ≤ rank b

def selectPath (sorted : List LinkQuality) : String := (sorted.head?.map (·.linkName)).getD ""

def defaultHysteresis : ℕ := 10000

section
variable (hysteresis : ℕ) (p : PolicyPath) (now : ℕ)

def shouldSwitch : Bool := p.lastSwitch.all fun last => last+hysteresis ≤ now

/-- A call that returns an error returns `none`. -/
def select (sorted : List LinkQuality) : Option String × PolicyPath :=
 let selected := selectPath sorted
 if selected = "" then (none,p)
 else if p.current = "" ∨ selected ≠ p.current ∧ shouldSwitch hysteresis p now then
  (some selected,⟨selected,some now⟩)
 else (some p.current,p)

/-- What calls return, one after the other. -/
def selects (p : PolicyPath) : List (ℕ × List LinkQuality) → List (Option String)
 | [] => []
 | (now,sorted)::calls =>
  (select hysteresis p now sorted).1::selects (select hysteresis p now sorted).2 calls

/-- The times at which a call goes from one link to another. -/
def switches (p : PolicyPath) : List (ℕ × List LinkQuality) → List ℕ
 | [] => []
 | (now,sorted)::calls =>
  let next := (select hysteresis p now sorted).2
  if p.current ≠ "" ∧ next.current ≠ p.current then now::switches next calls
  else switches next calls

/-- From the call at time `now` on, all calls return the same while the links stay the same. -/
def Steady (rank : LinkQuality → ℚ) (links : List LinkQuality) : Prop :=
 ∀ first calls, SortedLinks rank links first → (∀ c ∈ calls, SortedLinks rank links c.2) →
  (now::calls.map Prod.fst).Pairwise (· ≤ ·) →
   ∀ x ∈ selects hysteresis p ((now,first)::calls), x = (select hysteresis p now first).1

end

/-- No healthy link comes before it. -/
def FirstRanked (rank : LinkQuality → ℚ) (links : List LinkQuality) (l : LinkQuality) : Prop :=
 l ∈ links.filter (·.healthy) ∧ ∀ l' ∈ links.filter (·.healthy), rank l ≤ rank l'

section
variable {rank : LinkQuality → ℚ} {lin sor : List LinkQuality} {l : LinkQuality}

lemma SortedLinks.firstRanked (h : SortedLinks rank lin (l::sor)) : FirstRanked rank lin l := by
 refine ⟨h.perm.mem_iff.mp mem_cons_self,fun l' hm => ?_⟩
 rcases mem_cons.mp (h.perm.mem_iff.mpr hm) with rfl | hl
 · exact le_rfl
 · exact rel_of_pairwise_cons h.sorted hl

lemma SortedLinks.selectPath_eq {name : String} (h : SortedLinks rank lin sor)
  (hn : ∀ l, FirstRanked rank lin l → l.linkName = name) :
  selectPath sor = if lin.filter (·.healthy) = [] then "" else name := by
 cases sor with
 | nil => simp [selectPath,h.perm.symm.eq_nil]
 | cons l rest =>
  have hne : lin.filter (·.healthy) ≠ [] := ne_nil_of_mem h.firstRanked.1
  rw [if_neg hne]
  exact hn l h.firstRanked

/-- Any link of the first rank can be sorted to the front. -/
lemma FirstRanked.exists_sorted (h : FirstRanked rank lin l) :
  ∃ sor, SortedLinks rank lin (l::sor) := by
 classical
 let le (a b : LinkQuality) := decide (rank a ≤ rank b)
 let rest := (lin.filter (·.healthy)).erase l
 have hp := rest.mergeSort_perm le
 have hs : (rest.mergeSort le).Pairwise fun a b => le a b = true :=
  pairwise_mergeSort (by grind) (by grind) rest
 refine ⟨rest.mergeSort le,(hp.cons l).trans (perm_cons_erase h.1).symm,
  pairwise_cons.mpr ⟨fun a hm => h.2 a (mem_of_mem_erase (hp.mem_iff.mp hm)),?_⟩⟩
 simpa [le] using hs

end

def ofName (name : String) : Option String := if name = "" then none else some name

section
variable {hys now : ℕ} {p : PolicyPath} {sor : List LinkQuality}

lemma select_of_shouldSwitch (h : shouldSwitch hys p now = true) :
  (select hys p now sor).1 = ofName (selectPath sor) := by
 simp only [select,ofName,h,and_true]
 split_ifs with hs hc
 · rfl
 · rfl
 · exact congrArg some (not_not.mp (not_or.mp hc).2).symm

lemma select_of_current (hn : p.current ≠ "")
  (h : selectPath sor = p.current ∨ selectPath sor ≠ "" ∧ shouldSwitch hys p now = false) :
  select hys p now sor = (some p.current,p) := by
 have hs : selectPath sor ≠ "" := h.elim (fun h => h ▸ hn) And.left
 rcases h with h | ⟨-,h⟩ <;> simp [select,hs,hn,h]

/-- A call leaves the path, or it takes it to the first link. -/
lemma select_cases : (select hys p now sor).2 = p ∨ selectPath sor ≠ "" ∧
  (p.current = "" ∨ shouldSwitch hys p now = true) ∧
   select hys p now sor = (some (selectPath sor),⟨selectPath sor,some now⟩) := by
 simp only [select]
 split_ifs with hs hc
 · exact .inl rfl
 · exact .inr ⟨hs,hc.imp_right And.right,rfl⟩
 · exact .inl rfl

/-- A link that is returned is remembered. -/
lemma current_select {name : String} (h : (select hys p now sor).1 = some name) :
  (select hys p now sor).2.current = name := by
 simp only [select] at h ⊢
 split_ifs at h ⊢ <;> simp_all

lemma exists_shouldSwitch (hys : ℕ) (p : PolicyPath) (now : ℕ) :
  ∃ later, now ≤ later ∧ shouldSwitch hys p later = true := by
 refine ⟨now+(p.lastSwitch.getD 0+hys),Nat.le_add_right _ _,?_⟩
 cases h : p.lastSwitch <;> simp [shouldSwitch,h]

lemma selects_of_fixed {r : Option String} {cal : List (ℕ × List LinkQuality)}
  (h : ∀ c ∈ cal, select hys p c.1 c.2 = (r,p)) : ∀ x ∈ selects hys p cal, x = r := by
 induction cal with
 | nil => simp [selects]
 | cons c cal ih =>
  rw [forall_mem_cons] at h
  simpa [selects,h.1] using ih h.2

/-- Once the hysteresis is over, a steady policy is at the first link. -/
lemma Steady.select_eq {rank : LinkQuality → ℚ} {lin fir : List LinkQuality}
  (hs : Steady hys p now rank lin) (hf : SortedLinks rank lin fir) (h : SortedLinks rank lin sor) :
  (select hys p now fir).1 = ofName (selectPath sor) := by
 obtain ⟨later,hl,he⟩ := exists_shouldSwitch hys (select hys p now fir).2 now
 have hx := hs fir [(later,sor)] hf (by simpa using h) (by simpa using hl)
 rw [← select_of_shouldSwitch he]
 exact (hx _ (by simp [selects])).symm

lemma le_of_mem_switches {cal : List (ℕ × List LinkQuality)} {last : ℕ} (hc : p.current ≠ "")
  (hl : p.lastSwitch = some last) : ∀ t ∈ switches hys p cal, last+hys ≤ t := by
 induction cal generalizing p last with
 | nil => simp [switches]
 | cons c cal ih =>
  rcases @select_cases hys c.1 p c.2 with hk | ⟨hs,hw,hk⟩
  · simpa [switches,hk] using ih hc hl
  · have hw' : last+hys ≤ c.1 := by simpa [hc,shouldSwitch,hl] using hw
    have hi := @ih ⟨selectPath c.2,some c.1⟩ c.1 hs rfl
    intro t ht
    have hm : t = c.1 ∨ t ∈ switches hys ⟨selectPath c.2,some c.1⟩ cal := by
     simp only [switches,hk] at ht
     split_ifs at ht <;> simp_all
    rcases hm with rfl | hm
    · exact hw'
    · exact (hw'.trans (Nat.le_add_right _ _)).trans (hi t hm)

/-- Two switches are the hysteresis apart. -/
lemma pairwise_switches (cal : List (ℕ × List LinkQuality)) :
  (switches hys p cal).Pairwise fun a b => a+hys ≤ b := by
 induction cal generalizing p with
 | nil => simp [switches]
 | cons c cal ih =>
  simp only [switches]
  split_ifs with hc
  · refine pairwise_cons.mpr ⟨?_,ih⟩
    rcases @select_cases hys c.1 p c.2 with hk | ⟨hs,-,hk⟩
    · rw [hk] at hc
      exact absurd rfl hc.2
    · rw [hk]
      exact le_of_mem_switches hs rfl
  · exact ih

end

end NovaEdge.Sdwan
