import NovaEdge.CyclicShares
import NovaEdge.ProxyHandler

/-! The split of a route's requests over its weighted clusters. The weights are added in 32 bits, and
the counter that is taken modulo their sum has 64. -/
namespace NovaEdge.Dataplane
open CyclicShares List UInt32 Route

def walkEntry : List (String × UInt32) → UInt32 → Option ℕ
 | [], _ => none
 | (_,weight)::rest, remaining =>
  if remaining < weight then some 0 else (walkEntry rest (remaining - weight)).map (· + 1)

def Route.selectEntry (route : Route) : Option ℕ × UInt64 :=
 match route.backendRefs with
 | [] => (none,route.rrCounter)
 | [_] => (some 0,route.rrCounter)
 | first::rest =>
  let total := (first::rest).foldl (fun acc b => acc+b.2) (0 : UInt32)
  if total = 0 then (some 0,route.rrCounter)
  else
   let slot := route.rrCounter % total.toUInt64
   (some ((walkEntry (first::rest) slot.toUInt32).getD 0),route.rrCounter+1)

def Route.picks : Route → ℕ → List (Option ℕ)
 | _, 0 => []
 | route, n+1 => route.selectEntry.1::{ route with rrCounter := route.selectEntry.2 }.picks n

def Route.calls : Route → ℕ → List (Option String)
 | _, 0 => []
 | route, n+1 => route.selectBackend.1::{ route with rrCounter := route.selectBackend.2 }.calls n

def weightSum (refs : List (String × UInt32)) : ℕ := (refs.map fun b => b.2.toNat).sum

/-- The cluster of an entry. -/
def Route.cluster (route : Route) (entry : Option ℕ) : Option String :=
 entry.bind fun i => (route.backendRefs[i]?).map Prod.fst

/-- As many calls as the weights add up to return the clusters of entries, and every entry as often
as it weighs. -/
structure SplitsExactly (route : Route) : Prop where
 clusters : route.calls (weightSum route.backendRefs) =
  (route.picks (weightSum route.backendRefs)).map route.cluster
 entries : ∀ i ref, route.backendRefs[i]? = some ref →
  (route.picks (weightSum route.backendRefs)).count (some i) = ref.2.toNat

def entryWeight (refs : List (String × UInt32)) (i : ℕ) : ℕ :=
 ((refs[i]?).map fun b => b.2.toNat).getD 0

/-- The slots of the split, each with the entry that it belongs to. -/
def entryShares (refs : List (String × UInt32)) : List ℕ :=
 expand (entryWeight refs) (List.range refs.length)

section
variable {refs : List (String × UInt32)}

lemma entryShares_cons (name : String) (wt : UInt32) (rest : List (String × UInt32)) :
  entryShares ((name,wt)::rest) = List.replicate wt.toNat 0 ++ (entryShares rest).map (· + 1) := by
 rw [entryShares,length_cons,range_succ_eq_map,expand_cons,expand_map]
 rfl

lemma walkEntry_eq (refs : List (String × UInt32)) (rem : UInt32) :
  walkEntry refs rem = (entryShares refs)[rem.toNat]? := by
 induction refs generalizing rem with
 | nil => simp [walkEntry,entryShares,expand]
 | cons ref rest ih =>
  obtain ⟨name,wt⟩ := ref
  rw [entryShares_cons,walkEntry]
  by_cases hl : rem < wt
  · rw [if_pos hl,getElem?_append_left (by simpa using lt_iff_toNat_lt.mp hl)]
    simp [lt_iff_toNat_lt.mp hl]
  · have hle : wt.toNat ≤ rem.toNat := by simpa [lt_iff_toNat_lt] using hl
    rw [if_neg hl,ih,getElem?_append_right (by simpa using hle),getElem?_map,
     UInt32.toNat_sub_of_le _ _ (le_iff_toNat_le.mpr hle),length_replicate]

lemma length_entryShares (refs : List (String × UInt32)) :
  (entryShares refs).length = weightSum refs := by
 induction refs with
 | nil => rfl
 | cons ref rest ih =>
  obtain ⟨name,wt⟩ := ref
  rw [entryShares_cons,length_append,length_map,ih]
  simp [weightSum]

variable {i : ℕ}

lemma count_entryShares {ref : String × UInt32} (hi : refs[i]? = some ref) :
  (entryShares refs).count i = ref.2.toNat := by
 have hm : i ∈ List.range refs.length := by simpa using (List.getElem?_eq_some_iff.mp hi).1
 rw [entryShares,count_expand_of_nodup _ nodup_range hm]
 simp [entryWeight,hi]

lemma lt_of_mem_entryShares (hi : i ∈ entryShares refs) : i < refs.length := by
 simpa using ((mem_expand _).mp hi).1

lemma sorted_entryShares (refs : List (String × UInt32)) : (entryShares refs).Pairwise (· ≤ ·) := by
 induction refs with
 | nil => simp [entryShares,expand]
 | cons ref rest ih =>
  rw [entryShares_cons,pairwise_append]
  refine ⟨pairwise_replicate_of_refl,?_,?_⟩
  · rw [pairwise_map]
    exact ih.imp fun h => by omega
  · intro a ha b hb
    rw [eq_of_mem_replicate ha]
    exact Nat.zero_le b

lemma entryShares_mono {a b j : ℕ} (hab : a ≤ b) (hi : (entryShares refs)[a]? = some i)
  (hj : (entryShares refs)[b]? = some j) : i ≤ j := by
 obtain ⟨ha,rfl⟩ := List.getElem?_eq_some_iff.mp hi
 obtain ⟨hb,rfl⟩ := List.getElem?_eq_some_iff.mp hj
 rcases hab.eq_or_lt with rfl | hl
 · exact le_rfl
 · exact pairwise_iff_getElem.mp (sorted_entryShares refs) a b ha hb hl

/-- An entry owns fewer than `2 ^ 32` slots, so the last one owns no slot this far from the end. -/
lemma ne_last_of_getElem? {s k : ℕ} (hk : (entryShares refs)[weightSum refs - 1]? = some k)
  (hi : (entryShares refs)[s]? = some i) (hs : s+2 ^ 32 ≤ weightSum refs) : i ≠ k := by
 rintro rfl
 have ha : ∀ x ∈ (entryShares refs).drop s, i = x := by
  intro x hx
  obtain ⟨n,hn⟩ := mem_iff_getElem?.mp hx
  rw [getElem?_drop] at hn
  have hl := (List.getElem?_eq_some_iff.mp hn).1
  rw [length_entryShares] at hl
  exact le_antisymm (entryShares_mono (by omega) hi hn) (entryShares_mono (by omega) hn hk)
 have hc := (drop_sublist s (entryShares refs)).count_le i
 rw [count_eq_length.mpr ha,length_drop,length_entryShares] at hc
 obtain ⟨ref,hr⟩ : ∃ ref, refs[i]? = some ref :=
  ⟨_,getElem?_eq_getElem (lt_of_mem_entryShares (mem_of_getElem? hi))⟩
 have hl := ref.2.toNat_lt
 rw [count_entryShares hr] at hc
 omega

end

section
variable {route : Route}

lemma toNat_foldl_weights (refs : List (String × UInt32)) (acc : UInt32) :
  (refs.foldl (fun acc b => acc+b.2) acc).toNat = (acc.toNat+weightSum refs) % 2 ^ 32 := by
 induction refs generalizing acc with
 | nil => simp [weightSum,Nat.mod_eq_of_lt acc.toNat_lt]
 | cons ref rest ih =>
  rw [foldl_cons,ih,UInt32.toNat_add]
  simp only [weightSum,map_cons,sum_cons]
  omega

lemma walkWeights_eq (refs : List (String × UInt32)) (rem : UInt32) : walkWeights refs rem =
      (walkEntry refs rem).bind fun i => (refs[i]?).map Prod.fst := by
 induction refs generalizing rem with
 | nil => rfl
 | cons ref rest ih =>
  rw [walkWeights,walkEntry]
  split_ifs
  · rfl
  · rw [ih]
    cases walkEntry rest (rem - ref.2) <;> rfl

lemma lt_of_walkEntry {refs : List (String × UInt32)} {rem : UInt32} {i : ℕ}
  (h : walkEntry refs rem = some i) : i < refs.length := by
 rw [walkEntry_eq] at h
 exact lt_of_mem_entryShares (mem_of_getElem? h)

lemma selectBackend_eq (rt : Route) :
  rt.selectBackend = (rt.cluster rt.selectEntry.1,rt.selectEntry.2) := by
 unfold selectBackend selectEntry cluster
 match hr : rt.backendRefs with
 | [] | [_] => rfl
 | first::second::rest =>
  dsimp only
  split_ifs
  · rfl
  · rw [walkWeights_eq]
    generalize hw : walkEntry _ _ = ent
    cases ent with
    | none => rfl
    | some i => simp [getElem?_eq_getElem (lt_of_walkEntry hw)]

lemma calls_eq_map_picks (rt : Route) (n : ℕ) : rt.calls n = (rt.picks n).map rt.cluster := by
 induction n generalizing rt with
 | zero => rfl
 | succ n ih =>
  rw [calls,picks,map_cons,selectBackend_eq,ih]
  rfl

lemma mem_picks {P : Option ℕ → Prop}
  (h : ∀ counter, P { route with rrCounter := counter }.selectEntry.1) {n : ℕ} {ent : Option ℕ}
  (hm : ent ∈ route.picks n) : P ent := by
 induction n generalizing route with
 | zero => simp [picks] at hm
 | succ n ih =>
  rcases mem_cons.mp hm with rfl | hm
  · exact h route.rrCounter
  · refine ih ?_ hm
    exact h

lemma selectEntry_of_fits (hl : 1 < route.backendRefs.length)
  (hp : 0 < weightSum route.backendRefs) (hf : weightSum route.backendRefs < 2 ^ 32)
  (ctr : UInt64) : { route with rrCounter := ctr }.selectEntry =
    ((entryShares route.backendRefs)[ctr.toNat % weightSum route.backendRefs]?,ctr+1) := by
 have hlt := Nat.mod_lt ctr.toNat hp
 unfold selectEntry
 match hr : route.backendRefs with
 | [] | [_] => simp [hr] at hl
 | fi::second::rest =>
  rw [hr] at hp hf hlt
  have ht := toNat_foldl_weights (fi::second::rest) 0
  rw [UInt32.toNat_zero,Nat.zero_add,Nat.mod_eq_of_lt hf] at ht
  have hn : (fi::second::rest).foldl (fun acc b => acc+b.2) (0 : UInt32) ≠ 0 := by
   intro h
   rw [h] at ht
   simp at ht
   omega
  dsimp only
  rw [if_neg hn,walkEntry_eq]
  have hsl : (ctr % UInt32.toUInt64 ((fi::second::rest).foldl
    (fun acc b => acc+b.2) 0)).toUInt32.toNat =
    ctr.toNat % weightSum (fi::second::rest) := by
   rw [UInt64.toNat_toUInt32,UInt64.toNat_mod,toNat_toUInt64,ht]
   exact Nat.mod_eq_of_lt (by omega)
  rw [hsl,getElem?_eq_getElem (by rw [length_entryShares]; exact hlt)]
  rfl

/-- The calls before the counter wraps around, and those after it. -/
lemma picks_of_fits (hl : 1 < route.backendRefs.length)
  (hp : 0 < weightSum route.backendRefs) (hf : weightSum route.backendRefs < 2 ^ 32) {n : ℕ}
  (hn : n ≤ 2 ^ 64) (ctr : UInt64) : { route with rrCounter := ctr }.picks n =
    turns (entryShares route.backendRefs) ctr.toNat (n - (ctr.toNat+n - 2 ^ 64)) ++
     turns (entryShares route.backendRefs) 0 (ctr.toNat+n - 2 ^ 64) := by
 have hse := selectEntry_of_fits hl hp hf
 induction n generalizing ctr with
 | zero =>
  have ht := ctr.toNat_lt
  rw [show ctr.toNat+0 - 2 ^ 64 = 0 by omega]
  simp [picks,turns]
 | succ n ih =>
  rw [picks,hse]
  rw [ih (by omega) (ctr+1),UInt64.toNat_add,UInt64.toNat_one]
  have ht := ctr.toNat_lt
  rcases Nat.lt_or_ge (ctr.toNat+1) (2 ^ 64) with h | h
  · rw [Nat.mod_eq_of_lt h,show n+1 - (ctr.toNat+(n+1) - 2 ^ 64) =
     n - (ctr.toNat+1+n - 2 ^ 64)+1 by omega,turns_succ,length_entryShares,
     show ctr.toNat+(n+1) - 2 ^ 64 = ctr.toNat+1+n - 2 ^ 64 by omega,
     cons_append]
  · rw [show ctr.toNat+1 = 2 ^ 64 by omega,Nat.mod_self,
     show ctr.toNat+(n+1) - 2 ^ 64 = n by omega,show 0+n - 2 ^ 64 = 0 by omega,
     show n+1 - n = 0+1 by omega,turns_succ,length_entryShares]
    simp [turns]

/-- A weight sum that has wrapped around leaves the last entry with any weight unreached. -/
lemma selectEntry_ne_last {ctr : UInt64} {k : ℕ} (hl : 1 < route.backendRefs.length)
  (hov : 2 ^ 32 ≤ weightSum route.backendRefs)
  (hk : (entryShares route.backendRefs)[weightSum route.backendRefs - 1]? = some k) :
  { route with rrCounter := ctr }.selectEntry.1 ≠ some k := by
 have hz : some 0 ≠ some k := by
  intro h
  cases h
  have hf := getElem?_eq_getElem
   (show 0 < (entryShares route.backendRefs).length by rw [length_entryShares]; omega)
  have hle := entryShares_mono (Nat.zero_le _) hf hk
  exact ne_last_of_getElem? hk hf (by omega) (by omega)
 unfold selectEntry
 match hr : route.backendRefs with
 | [] | [_] => simp [hr] at hl
 | fi::second::rest =>
  rw [hr] at hk hov
  have ho := toNat_foldl_weights (fi::second::rest) 0
  rw [UInt32.toNat_zero,Nat.zero_add] at ho
  dsimp only
  split_ifs with ht
  · exact hz
  · generalize hw : walkEntry _ _ = ent
    cases ent with
    | none => exact hz
    | some i =>
     rw [walkEntry_eq] at hw
     refine fun h => ne_last_of_getElem? hk hw ?_ (Option.some.inj h)
     have hp : 0 < weightSum (fi::second::rest) % 2 ^ 32 := by
      rw [← ho]
      exact Nat.pos_of_ne_zero fun h => ht (UInt32.toNat_inj.mp h)
     have hsl := Nat.mod_lt ctr.toNat hp
     rw [UInt64.toNat_toUInt32,UInt64.toNat_mod,toNat_toUInt64,ho]
     have hm := Nat.mod_lt (weightSum (fi::second::rest)) (show 0 < 2 ^ 32 by omega)
     have := Nat.div_add_mod (weightSum (fi::second::rest)) (2 ^ 32)
     omega

end

/-- The calls after the counter has wrapped around pick every entry as often as they would if the
counter went on. -/
def Route.WrapsHarmlessly (route : Route) : Prop :=
 let late := route.rrCounter.toNat+weightSum route.backendRefs - 2 ^ 64
 ∀ i < route.backendRefs.length, (turns (entryShares route.backendRefs) 0 late).count (some i) =
   (turns (entryShares route.backendRefs) (2 ^ 64) late).count (some i)

section
variable {rt : Route}

variable {ref : String × UInt32}

lemma count_picks_of_fits (hl : 1 < rt.backendRefs.length)
  (hp : 0 < weightSum rt.backendRefs) (hf : weightSum rt.backendRefs < 2 ^ 32)
  {i : ℕ} (hi : rt.backendRefs[i]? = some ref) {late : ℕ}
  (ha : late = rt.rrCounter.toNat+weightSum rt.backendRefs - 2 ^ 64) :
  (rt.picks (weightSum rt.backendRefs)).count (some i) +
    (turns (entryShares rt.backendRefs) (2 ^ 64) late).count (some i) =
   ref.2.toNat+(turns (entryShares rt.backendRefs) 0 late).count (some i) := by
 have hc := picks_of_fits hl hp hf
  (show weightSum rt.backendRefs ≤ 2 ^ 64 by omega) rt.rrCounter
 have ht := count_turns_length (entryShares rt.backendRefs) rt.rrCounter.toNat i
 have hlt := rt.rrCounter.toNat_lt
 have hsp : turns (entryShares rt.backendRefs) rt.rrCounter.toNat
   (weightSum rt.backendRefs) =
   turns (entryShares rt.backendRefs) rt.rrCounter.toNat
     (weightSum rt.backendRefs - late) ++
    turns (entryShares rt.backendRefs) (2 ^ 64) late := by
  rcases Nat.eq_zero_or_pos late with h | h
  · simp [h,turns]
  · rw [← show rt.rrCounter.toNat+(weightSum rt.backendRefs - late) = 2 ^ 64 by omega,
     ← turns_add,Nat.sub_add_cancel (by omega)]
 rw [length_entryShares,hsp,count_append,count_entryShares hi] at ht
 rw [hc,count_append,← ha]
 omega

lemma picks_single (hr : rt.backendRefs = [ref]) (n : ℕ) :
  rt.picks n = List.replicate n (some 0) := by
 induction n with
 | zero => rfl
 | succ n ih =>
  have hse : rt.selectEntry = (some 0,rt.rrCounter) := by rw [selectEntry,hr]
  rw [picks,hse,replicate_succ,← ih]

end

/-- With several entries, the weights must add up in 32 bits, and the counter not wrap around with
an effect in between. -/
theorem splits_exactly_iff (route : Route) (hpos : 0 < weightSum route.backendRefs) :
  SplitsExactly route ↔ route.backendRefs.length = 1 ∨
   weightSum route.backendRefs < 2 ^ 32 ∧ route.WrapsHarmlessly := by
 match hre : route.backendRefs with
 | [] => simp [hre,weightSum] at hpos
 | [ref] =>
  refine iff_of_true ⟨calls_eq_map_picks route _,fun i ref' hi => ?_⟩ (.inl rfl)
  obtain rfl : i = 0 := by simpa [hre] using (List.getElem?_eq_some_iff.mp hi).1
  simp only [hre,getElem?_cons_zero,Option.some.injEq] at hi
  simp [picks_single hre,hre,weightSum,hi]
 | first::second::rest =>
  have hl : 1 < route.backendRefs.length := by simp [hre]
  rw [← hre,or_iff_right hl.ne']
  rcases Nat.lt_or_ge (weightSum route.backendRefs) (2 ^ 32) with hf | hover
  · constructor
    · refine fun h => ⟨hf,fun i hi => ?_⟩
      have hc := count_picks_of_fits hl hpos hf (getElem?_eq_getElem hi) rfl
      have hx := h.entries i _ (getElem?_eq_getElem hi)
      omega
    · refine fun h => ⟨calls_eq_map_picks route _,fun i ref hi => ?_⟩
      have hc := count_picks_of_fits hl hpos hf hi rfl
      have ha := h.2 i (List.getElem?_eq_some_iff.mp hi).1
      omega
  · refine iff_of_false (fun h => ?_) fun h => absurd h.1 (by omega)
    have hk := getElem?_eq_getElem (show weightSum route.backendRefs - 1 <
     (entryShares route.backendRefs).length by rw [length_entryShares]; omega)
    have hm := mem_of_getElem? hk
    have hr := getElem?_eq_getElem (lt_of_mem_entryShares hm)
    have hc := h.entries _ _ hr
    rw [count_eq_zero.mpr fun hp => mem_picks
     (P := fun ent => ent ≠ some _) (fun ctr => selectEntry_ne_last hl hover hk) hp
     rfl,← count_entryShares hr] at hc
    exact (count_pos_iff.mpr hm).ne hc

/-- A route for every request, with weighted clusters. -/
def splitRoute (refs : List (String × UInt32)) (counter : UInt64) : Route :=
 { defaultRoute "" with backendRefs := refs, rrCounter := counter }

theorem canary_split_exactly : SplitsExactly (splitRoute [("stable",3),("off",0),("canary",2)] 7) :=
 (splits_exactly_iff _ (by decide)).mpr (.inr ⟨by decide,fun _ _ => rfl⟩)

/-- The weights add up to `2 ^ 32`, which is zero in 32 bits: the first cluster gets every request. -/
theorem overflowing_weights_not_split :
  let refs := [("a",2147483647),("b",2147483647),("c",2)]
  (∀ counter, (splitRoute refs counter).selectBackend.1 = some "a") ∧
   ¬ SplitsExactly (splitRoute refs 0) := by
 refine ⟨fun _ => rfl,fun h => ?_⟩
 have hc := h.entries 2 ("c",2) rfl
 rw [count_eq_zero.mpr fun hp => absurd
  (mem_picks (P := fun entry => entry = some 0) (fun _ => rfl) hp) (by decide)] at hc
 cases hc

end NovaEdge.Dataplane
