import NovaEdge.Balancers
import NovaEdge.UpstreamTargets
import Mathlib.Data.List.MinMax

/-! The least-connections balancer. It has a counter for each of the first `maxBackends` backends, and
compares loads by products of 32-bit numbers, which a debug build checks and a release build does
not. -/
namespace NovaEdge.Dataplane
open List

inductive Panic
 | indexOutOfBounds
 | overflow
 deriving DecidableEq

structure LeastConn where
 connections : Fin maxBackends → UInt32

open LeastConn
def LeastConn.load (lb : LeastConn) (idx : ℕ) : Except Panic UInt32 :=
 if h : idx < maxBackends then .ok (lb.connections ⟨idx,h⟩) else .error .indexOutOfBounds

def mulU32 (overflowChecks : Bool) (a b : UInt32) : Except Panic UInt32 :=
 if overflowChecks = true ∧ 2 ^ 32 ≤ a.toNat*b.toNat then .error .overflow else .ok (a*b)

def weightU32 (backends : List Backend) (idx : ℕ) : UInt32 := (shareAt backends idx).toUInt32

/-- The loop over the candidates after the first, with the best one so far. -/
def LeastConn.scan (overflowChecks : Bool) (lb : LeastConn) (backends : List Backend) :
  List ℕ → ℕ → UInt32 → UInt32 → Except Panic ℕ
 | [], minIdx, _, _ => .ok minIdx
 | idx::rest, minIdx, minConn, minWeight => do
  let conn ← lb.load idx
  let weight := weightU32 backends idx
  let left ← mulU32 overflowChecks conn minWeight
  let right ← mulU32 overflowChecks minConn weight
  if left < right then scan overflowChecks lb backends rest idx conn weight
  else scan overflowChecks lb backends rest minIdx minConn minWeight

def LeastConn.select (overflowChecks : Bool) (lb : LeastConn) (ctx : RequestContext)
  (backends : List Backend) : Except Panic (Option ℕ) :=
 let healthy := healthyIndices backends
 if healthy = [] then .ok none
 else
  match preferSameZone ctx backends healthy with
  | [] => .error .indexOutOfBounds
  | first::rest => do
   let conn ← lb.load first
   some <$> lb.scan overflowChecks backends rest first conn (weightU32 backends first)

def LeastConn.active (lb : LeastConn) (idx : ℕ) : ℕ :=
 if h : idx < maxBackends then (lb.connections ⟨idx,h⟩).toNat else 0

/-- Connections for each unit of weight. -/
def LeastConn.ratio (lb : LeastConn) (backends : List Backend) (idx : ℕ) : ℚ :=
 lb.active idx / shareAt backends idx

def LeastConn.SelectsLeast (lb : LeastConn) (ctx : RequestContext) (backends : List Backend) :
  Except Panic (Option ℕ) → Prop
 | .error _ => False
 | .ok none => ∀ b ∈ backends, b.healthy = false
 | .ok (some i) => i ∈ candidates ctx.zone backends ∧
  ∀ j ∈ candidates ctx.zone backends, lb.ratio backends i ≤ lb.ratio backends j

/-- The products by which two loads are compared have 32 bits. -/
def LeastConn.FitsWith (lb : LeastConn) (backends : List Backend) (c m : ℕ) : Prop :=
 lb.active c*shareAt backends m < 2 ^ 32 ∧ lb.active m*shareAt backends c < 2 ^ 32

/-- All candidates have a counter; and each candidate can be compared with the least loaded one
before it. -/
structure LeastConn.Comparable (lb : LeastConn) (zone : Option String) (backends : List Backend) :
  Prop where
 tracked : ∀ i ∈ candidates zone backends, i < maxBackends
 fits : ∀ before c after, candidates zone backends = before ++ c::after →
  ∀ m ∈ before.argmin (lb.ratio backends), lb.FitsWith backends c m

attribute [local simp] Except.bind bind

section
variable {lb : LeastConn} {bs : List Backend}

lemma load_of_lt {i : ℕ} (hi : i < maxBackends) :
  ∃ conn, lb.load i = .ok conn ∧ conn.toNat = lb.active i := by
 simp [load,active,hi]

variable {conn : UInt32}

lemma load_eq_ok {i : ℕ} (h : lb.load i = .ok conn) :
  i < maxBackends ∧ conn.toNat = lb.active i := by
 by_cases hi : i < maxBackends
 · obtain ⟨conn',hl,hc⟩ := @load_of_lt lb i hi
   rw [h] at hl
   exact ⟨hi,Except.ok.inj hl ▸ hc⟩
 · simp [load,hi] at h

lemma shareAt_lt (bs : List Backend) (i : ℕ) : shareAt bs i < 2 ^ 16 := by
 unfold shareAt
 cases bs[i]? with
 | none => simp
 | some b =>
  have := b.weight.toNat_lt
  simp [Backend.share]
  omega

lemma toNat_weightU32 (i : ℕ) : (weightU32 bs i).toNat = shareAt bs i := by
 have := shareAt_lt bs i
 simp [weightU32]
 omega

variable (checks : Bool)

lemma mulU32_of_lt {a b : UInt32} (h : a.toNat*b.toNat < 2 ^ 32) :
  ∃ p, mulU32 checks a b = .ok p ∧ p.toNat = a.toNat*b.toNat := by
 refine ⟨a*b,if_neg (by omega),?_⟩
 rw [UInt32.toNat_mul,Nat.mod_eq_of_lt h]

lemma lt_of_mulU32 {a b p : UInt32} (h : mulU32 true a b = .ok p) : a.toNat*b.toNat < 2 ^ 32 := by
 by_contra hg
 rw [mulU32,if_pos ⟨rfl,by omega⟩] at h
 cases h

lemma ratio_lt_iff {i j : ℕ} (hi : 0 < shareAt bs i) (hj : 0 < shareAt bs j) :
  lb.ratio bs i < lb.ratio bs j ↔ lb.active i*shareAt bs j < lb.active j*shareAt bs i := by
 rw [ratio,ratio,div_lt_div_iff₀ (by exact_mod_cast hi) (by exact_mod_cast hj)]
 exact_mod_cast Iff.rfl

/-- One round of the loop, with `m` the best candidate so far. -/
lemma scan_cons_of_fitsWith {c m : ℕ} (rest : List ℕ) (ho : conn.toNat = lb.active m)
  (hc : c < maxBackends) (hp : 0 < shareAt bs c) (hm : 0 < shareAt bs m) (hf : lb.FitsWith bs c m) :
  ∃ conn', conn'.toNat = lb.active (if lb.ratio bs c < lb.ratio bs m then c else m) ∧
   lb.scan checks bs (c::rest) m conn (weightU32 bs m) =
    lb.scan checks bs rest (if lb.ratio bs c < lb.ratio bs m then c else m) conn' (weightU32 bs
      (if lb.ratio bs c < lb.ratio bs m then c else m)) := by
 obtain ⟨connC,hlo,hn⟩ := @load_of_lt lb c hc
 obtain ⟨left,hl,hl'⟩ := mulU32_of_lt checks (a := connC) (b := weightU32 bs m)
  (by rw [hn,toNat_weightU32]; exact hf.1)
 obtain ⟨right,hr,hr'⟩ := mulU32_of_lt checks (a := conn) (b := weightU32 bs c)
  (by rw [ho,toNat_weightU32]; exact hf.2)
 rw [scan,hlo]
 have ht : left < right ↔ lb.ratio bs c < lb.ratio bs m := by
  rw [ratio_lt_iff hp hm,UInt32.lt_iff_toNat_lt,hl',hr',ho,hn, toNat_weightU32,toNat_weightU32]
 by_cases h : lb.ratio bs c < lb.ratio bs m
 · exact ⟨connC,by rw [if_pos h,hn],by
    simp [hl,hr,ht.mpr h,h]⟩
 · exact ⟨conn,by rw [if_neg h,ho],by
    simp [hl,hr,ht,h]⟩

lemma argmin_append_singleton {pre : List ℕ} {c m : ℕ} {f : ℕ → ℚ} (hm : pre.argmin f = some m) :
  (pre ++ [c]).argmin f = some (if f c < f m then c else m) := by
 rw [argmin_concat,hm]
 by_cases h : f c < f m <;> simp [h]

/-- Without a panic the loop ends at the first candidate with the least load. -/
lemma scan_of_fits (che : Bool) {rest pre : List ℕ} {m : ℕ} {conn : UInt32}
  (hm : pre.argmin (lb.ratio bs) = some m) (ho : conn.toNat = lb.active m) (hp : 0 < shareAt bs m)
  (hr : ∀ i ∈ rest, i < maxBackends ∧ 0 < shareAt bs i)
  (hf : ∀ done c post, rest = done ++ c::post →
   ∀ m ∈ (pre ++ done).argmin (lb.ratio bs), lb.FitsWith bs c m) :
  ∃ i, lb.scan che bs rest m conn (weightU32 bs m) = .ok i ∧
   (pre ++ rest).argmin (lb.ratio bs) = some i := by
 induction rest generalizing pre m conn with
 | nil => exact ⟨m,rfl,by rwa [append_nil]⟩
 | cons c rest ih =>
  obtain ⟨hc,hcp⟩ := hr c (by simp)
  obtain ⟨conn',hc',hsc⟩ := scan_cons_of_fitsWith che rest ho hc hcp hp
   (hf [] c rest rfl m (by simpa using hm))
  rw [hsc,append_cons]
  refine ih (argmin_append_singleton hm) hc' ?_ (fun i hi => hr i (by simp [hi])) ?_
  · split_ifs
    · exact hcp
    · exact hp
  · intro done c' post hsp m' hm'
    refine hf (c::done) c' post (by rw [hsp,cons_append]) m' ?_
    rwa [← append_cons] at hm'

/-- A debug build checks every product, and every load its index. -/
lemma fits_of_scan {rest pre : List ℕ} {m i : ℕ}
  (hm : pre.argmin (lb.ratio bs) = some m) (ho : conn.toNat = lb.active m)
  (hmp : 0 < shareAt bs m) (hp : ∀ i ∈ rest, 0 < shareAt bs i)
  (hsc : lb.scan true bs rest m conn (weightU32 bs m) = .ok i) :
  (∀ c ∈ rest, c < maxBackends) ∧ ∀ done c post, rest = done ++ c::post →
   ∀ m ∈ (pre ++ done).argmin (lb.ratio bs), lb.FitsWith bs c m := by
 induction rest generalizing pre m conn with
 | nil => exact ⟨by simp,by simp⟩
 | cons c rest ih =>
  have hst : c < maxBackends ∧ lb.FitsWith bs c m := by
   rw [scan] at hsc
   cases hl : lb.load c with
   | error e => simp [hl] at hsc
   | ok connC =>
    obtain ⟨hc,hn⟩ := load_eq_ok hl
    cases hf : mulU32 true connC (weightU32 bs m) with
    | error e => simp [hl,hf] at hsc
    | ok left =>
     cases hr : mulU32 true conn (weightU32 bs c) with
     | error e => simp [hl,hf,hr] at hsc
     | ok right =>
      have hlt := lt_of_mulU32 hf
      have hl' := lt_of_mulU32 hr
      rw [toNat_weightU32] at hlt hl'
      exact ⟨hc,hn ▸ hlt,ho ▸ hl'⟩
  obtain ⟨hc,hfi⟩ := hst
  obtain ⟨conn',hc',hne⟩ := scan_cons_of_fitsWith true rest ho hc (hp c (by simp)) hmp hfi
  rw [hne] at hsc
  obtain ⟨ht,hre⟩ := ih (argmin_append_singleton hm) hc' (by
   split_ifs
   · exact hp c (by simp)
   · exact hmp) (fun i hi => hp i (by simp [hi])) hsc
  refine ⟨by simpa [hc] using ht,fun done c' post hsp m' hm' => ?_⟩
  cases done with
  | nil =>
   cases hsp
   rw [append_nil,hm] at hm'
   exact Option.some.inj hm' ▸ hfi
  | cons d done =>
   cases hsp
   exact hre done c' post rfl m' (by rwa [← append_cons])

lemma select_of_candidates {ctx : RequestContext} {fi : ℕ} {rest : List ℕ}
  (hc : candidates ctx.zone bs = fi::rest) : lb.select checks ctx bs = (do
   let conn ← lb.load fi
   some <$> lb.scan checks bs rest fi conn (weightU32 bs fi)) := by
 have hh : healthyIndices bs ≠ [] := by
  intro h
  rw [candidates_eq_nil_iff.mpr h] at hc
  exact cons_ne_nil _ _ hc.symm
 rw [select,if_neg hh,preferSameZone_eq,hc]

end

/-- The least loaded backend is selected, in every build, exactly if all loads can be compared. -/
theorem least_loaded_selected_iff (lb : LeastConn) (ctx : RequestContext)
  (backends : List Backend) :
  (∀ checks, lb.SelectsLeast ctx backends (lb.select checks ctx backends)) ↔
   lb.Comparable ctx.zone backends := by
 cases hc : candidates ctx.zone backends with
 | nil =>
  have hh := candidates_eq_nil_iff.mp hc
  refine iff_of_true (fun checks => ?_) ⟨by simp [hc],by simp [hc]⟩
  rw [select,if_pos hh]
  exact indicesWhere_eq_nil_iff.mp hh
 | cons first rest =>
  have hp : ∀ i ∈ first::rest, 0 < shareAt backends i := fun i hi => shareAt_pos (hc ▸ hi)
  have hmi : [first].argmin (lb.ratio backends) = some first := argmin_singleton
  constructor
  · intro h
    have hde := h true
    rw [select_of_candidates true hc] at hde
    cases hl : lb.load first with
    | error e => simp [hl,LeastConn.SelectsLeast] at hde
    | ok conn =>
     cases hsc : lb.scan true backends rest first conn (weightU32 backends first) with
     | error e => simp [hl,hsc,LeastConn.SelectsLeast] at hde
     | ok i =>
      obtain ⟨hr,ho⟩ := load_eq_ok hl
      obtain ⟨ht,hf⟩ := fits_of_scan hmi ho (hp first (by simp))
       (fun i hi => hp i (by simp [hi])) hsc
      constructor
      · simpa [hc,hr] using ht
      · intro before c after hsp m hm
        rw [hc] at hsp
        cases before with
        | nil => simp at hm
        | cons b before =>
         cases hsp
         exact hf before c after rfl m hm
  · intro h checks
    have hlt := h.tracked
    have hf := h.fits
    rw [hc] at hlt hf
    obtain ⟨conn,hl,ho⟩ := @load_of_lt lb first (hlt first (by simp))
    obtain ⟨i,hsc,hi⟩ := @scan_of_fits lb backends checks rest [first] first conn hmi ho
     (hp first (by simp)) (fun i hi => ⟨hlt i (by simp [hi]),hp i (by simp [hi])⟩)
     fun done c after hsp m hm => hf (first::done) c after (by simp [hsp]) m hm
    have hse : lb.select checks ctx backends = .ok (some i) := by
     rw [select_of_candidates checks hc,hl]
     simp [hsc]
    rw [hse]
    refine ⟨hc ▸ argmin_mem hi,fun j hj => ?_⟩
    exact le_of_mem_argmin (by simpa [hc] using hj) hi

def weightedPair (first second : UInt16) : List Backend :=
 [⟨"10.0.0.1",80,first,true,none,0⟩,⟨"10.0.0.2",80,second,true,none,0⟩]

def LeastConn.ofPair (first second : UInt32) : LeastConn :=
 ⟨fun i => if i.val = 0 then first else if i.val = 1 then second else 0⟩

/-- 131072 connections on weight 1 count as less than one on weight 32768: the product is `2 ^ 32`.
-/
theorem overloaded_backend_selected :
  let lb := ofPair 1 131072
  let backends := weightedPair 32768 1
  lb.select false plainContext backends = .ok (some 1) ∧
   lb.select true plainContext backends = .error .overflow ∧
   ¬ lb.SelectsLeast plainContext backends (lb.select false plainContext backends) := by
 have hse : (ofPair 1 131072).select false plainContext (weightedPair 32768 1) =
   .ok (some 1) := by
  decide
 refine ⟨hse,by decide,?_⟩
 rw [hse]
 intro h
 have hl := h.2 0 (by decide)
 rw [← not_lt,ratio_lt_iff (by decide) (by decide)] at hl
 exact hl (by decide)

end NovaEdge.Dataplane
