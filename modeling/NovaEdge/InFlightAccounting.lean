import NovaEdge.LeastConnections
import NovaEdge.TransitionSystem
import Mathlib.Data.List.Perm.Basic

/-! The connection counters of the balancers that choose by them, and the attempts of the handler
that move them: a selection counts in the list of candidates, a report in the list of the cluster,
and between them an attempt may leave the handler without a report. -/
namespace NovaEdge.Dataplane

inductive CountingAlgorithm where
 | p2c
 | leastConn
 deriving DecidableEq

structure CountingBalancer extends LeastConn where
 algorithm : CountingAlgorithm

open CountingBalancer
namespace CountingBalancer

def change (lb : CountingBalancer) (idx : ℕ) (f : UInt32 → UInt32) : CountingBalancer :=
 { lb with connections := fun i => if i.val = idx then f (lb.connections i) else lb.connections i }

def increment (lb : CountingBalancer) (idx : ℕ) : CountingBalancer := lb.change idx (· + 1)

def decrement (lb : CountingBalancer) (idx : ℕ) : CountingBalancer :=
 lb.change idx fun v => if v = 0 then 0 else v - 1

/-- The selection of two candidates by random draws. Only this path counts the request. -/
def selectP2c (lb : CountingBalancer) (draws : ℕ × ℕ) (ctx : RequestContext)
  (backends : List Backend) : Except Panic (Option ℕ × CountingBalancer) :=
 let healthy := healthyIndices backends
 if healthy = [] then .ok (none,lb)
 else
  let candidates := preferSameZone ctx backends healthy
  if candidates.length = 1 then .ok (candidates.head?,lb)
  else
   let ai := draws.1 % candidates.length
   let drawn := draws.2 % (candidates.length - 1)
   let bi := if candidates.length = 2 then 1 - ai else if ai ≤ drawn then drawn+1 else drawn
   match candidates[ai]?, candidates[bi]? with
   | some a, some b => do
    let ca ← lb.load a
    let cb ← lb.load b
    let left ← mulU32 false ca (weightU32 backends b)
    let right ← mulU32 false cb (weightU32 backends a)
    let chosen := if left ≤ right then a else b
    .ok (some chosen,lb.increment chosen)
   | _, _ => .error .indexOutOfBounds

def select (lb : CountingBalancer) (draws : ℕ × ℕ) (ctx : RequestContext)
  (backends : List Backend) : Except Panic (Option ℕ × CountingBalancer) :=
 match lb.algorithm with
 | .p2c => lb.selectP2c draws ctx backends
 | .leastConn => (lb.toLeastConn.select false ctx backends).map fun r => (r,lb)

def report (lb : CountingBalancer) (idx : ℕ) (success : Bool) : CountingBalancer :=
 match lb.algorithm with
 | .p2c => lb.decrement idx
 | .leastConn =>
  if success then lb.increment idx else if 0 < lb.active idx then lb.decrement idx else lb

end CountingBalancer

structure SentAttempt where
 (backendIdx backends : ℕ)
 hedges : List ℕ := []

def SentAttempt.targets (x : SentAttempt) : List ℕ := x.backendIdx::x.hedges

def selectedIndex (a : Attempts) (idx : ℕ) : ℕ :=
 ((a.effective[idx]?).map fun selected => backendIndex a selected idx).getD idx

inductive ExchangeEnd where
 | responded (serverError : Bool)
 | failed

structure CountedRun where
 lb : CountingBalancer
 attempts : List SentAttempt := []
 reading : List ℕ := []

open CountedRun
inductive CountedStep where
 | select (a : Attempts) (draws : ℕ × ℕ)
 /-- The pool is exhausted, the request is not built, or the client is gone. -/
 | leave (k : ℕ)
 | hedge (k : ℕ)
 | outcome (k : ℕ) (result : ExchangeEnd)
 | body (k : ℕ) (read : Bool)

namespace CountedRun

def start (algorithm : CountingAlgorithm) : CountedRun := { lb := ⟨⟨fun _ => 0⟩,algorithm⟩ }

def finish (s : CountedRun) (k : ℕ) (x : SentAttempt) : ExchangeEnd → CountedRun
 | .responded serverError =>
  { lb := s.lb.report x.backendIdx (!serverError), attempts := s.attempts.eraseIdx k
    reading := s.reading ++ [x.backendIdx] }
 | .failed => { s with lb := s.lb.report x.backendIdx false, attempts := s.attempts.eraseIdx k }

def step (s : CountedRun) : CountedStep → CountedRun
 | .select a draws =>
  match s.lb.select draws a.ctx a.effective with
  | .ok (some idx,lb) =>
   { s with lb := lb, attempts := s.attempts ++ [⟨selectedIndex a idx,a.backends.length,[]⟩] }
  | _ => s
 | .leave k => { s with attempts := s.attempts.eraseIdx k }
 | .hedge k =>
  match s.attempts[k]? with
  | none => s
  | some x =>
   let hedgeIdx := (x.backendIdx+1) % x.backends
   { s with attempts := s.attempts.set k { x with hedges := hedgeIdx::x.hedges } }
 | .outcome k result =>
  match s.attempts[k]? with
  | none => s
  | some x => s.finish k x result
 | .body k read =>
  match s.reading[k]? with
  | none => s
  | some idx =>
   { s with
     lb := if read then s.lb else s.lb.report idx false
     reading := s.reading.eraseIdx k }

def inFlightTo (s : CountedRun) (i : ℕ) : ℕ := (s.attempts.flatMap SentAttempt.targets).count i

def Accurate (s : CountedRun) : Prop := ∀ i, s.lb.active i = s.inFlightTo i

/-- Every attempt counts where it is reported and is reported once, and nothing is hedged. -/
def Accounted (s : CountedRun) : CountedStep → Prop
 | .select a draws => ∀ idx lb, s.lb.select draws a.ctx a.effective = .ok (some idx,lb) →
  s.lb.algorithm = .p2c ∧ (candidates a.ctx.zone a.effective).length ≠ 1 ∧
   selectedIndex a idx = idx ∧ s.inFlightTo idx+1 < 2 ^ 32
 | .leave k => s.attempts[k]? = none
 | .hedge k => s.attempts[k]? = none
 | .outcome k _ => ∀ x ∈ s.attempts[k]?, s.lb.algorithm = .p2c ∧ x.hedges = []
 | .body k read => read = true ∨
  ∀ idx ∈ s.reading[k]?, s.lb.algorithm = .p2c ∧ s.inFlightTo idx = 0

end CountedRun

attribute [local simp] LeastConn.active CountingBalancer.change CountingBalancer.decrement

section
variable {lb : CountingBalancer} {i idx : ℕ}

lemma active_increment : (lb.increment idx).active i =
      if i = idx ∧ idx < maxBackends then (lb.active i+1) % 2 ^ 32 else lb.active i := by
 by_cases hi : i < maxBackends
 · by_cases hq : i = idx
   · subst hq
     simp [increment,hi]
   · simp [increment,hq]
 · have hn : ¬ (i = idx ∧ idx < maxBackends) := by omega
   simp [hi,hn]

lemma active_decrement :
  (lb.decrement idx).active i = if i = idx then lb.active i - 1 else lb.active i := by
 by_cases hi : i < maxBackends
 · by_cases hq : i = idx
   · subst hq
     by_cases hz : lb.connections ⟨i,hi⟩ = 0
     · simp [hi,hz]
     · have hp : 1 ≤ lb.connections ⟨i,hi⟩ := by
        exact Nat.pos_of_ne_zero fun h => hz (UInt32.toNat_inj.mp h)
       simp [hi,hz,UInt32.toNat_sub_of_le _ _ hp]
   · simp [hq]
 · simp [hi]

lemma select_eq {dra : ℕ × ℕ} {ctx : RequestContext} {bs : List Backend}
  {lb' : CountingBalancer} (h : lb.select dra ctx bs = .ok (some idx,lb')) :
  if lb.algorithm = .p2c ∧ (candidates ctx.zone bs).length ≠ 1 then
   idx < maxBackends ∧ lb' = lb.increment idx
  else lb' = lb := by
 unfold select at h
 cases hl : lb.algorithm with
 | leastConn =>
  rw [hl] at h
  cases hse : lb.toLeastConn.select false ctx bs with
  | error e => simp [hse,Except.map] at h
  | ok r =>
   simp only [hse,Except.map,Except.ok.injEq,Prod.mk.injEq] at h
   simpa using h.2.symm
 | p2c =>
  rw [hl] at h
  dsimp only [selectP2c] at h
  rw [preferSameZone_eq] at h
  by_cases hh : healthyIndices bs = []
  · simp [hh] at h
  by_cases ho : (candidates ctx.zone bs).length = 1
  · rw [if_neg hh,if_pos ho] at h
    simp only [Except.ok.injEq,Prod.mk.injEq] at h
    simpa [ho] using h.2.symm
  rw [if_neg hh,if_neg ho] at h
  rw [if_pos ⟨rfl,ho⟩]
  split at h
  · next a b _ _ =>
    cases ha : lb.load a with
    | error e => simp [ha,bind,Except.bind] at h
    | ok ca =>
     cases hb : lb.load b with
     | error e => simp [ha,hb,bind,Except.bind] at h
     | ok cb =>
      simp only [ha,hb,mulU32,bind,Except.bind,Bool.false_eq_true,false_and,if_false,
       Except.ok.injEq,Prod.mk.injEq,Option.some.injEq] at h
      obtain ⟨rfl,rfl⟩ := h
      refine ⟨?_,rfl⟩
      split_ifs
      · exact (load_eq_ok ha).1
      · exact (load_eq_ok hb).1
  · simp at h

end

namespace CountedRun
variable {s : CountedRun} {k : ℕ} {x : SentAttempt}

lemma inFlightTo_eraseIdx (hx : s.attempts[k]? = some x) (i : ℕ) : s.inFlightTo i =
      x.targets.count i+((s.attempts.eraseIdx k).flatMap SentAttempt.targets).count i := by
 obtain ⟨hk,rfl⟩ := List.getElem?_eq_some_iff.mp hx
 have hp := (List.getElem_cons_eraseIdx_perm hk).flatMap_right SentAttempt.targets
 rw [inFlightTo,← hp.count_eq,List.flatMap_cons,List.count_append]

attribute [local simp] SentAttempt.targets inFlightTo

lemma inFlightTo_append (s : CountedRun) (lb : CountingBalancer) (idx n i : ℕ) :
  inFlightTo { s with lb := lb, attempts := s.attempts ++ [⟨idx,n,[]⟩] } i =
   s.inFlightTo i+if idx = i then 1 else 0 := by
 simp [List.count_singleton]

variable (h : Accurate s)
include h

attribute [local simp] step

lemma accurate_select {a : Attempts} {dra : ℕ × ℕ} (hk : s.Accounted (.select a dra)) :
  Accurate (s.step (.select a dra)) := by
 cases hse : s.lb.select dra a.ctx a.effective with
 | error e => simpa [hse] using h
 | ok r =>
  obtain ⟨_ | idx,lb⟩ := r
  · simpa [hse] using h
  obtain ⟨hp,ho,ha,hf⟩ := hk idx lb hse
  have hq := select_eq hse
  rw [if_pos ⟨hp,ho⟩] at hq
  obtain ⟨hl,rfl⟩ := hq
  intro i
  simp only [step,hse,ha,inFlightTo_append,active_increment,h i]
  by_cases hi : i = idx
  · subst hi
    rw [if_pos ⟨rfl,hl⟩,if_pos rfl,Nat.mod_eq_of_lt hf]
  · rw [if_neg fun hb => hi hb.1,if_neg (Ne.symm hi),Nat.add_zero]

/-- A reported attempt is counted off once. -/
lemma accurate_outcome (hp : s.lb.algorithm = .p2c) (hx : s.attempts[k]? = some x)
  (hn : x.hedges = []) {res : ExchangeEnd} : Accurate (s.step (.outcome k res)) := by
 intro i
 have ht : (s.step (.outcome k res)).lb.active i = (s.lb.decrement x.backendIdx).active i ∧
   (s.step (.outcome k res)).inFlightTo i =
    ((s.attempts.eraseIdx k).flatMap SentAttempt.targets).count i := by
  cases res <;> simp [hx,finish,report,hp]
 have hb := inFlightTo_eraseIdx hx i
 rw [ht.1,ht.2,active_decrement,h i]
 by_cases hi : i = x.backendIdx
 · simp [hi,hn] at hb ⊢
   omega
 · simp [hi,Ne.symm hi,hn] at hb ⊢
   omega

lemma accurate_body {idx : ℕ} (hp : s.lb.algorithm = .p2c) (hid : s.reading[k]? = some idx)
  (hz : s.inFlightTo idx = 0) : Accurate (s.step (.body k false)) := by
 intro i
 have ht : (s.step (.body k false)).lb.active i = (s.lb.decrement idx).active i ∧
   (s.step (.body k false)).inFlightTo i = s.inFlightTo i := by
  simp [hid,report,hp]
 rw [ht.1,ht.2,active_decrement,h i]
 split_ifs with hi
 · rw [hi,hz]
 · rfl

lemma accurate_step (i : CountedStep) (ho : s.Accounted i) : Accurate (s.step i) := by
 cases i with
 | select a draws => exact accurate_select h ho
 | leave k =>
  have ha : s.step (.leave k) = s := by
   simp [List.eraseIdx_of_length_le (List.getElem?_eq_none_iff.mp ho)]
  rwa [ha]
 | hedge k =>
  have hno : s.attempts[k]? = none := ho
  simpa [hno] using h
 | outcome k result =>
  cases hx : s.attempts[k]? with
  | none => simpa [hx] using h
  | some x =>
   obtain ⟨hp,hn⟩ := ho x hx
   exact accurate_outcome h hp hx hn
 | body k read =>
  cases hid : s.reading[k]? with
  | none => simpa [hid] using h
  | some idx =>
   cases read with
   | true => simpa [hid,Accurate] using h
   | false =>
    obtain ⟨hp,hz⟩ := ho.resolve_left Bool.false_ne_true idx hid
    exact accurate_body h hp hid hz

end CountedRun

/-- The counters are accurate throughout a run whose steps are all accounted for. -/
theorem in_flight_accounted (algorithm : CountingAlgorithm) (steps : List CountedStep)
  (hok : Along step CountedRun.Accounted (.start algorithm) steps)
  (n : ℕ) : CountedRun.Accurate ((steps.take n).foldl step (.start algorithm)) := by
 refine invariant_take_of_along
  (fun s i h hi => accurate_step h i hi) ?_ hok n
 intro i
 simp [start,inFlightTo]

def pairAttempts : Attempts where
 route := defaultRoute "web"
 backends := weightedPair 1 1
 effective := weightedPair 1 1
 algorithm := "p2c"
 ctx := plainContext
 retryOn := []
 hedgeDelayMs := 0

theorem answered_attempt_accounted :
  let steps := [.select pairAttempts (0,0),.outcome 0 (.responded false),.body 0 true]
  CountedRun.Accurate (steps.foldl step (.start .p2c)) := by
 refine in_flight_accounted .p2c
  [.select pairAttempts (0,0),.outcome 0 (.responded false),.body 0 true]
  ⟨?_,?_,.inl rfl,trivial⟩ 3
 · intro idx lb h
   obtain rfl : 0 = idx := Option.some.inj (congrArg Prod.fst (Except.ok.inj h))
   exact ⟨rfl,by decide,rfl,by decide⟩
 · intro x hx
   cases hx
   exact ⟨rfl,rfl⟩

/-- An exhausted pool, and an ordinary response with least connections. -/
theorem idle_proxy_counts :
  let left : CountedRun :=
   [.select pairAttempts (0,0),.leave 0].foldl step (.start .p2c)
  let answered : CountedRun :=
   [.select pairAttempts (0,0),.outcome 0 (.responded false),.body 0 true].foldl
    step (.start .leastConn)
  left.attempts = [] ∧ left.lb.active 0 = 1 ∧
   answered.attempts = [] ∧ answered.reading = [] ∧ answered.lb.active 0 = 1 := by
 decide

end NovaEdge.Dataplane
