import NovaEdge.KeyedMap
import NovaEdge.SlidingWindow
import NovaEdge.TransitionSystem

/-! The retry budget of the proxy: requests and retries of a cluster over the last ten seconds, and
the calls that the attempt loops of many requests make. -/
namespace NovaEdge.Dataplane
open SlidingWindow

structure ClusterBudget where
 (requests retries : List ℕ := [])

/-- Rounding of an exact quotient to a floating-point number. It keeps the order. -/
structure FloatRounding where
 round : ℚ → ℚ
 mono : Monotone round

abbrev RetryBudgets := KeyedMap String ClusterBudget

def budgetWindow : ℕ := 10000

def minRetriesPerWindow : ℕ := 3

def budgetRatio : ℚ := 1 / 5

def budgetOf (budgets : RetryBudgets) (cluster : String) : ClusterBudget :=
 (budgets.find? cluster).getD {}

def prune (now : ℕ) (b : ClusterBudget) : ClusterBudget :=
 ⟨recent budgetWindow now b.requests,recent budgetWindow now b.retries⟩

def recordRequest (now : ℕ) (budgets : RetryBudgets) (cluster : String) : RetryBudgets :=
 let b := budgetOf budgets cluster
 budgets.set cluster (prune now { b with requests := b.requests ++ [now] })

def recordRetry (now : ℕ) (budgets : RetryBudgets) (cluster : String) : RetryBudgets :=
 let b := budgetOf budgets cluster
 budgets.set cluster (prune now { b with retries := b.retries ++ [now] })

/-- The quotient and the ratio are compared as floating-point numbers. -/
def allowRetry (float : FloatRounding) (now : ℕ) (budgets : RetryBudgets) (cluster : String) :
  Bool :=
 match budgets.find? cluster with
 | none => true
 | some b =>
  let total := (recent budgetWindow now b.requests).length
  let retries := (recent budgetWindow now b.retries).length
  if retries < minRetriesPerWindow then true
  else if total = 0 then true
  else float.round (retries / total) < float.round budgetRatio

structure BudgetRecord where
 cluster : String
 retry : Bool
 time : ℕ

inductive RetryCall
 | recordRequest (id : ℕ) (cluster : String)
 | allowRetry (id : ℕ)
 | recordRetry (id : ℕ)
 | elapse (ms : ℕ)

/-- With the requests in flight, their leave for a retry, and everything recorded. -/
structure RetryRun where
 budgets : RetryBudgets
 now : ℕ
 inFlight : KeyedMap ℕ (String × Bool)
 log : List BudgetRecord

open RetryRun
namespace RetryRun

/-- A call that its request is not at changes nothing. A request without leave gives up. -/
def step (float : FloatRounding) (r : RetryRun) : RetryCall → RetryRun
 | .recordRequest id cluster =>
  if r.inFlight.find? id = none then
   { r with
     budgets := Dataplane.recordRequest r.now r.budgets cluster
     inFlight := r.inFlight.set id (cluster,false)
     log := r.log ++ [⟨cluster,false,r.now⟩] }
  else r
 | .allowRetry id => match r.inFlight.find? id with
  | some (cluster,false) =>
   if Dataplane.allowRetry float r.now r.budgets cluster then
    { r with inFlight := r.inFlight.set id (cluster,true) }
   else { r with inFlight := r.inFlight.delete id }
  | _ => r
 | .recordRetry id => match r.inFlight.find? id with
  | some (cluster,true) =>
   { r with
     budgets := Dataplane.recordRetry r.now r.budgets cluster
     inFlight := r.inFlight.set id (cluster,false)
     log := r.log ++ [⟨cluster,true,r.now⟩] }
  | _ => r
 | .elapse ms => { r with now := r.now+ms }

def times (r : RetryRun) (cluster : String) (retry : Bool) : List ℕ :=
 (r.log.filter fun e => e.cluster = cluster ∧ e.retry = retry).map BudgetRecord.time

def requestsInWindow (r : RetryRun) (cluster : String) : ℕ :=
 (recent budgetWindow r.now (r.times cluster false)).length

def retriesInWindow (r : RetryRun) (cluster : String) : ℕ :=
 (recent budgetWindow r.now (r.times cluster true)).length

end RetryRun

def retrySystem (float : FloatRounding) : TransitionSystem RetryRun RetryCall :=
 .ofFun (fun r => r.budgets = ∅ ∧ r.inFlight = ∅ ∧ r.log = []) (RetryRun.step float)

/-- With leave for one more, the retries in the window are at most three, or a fifth of the requests
in it, rounded up. -/
def WithinBudget (float : FloatRounding) (r : RetryRun) (cluster : String) : Prop :=
 allowRetry float r.now r.budgets cluster = true →
  r.retriesInWindow cluster+1 ≤ max 3 ⌈(r.requestsInWindow cluster : ℚ)*20 / 100⌉₊

def ClusterBudget.stored (b : ClusterBudget) : (retry : Bool) → List ℕ
 | false => b.requests
 | true => b.retries

def RetryRun.Remembers (r : RetryRun) : Prop :=
 ∀ cluster kind, SlidingWindow.Remembers budgetWindow r.now
  ((budgetOf r.budgets cluster).stored kind) (r.times cluster kind)

lemma budgetOf_set (bud : RetryBudgets) (c cl : String) (b : ClusterBudget) :
  budgetOf (bud.set c b) cl = if cl = c then b else budgetOf bud cl := by
 rw [budgetOf,KeyedMap.find?_set]
 split_ifs <;> rfl

lemma stored_prune (now : ℕ) (b : ClusterBudget) (kind : Bool) :
  (prune now b).stored kind = recent budgetWindow now (b.stored kind) := by
 cases kind <;> rfl

section
variable {r r' : RetryRun} {c : String} {ret : Bool}

lemma times_recorded (hl : r'.log = r.log ++ [⟨c,ret,r.now⟩]) (cl : String)
  (kind : Bool) : r'.times cl kind =
   if cl = c ∧ kind = ret then r.times cl kind ++ [r.now]
   else r.times cl kind := by
 rw [times,times,hl,List.filter_append,List.map_append]
 split_ifs with ha
 · simp [ha]
 · simp [eq_comm (a := c),eq_comm (a := ret),ha]

lemma remembers_recorded (hr : r.Remembers) {b : ClusterBudget} (hn : r'.now = r.now)
  (hb : r'.budgets = r.budgets.set c (prune r.now b)) (hl : r'.log = r.log ++ [⟨c,ret,r.now⟩])
  (ht : ∀ kind, b.stored kind = if kind = ret then
   (budgetOf r.budgets c).stored kind ++ [r.now] else (budgetOf r.budgets c).stored kind) :
  r'.Remembers := by
 intro cluster kind
 rw [hn,hb,budgetOf_set,times_recorded hl]
 by_cases hc : cluster = c
 · subst hc
   rw [if_pos rfl,stored_prune,ht]
   by_cases hk : kind = ret
   · rw [if_pos hk,if_pos ⟨rfl,hk⟩]
     exact ((hr cluster kind).append r.now).recent
   · rw [if_neg hk,if_neg fun h => hk h.2]
     exact (hr cluster kind).recent
 · rw [if_neg hc,if_neg fun h => hc h.1]
   exact hr cluster kind

end

lemma remembers_step {fl : FloatRounding} {r : RetryRun} (hr : r.Remembers)
  (call : RetryCall) : (r.step fl call).Remembers := by
 cases call with
 | recordRequest id cl =>
  simp only [step]
  split_ifs
  · exact remembers_recorded hr rfl rfl rfl fun kind => by cases kind <;> rfl
  · exact hr
 | allowRetry id =>
  simp only [step]
  split
  · split_ifs
    · exact hr
    · exact hr
  · exact hr
 | recordRetry id =>
  simp only [step]
  split
  · exact remembers_recorded hr rfl rfl rfl fun kind => by cases kind <;> rfl
  · exact hr
 | elapse ms => exact fun cl kind => (hr cl kind).later (Nat.le_add_right _ _)

lemma remembers_of_reachable {fl : FloatRounding} {r : RetryRun}
  (hre : (retrySystem fl).Reachable r) : r.Remembers := by
 refine hre.invariant ?_ ?_
 · rintro r ⟨hm,-,hl⟩ cl kind
   rw [times,hm,hl]
   cases kind <;> rfl
 · rintro r call _ hr rfl
   exact remembers_step hr call

lemma allowRetry_eq {flo : FloatRounding} {r : RetryRun} (hre : r.Remembers) (cl : String) :
  allowRetry flo r.now r.budgets cl = true ↔ r.retriesInWindow cl < 3 ∨ r.requestsInWindow cl = 0 ∨
    flo.round (r.retriesInWindow cl / r.requestsInWindow cl) < flo.round budgetRatio := by
 have hq : (recent budgetWindow r.now (budgetOf r.budgets cl).requests).length =
   r.requestsInWindow cl := congrArg List.length (hre cl false)
 have hr : (recent budgetWindow r.now (budgetOf r.budgets cl).retries).length =
   r.retriesInWindow cl := congrArg List.length (hre cl true)
 unfold allowRetry
 cases hfi : r.budgets.find? cl with
 | none =>
  -- nothing was recorded for an unknown cluster
  rw [budgetOf,hfi] at hr
  have hn : r.retriesInWindow cl = 0 := hr.symm
  exact iff_of_true rfl (Or.inl (by omega))
 | some b =>
  rw [budgetOf,hfi,Option.getD_some] at hq hr
  simp only [hq,hr,minRetriesPerWindow]
  split_ifs with hf hid
  · exact iff_of_true rfl (Or.inl hf)
  · exact iff_of_true rfl (Or.inr (Or.inl hid))
  · simp [hf,hid]

lemma lt_of_round_lt (fl : FloatRounding) {x y : ℚ} (hl : fl.round x < fl.round y) : x < y := by
 by_contra hle
 exact absurd (fl.mono (not_lt.mp hle)) (not_le.mpr hl)

lemma succ_le_ceil {ret req : ℕ} (hp : 0 < req) (hl : (ret : ℚ) / req < budgetRatio) :
  ret+1 ≤ ⌈(req : ℚ)*20 / 100⌉₊ := by
 rw [Nat.succ_le_iff,Nat.lt_ceil]
 have hp' : (0 : ℚ) < req := Nat.cast_pos.mpr hp
 rw [budgetRatio,div_lt_iff₀ hp'] at hl
 linarith

/-- The bound holds exactly if requests are left in a window with three retries. -/
theorem within_budget_iff {float : FloatRounding} {r : RetryRun}
  (hreach : (retrySystem float).Reachable r) (cluster : String) : WithinBudget float r cluster ↔
   (3 ≤ r.retriesInWindow cluster → 0 < r.requestsInWindow cluster) := by
 have ha := @allowRetry_eq float r (remembers_of_reachable hreach) cluster
 rw [WithinBudget,ha]
 constructor
 · intro hb hr
   by_contra hn
   have hz : r.requestsInWindow cluster = 0 := by omega
   have hover := hb (Or.inr (Or.inl hz))
   have hc : ⌈((r.requestsInWindow cluster : ℕ) : ℚ)*20 / 100⌉₊ = 0 := by simp [hz]
   omega
 · rintro hl (hf | hn | ho)
   · exact le_max_of_le_left hf
   · by_cases hr : 3 ≤ r.retriesInWindow cluster
     · have := hl hr
       omega
     · exact le_max_of_le_left (by omega)
   · by_cases hr : 3 ≤ r.retriesInWindow cluster
     · exact le_max_of_le_right (succ_le_ceil (hl hr) (lt_of_round_lt float ho))
     · exact le_max_of_le_left (by omega)

/-- Rounding to 52 binary places. -/
def roundTo52 : FloatRounding where
 round := fun x => ⌊x*2 ^ 52+1 / 2⌋ / 2 ^ 52
 mono := by
  intro x y hle
  have hfloor : ⌊x*2 ^ 52+1 / 2⌋ ≤ ⌊y*2 ^ 52+1 / 2⌋ := by
   apply Int.floor_mono
   linarith
  have hcast : ((⌊x*2 ^ 52+1 / 2⌋ : ℤ) : ℚ) ≤ ⌊y*2 ^ 52+1 / 2⌋ := by exact_mod_cast hfloor
  exact div_le_div_of_nonneg_right hcast (by positivity)

def RetryRun.fresh : RetryRun := ⟨∅,0,∅,[]⟩

def RetryRun.after (calls : List RetryCall) : RetryRun :=
 calls.foldl (RetryRun.step roundTo52) .fresh

lemma reachable_retries (cs : List RetryCall) : (retrySystem roundTo52).Reachable (.after cs) :=
 .ofFun_foldl ⟨rfl,rfl,rfl⟩ cs

def lateRetries : List RetryCall :=
 [.recordRequest 0 "web",.recordRequest 1 "web",.recordRequest 2 "web",.recordRequest 3 "web",
  .elapse 6000,.allowRetry 0,.recordRetry 0,.allowRetry 1,.recordRetry 1,.allowRetry 2,
  .recordRetry 2]

theorem late_retries_within_budget : WithinBudget roundTo52 (.after lateRetries) "web" :=
 (within_budget_iff (reachable_retries lateRetries) "web").mpr fun _ => by decide +kernel

/-- Ten seconds after the requests the window has retries only, and a fourth is allowed. -/
theorem expired_requests_over_budget :
  ¬ WithinBudget roundTo52 (.after (lateRetries ++ [.elapse 4000])) "web" := by
 intro hb
 have hr : (after (lateRetries ++ [.elapse 4000])).retriesInWindow "web" = 3 := by
  decide +kernel
 have hre : (after (lateRetries ++ [.elapse 4000])).requestsInWindow "web" = 0 := by
  decide +kernel
 have hover := hb (by decide +kernel)
 rw [hr,hre] at hover
 norm_num at hover

end NovaEdge.Dataplane
