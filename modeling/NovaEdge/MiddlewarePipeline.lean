import NovaEdge.DataplaneConfig

/-! The request phase of a route's middleware chain. The chain is a list of policy names; the
decision of each kind of policy on a well-formed configuration is a parameter. -/
namespace NovaEdge.Dataplane
open Config (Bytes)

structure Request where
 (method path host : String)
 headers : List (String × String)
 body : Option Bytes
 clientIp : String
 deriving DecidableEq

structure Response where
 status : ℕ
 headers : List (String × String)
 body : String
 deriving DecidableEq

def Response.withStatus (status : ℕ) (body : String) : Response :=
 ⟨status,[("Content-Type","text/plain")],body⟩

inductive MiddlewareResult
 | continueWith (req : Request)
 | respondWith (resp : Response)
 deriving DecidableEq

open MiddlewareResult
structure PolicyEngines where
 fromStr : String → Option JsonValue
 (rateLimit basicAuth jwt cors ipFilter waf : String → JsonValue → Request → Option Response)

def MiddlewareResult.ofAnswer (req : Request) : Option Response → MiddlewareResult
 | none => .continueWith req
 | some resp => .respondWith resp

section
variable (eng : PolicyEngines)

/-- `malformed` is the answer under a configuration that does not parse. -/
def runEngine (engine : String → JsonValue → Request → Option Response)
  (malformed : Option Response) (name configJson : String) (req : Request) : MiddlewareResult :=
 match eng.fromStr configJson with
 | none => .ofAnswer req malformed
 | some config => .ofAnswer req (engine name config req)

def failClosed : Option Response := some (Response.withStatus 500 "Internal Server Error")

def runRateLimit := runEngine eng eng.rateLimit failClosed

def runBasicAuth := runEngine eng eng.basicAuth failClosed

def runJwt := runEngine eng eng.jwt failClosed

/-- A malformed CORS configuration is skipped. -/
def runCors := runEngine eng eng.cors none

def runIpFilter := runEngine eng eng.ipFilter failClosed

def runWaf := runEngine eng eng.waf failClosed

def dispatched (policyType : String) : Bool :=
 policyType ∈ ["rate-limit","basic-auth","jwt","cors","ip-filter","waf","security-headers"]

def runPolicy (name : String) (policy : PolicyState) (req : Request) : MiddlewareResult :=
 match policy.policyType with
 | "rate-limit" => runRateLimit eng name policy.configJson req
 | "basic-auth" => runBasicAuth eng name policy.configJson req
 | "jwt" => runJwt eng name policy.configJson req
 | "cors" => runCors eng name policy.configJson req
 | "ip-filter" => runIpFilter eng name policy.configJson req
 | "waf" => runWaf eng name policy.configJson req
 | _ => .continueWith req

def evaluation (policy : PolicyState) : List PolicyState :=
 if dispatched policy.policyType then [policy] else []

/-- The policies that a run evaluates the request against, and its result. A name without a policy
is skipped. -/
def runPipeline (policies : KeyedMap String PolicyState) :
  List String → Request → List PolicyState × MiddlewareResult
 | [], req => ([],.continueWith req)
 | name::rest, req =>
  match policies.find? name with
  | none => runPipeline policies rest req
  | some policy =>
   match runPolicy eng name policy req with
   | .respondWith resp => (evaluation policy,.respondWith resp)
   | .continueWith req' =>
    (evaluation policy ++ (runPipeline policies rest req').1,
     (runPipeline policies rest req').2)

lemma mem_evaluation {pol p : PolicyState} :
  pol ∈ evaluation p ↔ p = pol ∧ dispatched pol.policyType := by
 by_cases hd : dispatched p.policyType
 · simp only [evaluation,hd,if_true,List.mem_singleton]
   constructor
   · intro h
     rw [h]
     exact ⟨rfl,hd⟩
   · intro h
     exact h.1.symm
 · simp only [evaluation,hd,Bool.false_eq_true,if_false,List.not_mem_nil,false_iff,not_and]
   intro h
   rw [← h]
   exact hd

lemma ofAnswer_continueWith {req req' : Request} {ans : Option Response}
  (h : ofAnswer req ans = .continueWith req') : req' = req := by
 cases ans with
 | none =>
  simp only [ofAnswer,continueWith.injEq] at h
  exact h.symm
 | some resp => simp [ofAnswer] at h

lemma runEngine_continueWith {en : String → JsonValue → Request → Option Response}
  {mal : Option Response} {name cj : String} {req req' : Request}
  (h : runEngine eng en mal name cj req = .continueWith req') : req' = req := by
 unfold runEngine at h
 split at h <;> exact ofAnswer_continueWith h

lemma runPolicy_continueWith {name : String} {pol : PolicyState} {req req' : Request}
  (h : runPolicy eng name pol req = .continueWith req') : req' = req := by
 unfold runPolicy at h
 split at h
 case h_7 =>
  simp only [continueWith.injEq] at h
  exact h.symm
 all_goals exact runEngine_continueWith eng h

section
variable {policies : KeyedMap String PolicyState} {name : String} {rest : List String}
 {req : Request} {pol : PolicyState}

lemma runPipeline_missing (h : policies.find? name = none) :
  runPipeline eng policies (name::rest) req = runPipeline eng policies rest req := by
 rw [runPipeline,h]

lemma runPipeline_answered {resp : Response} (h : policies.find? name = some pol)
  (hr : runPolicy eng name pol req = .respondWith resp) :
  runPipeline eng policies (name::rest) req = (evaluation pol,.respondWith resp) := by
 rw [runPipeline,h]
 simp only [hr]

lemma runPipeline_passed (h : policies.find? name = some pol)
  (hr : runPolicy eng name pol req = .continueWith req) :
  runPipeline eng policies (name::rest) req =
   (evaluation pol ++ (runPipeline eng policies rest req).1,
    (runPipeline eng policies rest req).2) := by
 rw [runPipeline,h]
 simp only [hr]

lemma runPipeline_cases (pols : KeyedMap String PolicyState) (name : String) (req : Request) :
  pols.find? name = none ∨ (∃ pol resp, pols.find? name = some pol ∧
    runPolicy eng name pol req = .respondWith resp) ∨
   ∃ pol, pols.find? name = some pol ∧ runPolicy eng name pol req = .continueWith req := by
 cases hp : pols.find? name with
 | none => exact Or.inl rfl
 | some pol =>
  cases hr : runPolicy eng name pol req with
  | respondWith resp => exact Or.inr (Or.inl ⟨pol,resp,rfl,hr⟩)
  | continueWith mid =>
   have hm := runPolicy_continueWith eng hr
   exact Or.inr (Or.inr ⟨pol,rfl,hm ▸ hr⟩)

end

lemma runPipeline_congr {pols pol' : KeyedMap String PolicyState}
  (h : ∀ name, pols.find? name = pol'.find? name) (refs : List String) (req : Request) :
  runPipeline eng pols refs req = runPipeline eng pol' refs req := by
 induction refs with
 | nil => rfl
 | cons fi rest ih =>
  rcases runPipeline_cases eng pols fi req with hn | ⟨p,resp,hp,hr⟩ | ⟨p,hp,hr⟩
  · rw [runPipeline_missing eng hn,runPipeline_missing eng ((h fi).symm.trans hn),ih]
  · rw [runPipeline_answered eng hp hr,runPipeline_answered eng ((h fi).symm.trans hp) hr]
  · rw [runPipeline_passed eng hp hr,runPipeline_passed eng ((h fi).symm.trans hp) hr,ih]

lemma runPipeline_continueWith_iff (pols : KeyedMap String PolicyState) (refs : List String)
  (req req' : Request) : (runPipeline eng pols refs req).2 = .continueWith req' ↔
   req' = req ∧ ∀ name ∈ refs, ∀ policy, pols.find? name = some policy →
    runPolicy eng name policy req = .continueWith req := by
 induction refs with
 | nil => simp [runPipeline,eq_comm]
 | cons fi rest ih =>
  rcases runPipeline_cases eng pols fi req with hn | ⟨p,resp,hp,hr⟩ | ⟨p,hp,hr⟩
  · rw [runPipeline_missing eng hn,ih]
    simp [hn]
  · rw [runPipeline_answered eng hp hr]
    simp [hp,hr]
  · rw [runPipeline_passed eng hp hr,ih]
    simp [hp,hr]

variable (policies : KeyedMap String PolicyState)

def Reaches (refs : List String) (req : Request) (policy : PolicyState) : Prop :=
 ∃ before name after, refs = before ++ name::after ∧ policies.find? name = some policy ∧
  (runPipeline eng policies before req).2 = .continueWith req

lemma reaches_cons_iff (fir : String) (rest : List String) (req : Request) (pol : PolicyState) :
  Reaches eng policies (fir::rest) req pol ↔ policies.find? fir = some pol ∨
    ∃ before name after, rest = before ++ name::after ∧ policies.find? name = some pol ∧
     (runPipeline eng policies (fir::before) req).2 = .continueWith req := by
 constructor
 · intro ⟨before,name,after,hq,hf,hr⟩
   cases before with
   | nil =>
    have hh : fir = name ∧ rest = after := by simpa using hq
    exact Or.inl (hh.1 ▸ hf)
   | cons b before =>
    have hc : fir = b ∧ rest = before ++ name::after := by simpa using hq
    exact Or.inr ⟨before,name,after,hc.2,hf,hc.1 ▸ hr⟩
 · intro h
   rcases h with hf | ⟨before,name,after,hq,hf,hr⟩
   · exact ⟨[],fir,rest,rfl,hf,rfl⟩
   · exact ⟨fir::before,name,after,by rw [hq,List.cons_append],hf,hr⟩

/-- A policy is evaluated exactly if its type has a branch and the request reaches it. -/
theorem mem_evaluated_iff (refs : List String) (req : Request) (pol : PolicyState) :
  pol ∈ (runPipeline eng policies refs req).1 ↔
   dispatched pol.policyType ∧ Reaches eng policies refs req pol := by
 induction refs with
 | nil => simp [runPipeline,Reaches]
 | cons fi rest ih =>
  rw [reaches_cons_iff]
  rcases runPipeline_cases eng policies fi req with hn | ⟨p,resp,hp,hr⟩ | ⟨p,hp,hr⟩
  · simp only [runPipeline_missing eng hn,hn,ih,Reaches,reduceCtorEq,false_or]
  · simp only [runPipeline_answered eng hp hr,hp,mem_evaluation,Option.some.injEq,
     reduceCtorEq,and_false,exists_false,or_false]
    exact and_comm
  · simp only [runPipeline_passed eng hp hr,hp,List.mem_append,mem_evaluation,
     Option.some.injEq,ih,Reaches,and_or_left,and_comm]

end

end NovaEdge.Dataplane
