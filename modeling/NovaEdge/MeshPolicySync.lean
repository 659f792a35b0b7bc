import Mathlib.Data.List.TakeWhile
import NovaEdge.MeshAuthorization

/-! The mesh manager of the agent over whole runs: which policy list decides after a sequence of
configurations, some of which fail or come without policies. -/
namespace NovaEdge.Mesh
open Authorizer

/-- The agent is started once its interception backend is set, whether or not the setup of the
rules succeeds. -/
structure Manager extends Agent where
 started : Bool := false

inductive ApplyError
 | notStarted
 | rulesFailed

/-- The arguments of `ApplyConfig` and the answer of the rule backend. A list without policies
arrives as none. -/
structure ConfigCall where
 services : List InternalService := []
 policies : Option (List MeshAuthorizationPolicy) := none
 rulesApplied : Bool := true

def newManager (tlsProvider : TLSProvider) : Manager := { tlsProvider := tlsProvider }

def Manager.start (m : Manager) : Manager := { m with started := true }

def Manager.applyConfig (m : Manager) (call : ConfigCall) : Manager × Option ApplyError :=
 if m.started then
  ({ m with toAgent := m.toAgent.applyConfig call.services call.policies call.rulesApplied },
   if call.rulesApplied then none else some .rulesFailed)
 else (m,some .notStarted)

inductive ManagerOp
 | start
 | applyConfig (call : ConfigCall)
 | connection (c : Connection)

open ManagerOp
def Manager.step (net : Network) (m : Manager) : ManagerOp → Manager
 | .start => m.start
 | .applyConfig call => (m.applyConfig call).1
 | .connection c => { m with toAgent := m.toAgent.after net (.connection c) }

def managerRun (net : Network) (tlsProvider : TLSProvider) (ops : List ManagerOp) : Manager :=
 ops.foldl (Manager.step net) (newManager tlsProvider)

def DecidesAlike (lib : MeshLibrary) (a b : Authorizer) : Prop := ∀ source destService method path,
  a.authorize lib source destService method path = b.authorize lib source destService method path

def ConfigCall.policyList (call : ConfigCall) : List MeshAuthorizationPolicy :=
 call.policies.getD []

def ManagerOp.isStart : ManagerOp → Bool
 | .start => true
 | _ => false

def ManagerOp.installs : ManagerOp → Option (List MeshAuthorizationPolicy)
 | .applyConfig call => if call.rulesApplied then call.policies else none
 | _ => none

def lastInstalled (ops : List ManagerOp) : List MeshAuthorizationPolicy :=
 ((ops.dropWhile fun op => !op.isStart).filterMap ManagerOp.installs).getLast?.getD []

attribute [local simp] Manager.step

section
variable {net : Network} {tp : TLSProvider} {ops : List ManagerOp}

lemma managerRun_append_singleton (op : ManagerOp) :
  managerRun net tp (ops ++ [op]) = (managerRun net tp ops).step net op := by
 simp [managerRun]

lemma started_managerRun : (managerRun net tp ops).started = ops.any isStart := by
 induction ops using List.reverseRecOn with
 | nil => rfl
 | append_singleton ops op ih =>
  rw [managerRun_append_singleton,List.any_append,← ih]
  cases op with
  | start => simp [Manager.start,isStart]
  | applyConfig call =>
   cases hs : (managerRun net tp ops).started <;>
    simp [Manager.applyConfig,hs,isStart]
  | connection c => simp [isStart]

lemma dropWhile_isStart_eq_nil_iff :
  ops.dropWhile (fun op => !op.isStart) = [] ↔ ops.any isStart = false := by
 simp [List.dropWhile_eq_nil_iff]

lemma lastInstalled_append_singleton (op : ManagerOp) : lastInstalled (ops ++ [op]) =
      if ops.any isStart then op.installs.getD (lastInstalled ops) else [] := by
 cases hs : ops.any isStart with
 | true =>
  have hr : ops.dropWhile (fun op => !op.isStart) ≠ [] := by
   rw [Ne,dropWhile_isStart_eq_nil_iff,hs]
   exact Bool.noConfusion
  rw [lastInstalled,List.dropWhile_append,if_neg (by simpa using hr),if_pos rfl,
   List.filterMap_append]
  cases ho : op.installs with
  | none => simp [ho,lastInstalled]
  | some policies => simp [ho]
 | false =>
  rw [lastInstalled,List.dropWhile_append, if_pos (by simp [dropWhile_isStart_eq_nil_iff.mpr hs])]
  cases op <;> simp [isStart,installs]

lemma authorizer_step (m : Manager) (op : ManagerOp) : (m.step net op).authorizer =
      match m.started, op.installs with
      | true, some policies => updatePolicies policies
      | _, _ => m.authorizer := by
 cases op with
 | start => cases hs : m.started <;> simp [Manager.start,installs]
 | applyConfig call =>
  cases hs : m.started with
  | false => simp [Manager.applyConfig,hs]
  | true =>
   cases hr : call.rulesApplied <;> cases hp : call.policies <;>
    simp [Manager.applyConfig,hs,Agent.applyConfig,installs,hr,hp]
 | connection c =>
  cases c with
  | tunnel r => cases hs : m.started <;> simp [Agent.after,installs]
  | intercepted ip port =>
   cases hs : m.started <;>
    simp [Agent.after,Agent.handleConn,installs]

lemma authorizer_managerRun :
  (managerRun net tp ops).authorizer = updatePolicies (lastInstalled ops) := by
 induction ops using List.reverseRecOn with
 | nil => rfl
 | append_singleton ops op ih =>
  rw [managerRun_append_singleton,authorizer_step,started_managerRun,lastInstalled_append_singleton]
  cases hs : ops.any isStart with
  | false =>
   have hn : lastInstalled ops = [] := by
    rw [lastInstalled,dropWhile_isStart_eq_nil_iff.mpr hs]
    rfl
   simp [ih,hn]
  | true =>
   cases ho : op.installs with
   | none => simp [ih]
   | some policies => simp

end

theorem authorize_reflects_call_iff (lib : MeshLibrary) (net : Network) (tlsProvider : TLSProvider)
  (ops : List ManagerOp) (call : ConfigCall) :
  DecidesAlike lib (managerRun net tlsProvider (ops ++ [.applyConfig call])).authorizer
    (updatePolicies call.policyList) ↔
   (start ∈ ops ∧ call.rulesApplied = true ∧ call.policies.isSome = true) ∨
    DecidesAlike lib (updatePolicies (lastInstalled ops))
     (updatePolicies call.policyList) := by
 have ht : ops.any isStart = true ↔ start ∈ ops := by
  rw [List.any_eq_true]
  constructor
  · rintro ⟨op,hm,ho⟩
    cases op with
    | start => exact hm
    | applyConfig | connection => cases ho
  · exact fun hm => ⟨_,hm,rfl⟩
 rw [managerRun_append_singleton,authorizer_step,started_managerRun,authorizer_managerRun,← ht]
 cases hs : ops.any isStart with
 | false => simp
 | true =>
  cases hr : call.rulesApplied with
  | false => simp [installs,hr]
  | true =>
   cases hp : call.policies with
   | none => simp [installs,hr,hp]
   | some policies => simp [installs,hr,hp,ConfigCall.policyList,DecidesAlike]

def billingOnly : MeshAuthorizationPolicy where
 targetService := "payments"
 targetNamespace := "shop"
 action := "ALLOW"
 rules := [{ sources := [{ namespaces := ["billing"] }] }]

/-- A removed policy stays in force, and rules that cannot be programmed are not enforced. -/
theorem policies_lag_behind_calls :
  let source := parseSPIFFEID testWorkload "spiffe://cluster.local/ns/dev/sa/test"
  let removed := [ManagerOp.start,.applyConfig { policies := some [billingOnly] },
   .applyConfig { policies := none }]
  let added := [ManagerOp.start,.applyConfig { policies := some [billingOnly]
                                               rulesApplied := false }]
  (managerRun some {} removed).authorizer.authorize testWorkload source "payments.shop" "GET" "/" =
    false ∧
   (updatePolicies []).authorize testWorkload source "payments.shop" "GET" "/" = true ∧
   (managerRun some {} added).authorizer.authorize testWorkload source "payments.shop" "GET" "/" =
    true ∧
   (updatePolicies [billingOnly]).authorize testWorkload source "payments.shop" "GET"
    "/" = false := by
 decide

end NovaEdge.Mesh
