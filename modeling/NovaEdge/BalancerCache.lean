import NovaEdge.ProxyHandler

/-! The cache of load balancers: one per cluster, made for the algorithm of the request that finds
none. -/
namespace NovaEdge.Dataplane
open List KeyedMap

inductive BalancerKind
 | roundRobin
 | random
 | sourceHash
 | maglev
 | leastConn
 | p2c
 | ewma
 | sticky
 | ringHash (replicas : ℕ)
 deriving DecidableEq

def newLoadBalancer : String → BalancerKind
 | "random" => .random
 | "source-hash" => .sourceHash
 | "maglev" => .maglev
 | "least-conn" => .leastConn
 | "p2c" => .p2c
 | "ewma" => .ewma
 | "sticky" => .sticky
 | "ring-hash" => .ringHash 150
 | _ => .roundRobin

abbrev LbCache := KeyedMap String BalancerKind

def getOrCreateLb (cache : LbCache) (clusterName algo : String) : BalancerKind :=
 (cache.find? clusterName).getD (newLoadBalancer algo)

/-- A request carries the cluster as it has read it, possibly before a change that is listed
earlier. -/
inductive CacheOp
 | upsertCluster (cluster : ClusterState)
 | deleteCluster (name : String)
 | applyFull
 | http (cluster : ClusterState) (headers : List (String × String))
 | websocket (cluster : ClusterState)

open CacheOp
/-- The two paths ask for different algorithms when the cluster has session affinity. -/
def CacheOp.asks : CacheOp → Option (String × String)
 | .http cluster headers => some (cluster.name,(sessionAffinity cluster headers).2)
 | .websocket cluster => some (cluster.name,cluster.lbAlgorithm)
 | .upsertCluster _ | .deleteCluster _ | .applyFull => none

def CacheOp.drops (name : String) : CacheOp → Bool
 | .upsertCluster cluster => cluster.name = name
 | .deleteCluster name' => name' = name
 | .applyFull => true
 | .http _ _ | .websocket _ => false

def CacheOp.run (cache : LbCache) (op : CacheOp) : LbCache :=
 match op.asks, op with
 | some (name,algo), _ => cache.set name (getOrCreateLb cache name algo)
 | none, .upsertCluster cluster => cache.delete cluster.name
 | none, .deleteCluster name => cache.delete name
 | none, _ => ∅

/-- In the run, every request gets a balancer of its own algorithm. -/
def Balanced (ops : List CacheOp) : Prop :=
 ∀ before op after, ops = before ++ op::after → ∀ name algo, op.asks = some (name,algo) →
  getOrCreateLb (before.foldl CacheOp.run ∅) name algo = newLoadBalancer algo

/-- Requests for a cluster ask alike until its balancer is dropped. -/
def AsksAlike (ops : List CacheOp) : Prop :=
 ∀ before op between op' after, ops = before ++ op::between ++ op'::after →
  ∀ name algo algo', op.asks = some (name,algo) → op'.asks = some (name,algo') →
   (∀ o ∈ between, o.drops name = false) → newLoadBalancer algo = newLoadBalancer algo'

lemma find?_cacheRun (cac : LbCache) (op : CacheOp) (name : String) :
  (op.run cac).find? name = if op.drops name then none else
   match op.asks with
   | some (name',algo) => if name = name' then some (getOrCreateLb cac name algo)
     else cac.find? name
   | none => cac.find? name := by
 cases op with
 | upsertCluster cluster | deleteCluster name' =>
  simp [run,drops,asks,find?_delete,eq_comm]
 | applyFull => simp [run,drops,asks]
 | http cluster headers | websocket cluster =>
  simp only [run,drops,asks,find?_set]
  aesop

variable {kind : BalancerKind}

lemma find?_cacheRun_of_find? {cac : LbCache} {op : CacheOp} {name : String}
  (hd : op.drops name = false) (hf : cac.find? name = some kind) :
  (op.run cac).find? name = some kind := by
 rw [find?_cacheRun,hd,if_neg Bool.false_ne_true]
 split
 · rw [getOrCreateLb,hf,Option.getD_some,ite_self]
 · exact hf

lemma find?_foldl_cacheRun {ops : List CacheOp} {cac : LbCache} {name : String}
  (hd : ∀ o ∈ ops, o.drops name = false) (hf : cac.find? name = some kind) :
  (ops.foldl run cac).find? name = some kind := by
 induction ops generalizing cac with
 | nil => exact hf
 | cons o ops ih =>
  obtain ⟨ho,hd⟩ := forall_mem_cons.mp hd
  exact ih hd (find?_cacheRun_of_find? ho hf)

/-- A cached balancer was made for a request since the last drop. -/
lemma exists_of_find?_foldl_cacheRun {ops : List CacheOp} {name : String}
  (hf : (ops.foldl run ∅).find? name = some kind) :
  ∃ pre op mid algo, ops = pre ++ op::mid ∧ op.asks = some (name,algo) ∧
   newLoadBalancer algo = kind ∧ ∀ o ∈ mid, o.drops name = false := by
 induction ops using reverseRecOn with
 | nil => simp at hf
 | append_singleton ops op ih =>
  rw [foldl_append,foldl_cons,foldl_nil,find?_cacheRun] at hf
  split_ifs at hf with hd
  have older : (ops.foldl run ∅).find? name = some kind →
    ∃ pre o mid algo, ops ++ [op] = pre ++ o::mid ∧
     o.asks = some (name,algo) ∧ newLoadBalancer algo = kind ∧
     ∀ o ∈ mid, o.drops name = false := by
   intro hf
   obtain ⟨pre,o,mid,algo,rfl,ha,hk,hb⟩ := ih hf
   refine ⟨pre,o,mid ++ [op],algo,by simp,ha,hk,?_⟩
   simpa [or_imp,forall_and,hd] using hb
  split at hf
  · rename_i name' algo ha
    split_ifs at hf with hn
    · subst hn
      cases hc : (ops.foldl run ∅).find? name with
      | none =>
       rw [getOrCreateLb,hc] at hf
       exact ⟨ops,op,[],algo,rfl,ha,Option.some.inj hf,by simp⟩
      | some k =>
       rw [getOrCreateLb,hc] at hf
       exact older (hc.trans hf)
    · exact older hf
  · exact older hf

/-- Every request gets a balancer of its algorithm exactly if the requests for a cluster ask alike
until its balancer is dropped. -/
theorem balanced_iff_asksAlike (ops : List CacheOp) : Balanced ops ↔ AsksAlike ops := by
 constructor
 · intro h before op between op' after hq name algo algo' ha ha' hd
   have hk := h before op (between ++ op'::after) (by simpa using hq) name algo ha
   have hf : (op.run (before.foldl run ∅)).find? name = some (newLoadBalancer algo) := by
    have hn : op.drops name = false := by cases op <;> first | rfl | cases ha
    simp [find?_cacheRun,hn,ha,hk]
   have hk' := h (before ++ op::between) op' after hq name algo' ha'
   rw [foldl_append,foldl_cons,getOrCreateLb,find?_foldl_cacheRun hd hf] at hk'
   exact hk'
 · intro h before op after hq name algo ha
   cases hc : (before.foldl run ∅).find? name with
   | none => rw [getOrCreateLb,hc,Option.getD_none]
   | some kind =>
    obtain ⟨pre,o,between,algo',rfl,ha',hk,hd⟩ := exists_of_find?_foldl_cacheRun hc
    rw [getOrCreateLb,hc,Option.getD_some,← hk]
    exact h pre o between op after hq name algo' algo ha' ha hd

/-- A cluster with cookie affinity: the upgrade is balanced in turn, and then so is the request. -/
theorem sticky_cluster_in_turn :
  let cluster := clusterFromProto { name := "web", lbAlgorithm := .roundRobin
                                    sessionAffinity := some { type := "cookie", cookieName := "sid" } }
  (http cluster []).asks = some ("web","sticky") ∧
   getOrCreateLb ((websocket cluster).run ∅) "web" "sticky" = .roundRobin ∧
   ¬ Balanced [.websocket cluster,.http cluster []] := by
 refine ⟨rfl,by decide,fun h => ?_⟩
 exact absurd (h [_] _ [] rfl "web" "sticky" rfl) (by decide)

end NovaEdge.Dataplane
