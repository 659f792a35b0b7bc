import NovaEdge.IngressTranslator
import NovaEdge.KeyedMapOwned

/-! The reconciler of Ingress resources. It writes the objects of the translation one after the
other, stops at the first error, and removes nothing. -/
namespace NovaEdge.Networking
open KeyedMap

open GatewayApi (ObjectKey OwnerReference Written)
open V1alpha1

def ingressClassNameNovaEdge : String := "novaedge"

def ingressFinalizerName : String := "novaedge.io/ingress-finalizer"

structure IngressCluster where
 ingress : Option Ingress := none
 gateways : KeyedMap ObjectKey (Written ProxyGateway) := ∅
 routes : KeyedMap ObjectKey (Written ProxyRoute) := ∅
 backends : KeyedMap ObjectKey (Written ProxyBackend) := ∅

/-- The texts of the API server's errors for one kind of object. Not to be found is none. -/
structure WriteErrors where
 (get create update : ObjectKey → Option String := fun _ => none)

structure ApiErrors where
 (getIngress updateIngress : Option String := none)
 (gateways routes backends : WriteErrors := {})

section
variable {α : Type} (kind : String) (errors : WriteErrors) (key : Written α → ObjectKey)

/-- An object that exists keeps its owners and annotations. -/
def applySpec (existing : Option (Written α)) (desired : Written α) : Written α :=
 match existing with
 | none => desired
 | some existing => { existing with spec := desired.spec, labels := desired.labels }

def reconcileResource (store : KeyedMap ObjectKey (Written α)) (desired : Written α) :
  Except String (KeyedMap ObjectKey (Written α)) :=
 match errors.get (key desired) with
 | some text => .error ("failed to get " ++ kind ++ ": " ++ text)
 | none => match store.find? (key desired) with
  | none => match errors.create (key desired) with
   | some text => .error ("failed to create " ++ kind ++ ": " ++ text)
   | none => .ok (store.set (key desired) desired)
  | some existing => match errors.update (key desired) with
   | some text => .error ("failed to update " ++ kind ++ ": " ++ text)
   | none => .ok (store.set (key desired) (applySpec (some existing) desired))

def reconcileResources : List (Written α) → KeyedMap ObjectKey (Written α) →
  KeyedMap ObjectKey (Written α) × Option String
 | [], store => (store,none)
 | desired::rest, store => match reconcileResource kind errors key store desired with
  | .error text => (store,some text)
  | .ok store' => reconcileResources rest store'

end

def reconcileResult (errors : ApiErrors) (result : TranslationResult) (s : IngressCluster) :
  IngressCluster × Option String :=
 let gateways := reconcileResources "ProxyGateway" errors.gateways gatewayKey [result.gateway]
  s.gateways
 let routes := reconcileResources "ProxyRoute" errors.routes routeKey result.routes s.routes
 let backends := reconcileResources "ProxyBackend" errors.backends backendKey result.backends
  s.backends
 match gateways.2 with
 | some text => ({ s with gateways := gateways.1 },some text)
 | none => match routes.2 with
  | some text => ({ s with gateways := gateways.1, routes := routes.1 },some text)
  | none =>
   ({ s with gateways := gateways.1, routes := routes.1, backends := backends.1 },backends.2)

/-- An empty class of the reconciler stands for the default one. -/
def shouldProcessIngress (ingressClass : String) (ingress : Ingress) : Bool :=
 ingress.getIngressClassName =
  if ingressClass = "" then ingressClassNameNovaEdge else ingressClass

def Ingress.withFinalizer (ingress : Ingress) : Ingress :=
 { ingress with
   finalizers := if ingressFinalizerName ∈ ingress.finalizers then ingress.finalizers
    else ingress.finalizers ++ [ingressFinalizerName] }

def handleDeletion (errors : ApiErrors) (ingress : Ingress) (s : IngressCluster) :
  IngressCluster × Option String :=
 if ingressFinalizerName ∉ ingress.finalizers then (s,none)
 else match errors.updateIngress with
  | some text => (s,some text)
  | none =>
   ({ s with
     ingress := some { ingress with
      finalizers := ingress.finalizers.filter fun f => f ≠ ingressFinalizerName } },none)

def reconcile (ingressClass : String) (env : TranslateEnv) (errors : ApiErrors) (s : IngressCluster) :
  IngressCluster × Option String :=
 match errors.getIngress, s.ingress with
 | some text, _ => (s,some text)
 | none, none => (s,none)
 | none, some ingress =>
  if shouldProcessIngress ingressClass ingress = false then (s,none)
  else if ingress.deleting then handleDeletion errors ingress s
  else if ingressFinalizerName ∈ ingress.finalizers then
   reconcileResult errors (translate env ingress) s
  else match errors.updateIngress with
   | some text => (s,some text)
   | none =>
    reconcileResult errors (translate env ingress.withFinalizer)
     { s with ingress := some ingress.withFinalizer }

section
variable {α : Type} {kind : String} {err : WriteErrors} {key : Written α → ObjectKey}

lemma reconcileResource_ok {sto sto' : KeyedMap ObjectKey (Written α)} {des : Written α}
  (h : reconcileResource kind err key sto des = .ok sto') :
  sto' = upsert key applySpec sto des := by
 unfold reconcileResource at h
 split at h
 · cases h
 · cases hf : sto.find? (key des) with
   | none =>
    simp only [hf] at h
    split at h
    · cases h
    · rw [← Except.ok.inj h,upsert,hf]
      rfl
   | some existing =>
    simp only [hf] at h
    split at h
    · cases h
    · rw [← Except.ok.inj h,upsert,hf]

lemma reconcileResources_spec (l : List (Written α)) (st : KeyedMap ObjectKey (Written α)) :
  ∃ done rest, l = done ++ rest ∧
   (reconcileResources kind err key l st).1 = upsertAll key applySpec st done ∧
   ((reconcileResources kind err key l st).2 = none → rest = []) := by
 induction l generalizing st with
 | nil => exact ⟨[],[],rfl,rfl,fun _ => rfl⟩
 | cons des l ih =>
  rw [reconcileResources]
  cases hp : reconcileResource kind err key st des with
  | error text => exact ⟨[],des::l,rfl,rfl,fun h => absurd h (by simp)⟩
  | ok st' =>
   obtain ⟨done,rest,hl,ht,ha⟩ := ih st'
   refine ⟨des::done,rest,by rw [hl]; rfl,?_,ha⟩
   rw [ht,reconcileResource_ok hp]
   rfl

end

structure Writes (result : TranslationResult) (s t : IngressCluster) : Prop where
 gateways : ∃ done, (∀ w ∈ done, w ∈ [result.gateway]) ∧
  t.gateways = upsertAll gatewayKey applySpec s.gateways done
 routes : ∃ done, (∀ w ∈ done, w ∈ result.routes) ∧
  t.routes = upsertAll routeKey applySpec s.routes done
 backends : ∃ done, (∀ w ∈ done, w ∈ result.backends) ∧
  t.backends = upsertAll backendKey applySpec s.backends done

open Writes
structure WritesAll (result : TranslationResult) (s t : IngressCluster) : Prop where
 gateways : t.gateways = upsertAll gatewayKey applySpec s.gateways [result.gateway]
 routes : t.routes = upsertAll routeKey applySpec s.routes result.routes
 backends : t.backends = upsertAll backendKey applySpec s.backends result.backends

lemma Writes.refl (res : TranslationResult) (s : IngressCluster) : Writes res s s where
 gateways := ⟨[],by simp,rfl⟩
 routes := ⟨[],by simp,rfl⟩
 backends := ⟨[],by simp,rfl⟩

section
variable {err : ApiErrors} {res : TranslationResult} {s : IngressCluster}

lemma reconcileResult_writes : Writes res s (reconcileResult err res s).1 := by
 have ho : ∀ {α : Type} (kind : String) (err : WriteErrors) (key : Written α → ObjectKey)
   (l : List (Written α)) (st : KeyedMap ObjectKey (Written α)), ∃ done, (∀ w ∈ done, w ∈ l) ∧
    (reconcileResources kind err key l st).1 =
     upsertAll key applySpec st done := by
  intro α kind err key l st
  obtain ⟨done,rest,hl,ht,-⟩ := reconcileResources_spec l st
  exact ⟨done,fun w hw => hl ▸ List.mem_append_left rest hw,ht⟩
 have hg := ho "ProxyGateway" err.gateways gatewayKey [res.gateway] s.gateways
 have hr := ho "ProxyRoute" err.routes routeKey res.routes s.routes
 have hb := ho "ProxyBackend" err.backends backendKey res.backends s.backends
 unfold reconcileResult
 dsimp only
 split
 · exact ⟨hg,(refl res s).routes,(refl res s).backends⟩
 · split
   · exact ⟨hg,hr,(refl res s).backends⟩
   · exact ⟨hg,hr,hb⟩

lemma reconcileResult_writesAll (ho : (reconcileResult err res s).2 = none) :
  WritesAll res s (reconcileResult err res s).1 := by
 have ha : ∀ {α : Type} {kind : String} {err : WriteErrors} {key : Written α → ObjectKey}
   {l : List (Written α)} {st : KeyedMap ObjectKey (Written α)},
   (reconcileResources kind err key l st).2 = none →
   (reconcileResources kind err key l st).1 = upsertAll key applySpec st l := by
  intro α kind err key l st hn
  obtain ⟨done,rest,hl,ht,hdo⟩ := reconcileResources_spec l st
  rw [hdo hn,List.append_nil] at hl
  rw [ht,hl]
 unfold reconcileResult at ho ⊢
 dsimp only at ho ⊢
 split at ho
 · cases ho
 · rename_i hg
   split at ho
   · cases ho
   · rename_i hr
     exact ⟨ha hg,ha hr,ha ho⟩

lemma reconcileResult_ingress : (reconcileResult err res s).1.ingress = s.ingress := by
 unfold reconcileResult
 dsimp only
 split
 · rfl
 · split <;> rfl

end

section
variable {icl : String} {env : TranslateEnv} {err : ApiErrors} {s : IngressCluster}
 {ing : Ingress}

lemma reconcile_writes (hn : s.ingress = some ing) :
  Writes (translate env ing) s (reconcile icl env err s).1 := by
 unfold reconcile handleDeletion
 rw [hn]
 cases err.getIngress with
 | some text => exact refl _ s
 | none =>
  dsimp only
  split_ifs
  · exact refl _ s
  · split
    · exact refl _ s
    · exact ⟨(refl _ s).gateways,(refl _ s).routes,(refl _ s).backends⟩
  · exact refl _ s
  · exact reconcileResult_writes
  · split
    · exact refl _ s
    · have h := @reconcileResult_writes err (translate env ing.withFinalizer)
       { s with ingress := some ing.withFinalizer }
      exact ⟨h.gateways,h.routes,h.backends⟩

lemma reconcile_writesAll (hn : s.ingress = some ing)
  (hc : shouldProcessIngress icl ing = true) (hl : ing.deleting = false)
  (ho : (reconcile icl env err s).2 = none) :
  WritesAll (translate env ing) s (reconcile icl env err s).1 := by
 unfold reconcile at ho ⊢
 rw [hn] at ho ⊢
 cases hg : err.getIngress with
 | some text =>
  rw [hg] at ho
  cases ho
 | none =>
  rw [hg] at ho
  simp only [hc,hl,Bool.true_eq_false,Bool.false_eq_true,if_false] at ho ⊢
  by_cases hf : ingressFinalizerName ∈ ing.finalizers
  · rw [if_pos hf] at ho ⊢
    exact reconcileResult_writesAll ho
  · rw [if_neg hf] at ho ⊢
    cases hu : err.updateIngress with
    | some text =>
     rw [hu] at ho
     cases ho
    | none =>
     rw [hu] at ho
     have h := reconcileResult_writesAll ho
     exact ⟨h.gateways,h.routes,h.backends⟩

lemma reconcile_ingress : (reconcile icl env err s).1.ingress.map Ingress.toObjectMeta =
  s.ingress.map Ingress.toObjectMeta := by
 unfold reconcile handleDeletion
 cases err.getIngress with
 | some text => rfl
 | none =>
  cases hn : s.ingress with
  | none => simp [hn]
  | some ing =>
   dsimp only
   split_ifs
   · simp [hn]
   · split <;> simp [hn]
   · simp [hn]
   · rw [reconcileResult_ingress,hn]
   · split
     · simp [hn]
     · rw [reconcileResult_ingress]
       rfl

end

end NovaEdge.Networking
