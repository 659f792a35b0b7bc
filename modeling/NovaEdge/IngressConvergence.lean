import NovaEdge.IngressReconciler
import NovaEdge.TransitionSystem

/-! What the reconciler of Ingress resources leaves of an Ingress that is edited again and again:
when the objects that the Ingress owns are those of its last version. -/
namespace NovaEdge.Networking
open List

open GatewayApi (ObjectKey OwnerReference Written)
open KeyedMap (Holds Taken HoldsExactly KeepsOwner upsertAll)
open V1alpha1

structure IngressIdentity where
 (name ns uid : String)

def IngressIdentity.ref (id : IngressIdentity) : OwnerReference := ⟨"Ingress",id.name,id.uid⟩

def Ingress.Is (ingress : Ingress) (id : IngressIdentity) : Prop :=
 ingress.name = id.name ∧ ingress.ns = id.ns ∧ ingress.uid = id.uid

section
variable {α : Type} (id : IngressIdentity)

def IngressIdentity.Owns (w : Written α) : Prop := id.ref ∈ w.owners

def IngressIdentity.Created (w : Written α) : Prop := w.owners = [id.ref] ∧ w.annotations = ∅

variable {id}

lemma IngressIdentity.Created.owns {w : Written α} (h : id.Created w) : id.Owns w := by
 rw [IngressIdentity.Owns,h.1]
 exact mem_singleton_self _

lemma Ingress.Is.created {ing : Ingress} (h : ing.Is id) (spec : α) :
  id.Created (ing.written spec) := by
 obtain ⟨hn,-,hu⟩ := h
 refine ⟨?_,rfl⟩
 show [OwnerReference.mk "Ingress" ing.name ing.uid] = _
 rw [hn,hu]
 rfl

lemma keepsOwner_applySpec : KeepsOwner (id.Owns (α := α)) applySpec where
 fresh _ := rfl
 kept _ _ := Iff.rfl

lemma applySpec_of_created {old w : Written α} (ho : id.Created old) (hw : id.Created w) :
  applySpec (some old) w = w := by
 obtain ⟨spec,lbs,anns,owners⟩ := w
 obtain ⟨how,ha⟩ := hw
 dsimp only at how ha
 rw [applySpec,ho.1,ho.2,how,ha]

end

section
variable {id : IngressIdentity} {env : TranslateEnv} {ing : Ingress}

lemma Ingress.Is.created_translate (h : ing.Is id) : id.Created (translate env ing).gateway ∧
   (∀ w ∈ (translate env ing).routes, id.Created w) ∧
   ∀ w ∈ (translate env ing).backends, id.Created w := by
 refine ⟨h.created _,?_,?_⟩
 · intro w hw
   obtain ⟨r,-,rfl⟩ := mem_map.mp hw
   exact h.created _
 · intro w hw
   rcases mem_append.mp hw with hw | hw
   · obtain ⟨p,hp,rfl⟩ := mem_map.mp hw
     have hf := KeyedMap.mem_pairs_iff.mp ((env.backendOrder.perm _).mem_iff.mp hp)
     rw [find?_backendMap,map_eq_some_iff] at hf
     obtain ⟨path,-,hb⟩ := hf
     rw [← hb]
     exact h.created _
   · unfold translateDefaultBackend at hw
     dsimp only at hw
     split at hw
     · exact absurd hw not_mem_nil
     · split_ifs at hw
       · exact absurd hw not_mem_nil
       · rw [mem_singleton.mp hw]
         exact h.created _

end

structure Converged (id : IngressIdentity) (result : TranslationResult) (s : IngressCluster) : Prop where
 gateways : HoldsExactly id.Owns gatewayKey s.gateways [result.gateway]
 routes : HoldsExactly id.Owns routeKey s.routes result.routes
 backends : HoldsExactly id.Owns backendKey s.backends result.backends

structure AllCreated (id : IngressIdentity) (s : IngressCluster) : Prop where
 gateways : ∀ k w, s.gateways.find? k = some w → id.Owns w → id.Created w
 routes : ∀ k w, s.routes.find? k = some w → id.Owns w → id.Created w
 backends : ∀ k w, s.backends.find? k = some w → id.Owns w → id.Created w

def Fits {α : Type} (id : IngressIdentity) (store : KeyedMap ObjectKey (Written α))
  (names : List ObjectKey) : Prop :=
 (∀ k, Holds id.Owns store k → k ∈ names) ∧ ∀ k ∈ names, ¬ Taken id.Owns store k

structure FitsVersion (id : IngressIdentity) (s : IngressCluster) (ingress : Ingress) : Prop where
 gateways : Fits id s.gateways ingress.gatewayKeys
 routes : Fits id s.routes ingress.routeKeys
 backends : Fits id s.backends ingress.backendKeys

section
variable {id : IngressIdentity} {env : TranslateEnv} {ing : Ingress} {s t : IngressCluster}

lemma forall_created_upsertAll {α : Type} {key : Written α → ObjectKey}
  {st : KeyedMap ObjectKey (Written α)} {l : List (Written α)}
  (hso : ∀ k w, st.find? k = some w → id.Owns w → id.Created w)
  (hl : ∀ w ∈ l, id.Created w) (k : ObjectKey) (w : Written α)
  (hf : (upsertAll key applySpec st l).find? k = some w) (hw : id.Owns w) : id.Created w :=
 keepsOwner_applySpec.forall_upsertAll hso hl (fun _ ho _ _ => ho) hf hw

lemma AllCreated.writes (hs : AllCreated id s) (his : ing.Is id)
  (hwr : Writes (translate env ing) s t) : AllCreated id t := by
 obtain ⟨hg,hr,hb⟩ := @Ingress.Is.created_translate id env ing his
 obtain ⟨done,ho,ha⟩ := hwr.gateways
 obtain ⟨done',hd',hr'⟩ := hwr.routes
 obtain ⟨done'',hd'',hb'⟩ := hwr.backends
 constructor
 · rw [ha]
   refine forall_created_upsertAll hs.gateways fun w hw => ?_
   rw [mem_singleton.mp (ho w hw)]
   exact hg
 · rw [hr']
   exact forall_created_upsertAll hs.routes fun w hw => hr w (hd' w hw)
 · rw [hb']
   exact forall_created_upsertAll hs.backends fun w hw => hb w (hd'' w hw)

lemma holdsExactly_iff_fits {α : Type} {key : Written α → ObjectKey}
  {sto : KeyedMap ObjectKey (Written α)} {l : List (Written α)} {nam : List ObjectKey}
  (hso : ∀ k w, sto.find? k = some w → id.Owns w → id.Created w)
  (hl : ∀ w ∈ l, id.Created w) (hn : (l.map key).Nodup) (hm : ∀ k, k ∈ l.map key ↔ k ∈ nam) :
  HoldsExactly id.Owns key (upsertAll key applySpec sto l) l ↔ Fits id sto nam := by
 have hf := keepsOwner_applySpec.holdsExactly_upsertAll_iff (fun w hw => (hl w hw).owns) hn
  fun k old hfi ho w hw => applySpec_of_created (hso k old hfi ho) (hl w hw)
 simp only [hm] at hf
 exact hf

lemma converged_iff_fits (hs : AllCreated id s) (his : ing.Is id)
  (hwr : WritesAll (translate env ing) s t) :
  Converged id (translate env ing) t ↔ FitsVersion id s ing := by
 obtain ⟨hg,hr,hb⟩ := @Ingress.Is.created_translate id env ing his
 have hg' : HoldsExactly id.Owns gatewayKey t.gateways [(translate env ing).gateway] ↔
   Fits id s.gateways ing.gatewayKeys := by
  rw [hwr.gateways]
  refine holdsExactly_iff_fits hs.gateways (fun w hw => ?_) (nodup_singleton _) fun k => Iff.rfl
  rw [mem_singleton.mp hw]
  exact hg
 have hr' : HoldsExactly id.Owns routeKey t.routes (translate env ing).routes ↔
   Fits id s.routes ing.routeKeys := by
  rw [hwr.routes]
  refine holdsExactly_iff_fits hs.routes hr ?_ fun k => by rw [keys_translate_routes]
  rw [keys_translate_routes]
  exact nodup_routeKeys
 have hb' : HoldsExactly id.Owns backendKey t.backends (translate env ing).backends ↔
   Fits id s.backends ing.backendKeys := by
  rw [hwr.backends]
  exact holdsExactly_iff_fits hs.backends hb nodup_translate_backends
   fun k => mem_translate_backends_iff
 constructor
 · intro h
   exact ⟨hg'.mp h.gateways,hr'.mp h.routes,hb'.mp h.backends⟩
 · intro h
   exact ⟨hg'.mpr h.gateways,hr'.mpr h.routes,hb'.mpr h.backends⟩

end

inductive IngressEvent
 | edit (ingress : Ingress)
 | reconcile (env : TranslateEnv) (errors : ApiErrors)
 | foreign (after : IngressCluster)

def SameOwned {α : Type} (id : IngressIdentity) (store store' : KeyedMap ObjectKey (Written α)) : Prop :=
 ∀ k w, id.Owns w → (store'.find? k = some w ↔ store.find? k = some w)

structure IngressCluster.OwnsNothing (s : IngressCluster) (id : IngressIdentity) : Prop where
 gateways : ∀ k, ¬ Holds id.Owns s.gateways k
 routes : ∀ k, ¬ Holds id.Owns s.routes k
 backends : ∀ k, ¬ Holds id.Owns s.backends k

/-- The Ingress is edited and reconciled, with or without errors, and others change the objects that
it does not own. -/
def ingressSystem (id : IngressIdentity) (ingressClass : String) :
  TransitionSystem IngressCluster IngressEvent where
 init s := s.OwnsNothing id ∧ ∀ ingress, s.ingress = some ingress → ingress.Is id
 step s event t := match event with
  | .edit ingress => ingress.Is id ∧ t = { s with ingress := some ingress }
  | .reconcile env errors => t = (reconcile ingressClass env errors s).1
  | .foreign after => t = after ∧ after.ingress = s.ingress ∧
   SameOwned id s.gateways after.gateways ∧ SameOwned id s.routes after.routes ∧
   SameOwned id s.backends after.backends

structure Settled (id : IngressIdentity) (s : IngressCluster) : Prop where
 ingress : ∀ ingress, s.ingress = some ingress → ingress.Is id
 created : AllCreated id s

section
variable {id : IngressIdentity} {ic : String} {s t : IngressCluster}

lemma IngressCluster.OwnsNothing.allCreated (h : s.OwnsNothing id) : AllCreated id s where
 gateways k w hf hw := absurd ⟨w,hf,hw⟩ (h.gateways k)
 routes k w hf hw := absurd ⟨w,hf,hw⟩ (h.routes k)
 backends k w hf hw := absurd ⟨w,hf,hw⟩ (h.backends k)

lemma Settled.reconcile (hs : Settled id s) (env : TranslateEnv) (errs : ApiErrors) :
  Settled id (reconcile ic env errs s).1 := by
 have hm := @reconcile_ingress ic env errs s
 cases hn : s.ingress with
 | none =>
  have ha : (Networking.reconcile ic env errs s).1 = s := by
   unfold Networking.reconcile
   rw [hn]
   cases errs.getIngress <;> rfl
  rw [ha]
  exact hs
 | some ingress =>
  have his := hs.ingress ingress hn
  refine ⟨fun post hf => ?_,hs.created.writes his (reconcile_writes hn)⟩
  rw [hf,hn,Option.map_some,Option.map_some,Option.some.injEq] at hm
  rw [Ingress.Is,hm]
  exact his

lemma Settled.step (hs : Settled id s) {eve : IngressEvent}
  (ht : (ingressSystem id ic).step s eve t) : Settled id t := by
 cases eve with
 | edit ingress =>
  obtain ⟨his,rfl⟩ := ht
  refine ⟨fun post ha => ?_,⟨hs.created.gateways,hs.created.routes,hs.created.backends⟩⟩
  cases ha
  exact his
 | reconcile env errors =>
  obtain rfl := ht
  exact hs.reconcile env errors
 | foreign post =>
  obtain ⟨rfl,hn,hg,hr,hb⟩ := ht
  refine ⟨fun ingress ho => hs.ingress ingress (hn ▸ ho),?_,?_,?_⟩
  · exact fun k w hf hw => hs.created.gateways k w ((hg k w hw).mp hf) hw
  · exact fun k w hf hw => hs.created.routes k w ((hr k w hw).mp hf) hw
  · exact fun k w hf hw => hs.created.backends k w ((hb k w hw).mp hf) hw

lemma settled_of_reachable (h : (ingressSystem id ic).Reachable s) : Settled id s := by
 exact h.invariant (fun s hs => ⟨hs.2,hs.1.allCreated⟩) fun s event t hs ht => hs.step ht

theorem converged_reconcile_iff (hr : (ingressSystem id ic).Reachable s)
  {ing : Ingress} (hn : s.ingress = some ing)
  (hc : shouldProcessIngress ic ing = true) (hl : ing.deleting = false)
  {env : TranslateEnv} {errs : ApiErrors} (ho : (reconcile ic env errs s).2 = none) :
  Converged id (translate env ing) (reconcile ic env errs s).1 ↔ FitsVersion id s ing := by
 have hs := settled_of_reachable hr
 exact converged_iff_fits hs.created (hs.ingress ing hn) (reconcile_writesAll hn hc hl ho)

end

structure Edit (id : IngressIdentity) (ingressClass : String) where
 ingress : Ingress
 is_id : ingress.Is id
 of_class : shouldProcessIngress ingressClass ingress = true
 live : ingress.deleting = false
 env : TranslateEnv
 errors : ApiErrors := {}

section
variable {id : IngressIdentity} {ingressClass : String}

def Edit.apply (e : Edit id ingressClass) (s : IngressCluster) : IngressCluster × Option String :=
 reconcile ingressClass e.env e.errors { s with ingress := some e.ingress }

def runEdit (s : IngressCluster) (e : Edit id ingressClass) : IngressCluster := (e.apply s).1

def Succeed (s : IngressCluster) (edits : List (Edit id ingressClass)) : Prop :=
 Along runEdit (fun s e => (e.apply s).2 = none) s edits

def NamesKept {α : Type} (store : KeyedMap ObjectKey (Written α)) (earlier last : List ObjectKey) : Prop :=
 (∀ k ∈ earlier, k ∈ last ∨ (store.find? k).isSome) ∧ ∀ k ∈ last, store.find? k = none

structure VersionsKept (s : IngressCluster) (edits : List (Edit id ingressClass))
  (last : Edit id ingressClass) : Prop where
 gateways : NamesKept s.gateways (edits.flatMap (·.ingress.gatewayKeys))
  last.ingress.gatewayKeys
 routes : NamesKept s.routes (edits.flatMap (·.ingress.routeKeys)) last.ingress.routeKeys
 backends : NamesKept s.backends (edits.flatMap (·.ingress.backendKeys))
  last.ingress.backendKeys

variable {s : IngressCluster}

lemma Edit.writesAll {e : Edit id ingressClass} (ho : (e.apply s).2 = none) :
  WritesAll (translate e.env e.ingress) s (runEdit s e) := by
 have h := reconcile_writesAll (s := { s with ingress := some e.ingress }) rfl e.of_class e.live ho
 exact ⟨h.gateways,h.routes,h.backends⟩

lemma reachable_runEdits (edi : List (Edit id ingressClass))
  (hre : (ingressSystem id ingressClass).Reachable s) :
  (ingressSystem id ingressClass).Reachable (edi.foldl runEdit s) := by
 induction edi generalizing s with
 | nil => exact hre
 | cons e edi ih =>
  have hei : (ingressSystem id ingressClass).step s (.edit e.ingress)
    { s with ingress := some e.ingress } := ⟨e.is_id,rfl⟩
  have hr : (ingressSystem id ingressClass).step { s with ingress := some e.ingress }
    (.reconcile e.env e.errors) (runEdit s e) := rfl
  exact ih (.next (.next hre hei) hr)

def Claims {α : Type} (id : IngressIdentity) (store : KeyedMap ObjectKey (Written α))
  (names : List ObjectKey) (store' : KeyedMap ObjectKey (Written α)) : Prop :=
 ∀ k, (Holds id.Owns store' k ↔ Holds id.Owns store k ∨ k ∈ names ∧ ¬ Taken id.Owns store k) ∧
  (Taken id.Owns store' k ↔ Taken id.Owns store k)

variable {α : Type}

lemma Claims.refl (sto : KeyedMap ObjectKey (Written α)) : Claims id sto [] sto := by
 intro k
 simp

lemma Claims.trans {st st' sto'' : KeyedMap ObjectKey (Written α)}
  {nms nam' : List ObjectKey} (h : Claims id st nms st')
  (h' : Claims id st' nam' sto'') : Claims id st (nms ++ nam') sto'' := by
 intro k
 obtain ⟨hh,ht⟩ := h k
 obtain ⟨hh',ht'⟩ := h' k
 rw [hh,ht] at hh'
 refine ⟨hh'.trans ?_,ht'.trans ht⟩
 rw [mem_append,or_assoc,or_and_right]

lemma claims_upsertAll {key : Written α → ObjectKey}
  {st : KeyedMap ObjectKey (Written α)} {l : List (Written α)} {nms : List ObjectKey}
  (hl : ∀ w ∈ l, id.Created w) (hn : ∀ k, k ∈ l.map key ↔ k ∈ nms) :
  Claims id st nms (upsertAll key applySpec st l) := by
 intro k
 have ho : ∀ w ∈ l, id.Owns w := fun w hw => (hl w hw).owns
 rw [← hn]
 exact ⟨keepsOwner_applySpec.holds_upsertAll_iff ho,keepsOwner_applySpec.taken_upsertAll_iff ho⟩

structure ClaimsVersions (s : IngressCluster) (edits : List (Edit id ingressClass))
  (t : IngressCluster) : Prop where
 gateways : Claims id s.gateways (edits.flatMap (·.ingress.gatewayKeys)) t.gateways
 routes : Claims id s.routes (edits.flatMap (·.ingress.routeKeys)) t.routes
 backends : Claims id s.backends (edits.flatMap (·.ingress.backendKeys)) t.backends

lemma claims_runEdit {e : Edit id ingressClass} (ho : (e.apply s).2 = none) :
  Claims id s.gateways e.ingress.gatewayKeys (runEdit s e).gateways ∧
   Claims id s.routes e.ingress.routeKeys (runEdit s e).routes ∧
   Claims id s.backends e.ingress.backendKeys (runEdit s e).backends := by
 obtain ⟨hg,hr,hb⟩ := @Ingress.Is.created_translate id e.env e.ingress e.is_id
 have hwr := Edit.writesAll ho
 refine ⟨?_,?_,?_⟩
 · rw [hwr.gateways]
   refine claims_upsertAll (fun w hw => ?_) fun k => Iff.rfl
   rw [mem_singleton.mp hw]
   exact hg
 · rw [hwr.routes]
   exact claims_upsertAll hr fun k => by rw [keys_translate_routes]
 · rw [hwr.backends]
   exact claims_upsertAll hb fun k => mem_translate_backends_iff

lemma claims_runEdits {edi : List (Edit id ingressClass)} (ho : Succeed s edi) :
  ClaimsVersions s edi (edi.foldl runEdit s) := by
 induction edi generalizing s with
 | nil => exact ⟨Claims.refl _,Claims.refl _,Claims.refl _⟩
 | cons e edi ih =>
  obtain ⟨hg,hr,hb⟩ := claims_runEdit ho.1
  have hrs := ih ho.2
  exact ⟨hg.trans hrs.gateways,hr.trans hrs.routes,hb.trans hrs.backends⟩

lemma Claims.fits_iff {st st' : KeyedMap ObjectKey (Written α)}
  {ear : List ObjectKey} (hc : Claims id st ear st')
  (hn : ∀ k, ¬ Holds id.Owns st k) (last : List ObjectKey) :
  Fits id st' last ↔ NamesKept st ear last := by
 have hf : ∀ k, st.find? k = none ↔ ¬ Taken id.Owns st k := by
  intro k
  have hf : st.find? k = none ↔ ¬ Holds id.Owns st k ∧ ¬ Taken id.Owns st k :=
   KeyedMap.find?_eq_none_iff_free
  exact hf.trans (and_iff_right (hn k))
 have hh : ∀ k, (Holds id.Owns st' k → k ∈ last) ↔
   (k ∈ ear → k ∈ last ∨ (st.find? k).isSome) := by
  intro k
  rw [(hc k).1,← Option.ne_none_iff_isSome,ne_eq,hf,not_not]
  constructor
  · intro hin ha
    by_cases ht : Taken id.Owns st k
    · exact .inr ht
    · exact .inl (hin (.inr ⟨ha,ht⟩))
  · intro hk hh
    rcases hh with hh | ⟨ha,hf⟩
    · exact absurd hh (hn k)
    · exact (hk ha).resolve_right hf
 simp only [Fits,NamesKept,hh,(hc _).2,hf]

theorem ingress_converges_iff (id : IngressIdentity) (ingressClass : String) (s : IngressCluster)
  (hinit : (ingressSystem id ingressClass).init s) (edits : List (Edit id ingressClass))
  (last : Edit id ingressClass) (hok : Succeed s (edits ++ [last])) :
  Converged id (translate last.env last.ingress) ((edits ++ [last]).foldl runEdit s) ↔
   VersionsKept s edits last := by
 obtain ⟨hed,hl⟩ := along_append_singleton.mp hok
 have hre := reachable_runEdits edits (.start hinit)
 have hei : (ingressSystem id ingressClass).Reachable
   { edits.foldl runEdit s with ingress := some last.ingress } :=
  .next hre (i := .edit last.ingress) ⟨last.is_id,rfl⟩
 have ho := converged_reconcile_iff hei rfl last.of_class last.live hl
 have hc := claims_runEdits hed
 have hg := hc.gateways.fits_iff hinit.1.gateways last.ingress.gatewayKeys
 have hr := hc.routes.fits_iff hinit.1.routes last.ingress.routeKeys
 have hb := hc.backends.fits_iff hinit.1.backends last.ingress.backendKeys
 rw [foldl_append]
 refine ho.trans ⟨fun h => ?_,fun h => ?_⟩
 · exact ⟨hg.mp h.gateways,hr.mp h.routes,hb.mp h.backends⟩
 · exact ⟨hg.mpr h.gateways,hr.mpr h.routes,hb.mpr h.backends⟩

end

def shopId : IngressIdentity := ⟨"shop","edge","7f"⟩

def plainEnv : TranslateEnv where
 lib :=
  { parseDuration := fun _ => none
    parseInt32 := fun _ => none
    parseInt64 := fun _ => none
    unmarshalHeaders := fun _ => none
    unmarshalErrorPages := fun _ => none
    toLower := id
    toUpper := id
    trimSpace := id }
 services := fun _ => none
 hostOrder := ⟨id,fun _ => List.Perm.refl _⟩
 headerOrder := fun _ _ => ⟨id,fun _ => List.Perm.refl _⟩
 backendOrder := ⟨id,fun _ => List.Perm.refl _⟩

def shopVersion (hosts : List String) : Edit shopId "" where
 ingress :=
  { name := "shop", ns := "edge", uid := "7f"
    ingressClassName := some "novaedge"
    rules := hosts.map fun host =>
     { host := host, http := some [{ path := "/", backend := { service := some { name := "web" } } }] } }
 is_id := ⟨rfl,rfl,rfl⟩
 of_class := by simp [shouldProcessIngress,Ingress.getIngressClassName,ingressClassNameNovaEdge]
 live := rfl
 env := plainEnv

lemma init_empty : (ingressSystem shopId "").init {} :=
 ⟨⟨fun _ => by simp [Holds],fun _ => by simp [Holds],fun _ => by simp [Holds]⟩,by simp⟩

theorem added_host_converges :
  VersionsKept {} [shopVersion ["shop.example"]] (shopVersion ["shop.example","new.example"]) ∧
   Converged shopId (translate plainEnv (shopVersion ["shop.example","new.example"]).ingress)
    ([shopVersion ["shop.example"],shopVersion ["shop.example","new.example"]].foldl
     runEdit {}) := by
 have hk : VersionsKept {} [shopVersion ["shop.example"]]
   (shopVersion ["shop.example","new.example"]) := by
  refine ⟨⟨?_,?_⟩,⟨?_,?_⟩,⟨?_,?_⟩⟩ <;> decide
 exact ⟨hk,(ingress_converges_iff shopId "" {} init_empty [_] _ ⟨rfl,rfl,trivial⟩).mpr hk⟩

/-- A host that is removed keeps its route. -/
theorem removed_host_stays : (ingressSystem shopId "").init {} ∧
      Succeed {} [shopVersion ["shop.example","old.example"],shopVersion ["shop.example"]] ∧
      ¬ Converged shopId (translate plainEnv (shopVersion ["shop.example"]).ingress)
       ([shopVersion ["shop.example","old.example"],shopVersion ["shop.example"]].foldl
        runEdit {}) ∧
      ∃ w, ([shopVersion ["shop.example","old.example"],shopVersion ["shop.example"]].foldl
        runEdit {}).routes.find? ("edge","shop-route-1") = some w ∧ shopId.Owns w ∧
       w.spec.hostnames = ["old.example"] := by
 refine ⟨init_empty,⟨rfl,rfl,trivial⟩,fun hc => ?_,_,rfl,mem_singleton_self _,rfl⟩
 have hr := (hc.routes ("edge","shop-route-1") _).mp ⟨rfl,mem_singleton_self _⟩
 have hn := congrArg Prod.snd hr.2
 rw [mem_singleton.mp hr.1] at hn
 exact absurd hn (by decide)

end NovaEdge.Networking
