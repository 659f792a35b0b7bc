import NovaEdge.SnapshotListing

/-! When a snapshot does not depend on the order in which the objects of a cluster are listed, nor
on that in which maps are iterated. -/
namespace NovaEdge.Snapshot
open V1alpha1 SortOrder List Function SnapshotContent
open Config (Gateway)

section
variable (lib : BuilderLibrary) (objs : ClusterObjects)

/-- All builds from these objects, however they are listed and whenever, return the same version
and the same content. -/
def OrderIndependent (hash : SnapshotContent → String) : Prop :=
 ∀ objs₁ objs₂ now₁ now₂ s₁ s₂, Relists objs objs₁ → Relists objs objs₂ →
  IsBuild lib objs₁ hash now₁ s₁ → IsBuild lib objs₂ hash now₂ s₂ → s₁ = s₂

def BuildPanics : Prop :=
 ∃ gw ∈ objs.gateways, ∃ lis ∈ gw.listeners, listenerPanics objs.toBuildContext gw.ns lis = true

def ListensOnL4 (gw : Gateway) (lis : Config.Listener) : Prop :=
 (∃ src ∈ objs.gateways, buildGateway objs.toBuildContext src = gw) ∧ lis ∈ gw.listeners ∧ IsL4 lis

def IsCandidate (ns : String) (backend : L4Backend) : Prop :=
 ∃ r ∈ objs.routes, r.ns = ns ∧ routeBackend (buildEndpoints lib objs) ns r = some backend

/-- Backends without a name count as none, and endpoints are going to be sorted. -/
def SameBackend (a b : L4Backend) : Prop := a.1 = "" ∧ b.1 = "" ∨ a.1 = b.1 ∧ a.2.Perm b.2

/-- Names and addresses tell objects apart, what is joined commutes, and routes agree on L4
backends. -/
structure OrderFree : Prop where
 gateways : (objs.gateways.map ProxyGateway.name).Nodup
 routes : (objs.routes.map ProxyRoute.name).Nodup
 backends : (objs.backends.map ProxyBackend.name).Nodup
 policies : (objs.policies.map ProxyPolicy.name).Nodup
 wanLinks : (objs.wanLinks.map ProxyWANLink.name).Nodup
 wanPolicies : (objs.wanPolicies.map ProxyWANPolicy.name).Nodup
 endpoints : ∀ b ∈ objs.backends, ∀ eps, backendEndpoints lib objs b = some eps →
  ∀ ep ∈ eps, ∀ ep' ∈ eps, ep.address = ep'.address → ep = ep'
 rules : ∀ p ∈ objs.policies, ∀ text ∈ ruleTexts objs p, ∀ text' ∈ ruleTexts objs p,
  parseConfigMapRules text ++ parseConfigMapRules text' =
   parseConfigMapRules text' ++ parseConfigMapRules text
 slices : ∀ svc ∈ objs.services, svc.inMesh = true →
  ∀ es ∈ objs.getEndpointSlices svc.ns svc.name, ∀ es' ∈ objs.getEndpointSlices svc.ns svc.name,
   meshSliceEndpoints es ++ meshSliceEndpoints es' =
    meshSliceEndpoints es' ++ meshSliceEndpoints es
 l4Backends : ∀ gw lis, ListensOnL4 objs gw lis → ∀ v v', IsCandidate lib objs gw.ns v →
  IsCandidate lib objs gw.ns v' → SameBackend v v'
 l4Names : ∀ gw lis gw' lis', ListensOnL4 objs gw lis → ListensOnL4 objs gw' lis' →
  l4Name gw lis = l4Name gw' lis' → ∀ v v', IsCandidate lib objs gw.ns v →
  IsCandidate lib objs gw'.ns v' → v.1 ≠ "" → v'.1 ≠ "" → SameService lis lis' ∧ SameBackend v v'
 credentials : Marshals objs

end

/-- Messages show namespace and name, so that names tell messages apart if they do so for the
objects. -/
lemma uniqueBy_name_iff {α β : Type*} {l : List α} {ns name : α → String} {f : α → β}
  (ns' : β → String) {nam' : β → String} (hnd : (l.map fun o => objectKey (ns o) (name o)).Nodup)
  (hns : ∀ o, ns' (f o) = ns o) (hn : ∀ o, nam' (f o) = name o) :
  UniqueBy nam' (l.map f) ↔ (l.map name).Nodup := by
 refine uniqueBy_map_iff (List.Nodup.of_map _ hnd) ?_ hn
 intro a ha b hb hab
 have hk : objectKey (ns a) (name a) = objectKey (ns b) (name b) := by rw [← hns,← hn,hab,hns,hn]
 exact inj_on_of_nodup_map hnd ha hb hk

variable {rts : List ProxyRoute}

section
variable {lib : BuilderLibrary} {objs : ClusterObjects}

lemma uniqueBy_serviceMessage_key : UniqueBy ServiceMessage.key (serviceMessages lib objs) := by
 intro a ha b hb hk
 obtain ⟨svc,hv,rfl⟩ := mem_map.mp ha
 obtain ⟨svc',hs',rfl⟩ := mem_map.mp hb
 obtain ⟨hn,hna⟩ := Prod.mk.inj (toLex.injective hk)
 rw [objs.service_ext (mem_filter.mp hv).1 (mem_filter.mp hs').1 hn hna]

lemma uniqueBy_gateway_name : UniqueBy Gateway.name
  (objs.gateways.map (buildGateway objs.toBuildContext)) ↔
   (objs.gateways.map ProxyGateway.name).Nodup :=
 uniqueBy_name_iff Gateway.ns objs.gateways_nodup (fun _ => rfl) fun _ => rfl

lemma uniqueBy_route_name : UniqueBy Config.Route.name
  (buildRoutes lib.toGoLibrary objs.toBuildContext) ↔ (objs.routes.map ProxyRoute.name).Nodup :=
 uniqueBy_name_iff Config.Route.ns objs.routes_nodup (fun _ => rfl) fun _ => rfl

lemma uniqueBy_cluster_name : UniqueBy Config.Cluster.name (buildClusters lib objs) ↔
  (objs.backends.map ProxyBackend.name).Nodup :=
 uniqueBy_name_iff Config.Cluster.ns objs.backends_nodup (fun _ => rfl) fun _ => rfl

lemma uniqueBy_wanLink_name : UniqueBy LinkMessage.name (objs.wanLinks.map buildWANLink) ↔
  (objs.wanLinks.map ProxyWANLink.name).Nodup :=
 uniqueBy_name_iff LinkMessage.ns objs.wanLinks_nodup (fun _ => rfl) fun _ => rfl

lemma uniqueBy_wanPolicy_name :
  UniqueBy WANPolicyMessage.name (objs.wanPolicies.map buildWANPolicy) ↔
   (objs.wanPolicies.map ProxyWANPolicy.name).Nodup :=
 uniqueBy_name_iff WANPolicyMessage.ns objs.wanPolicies_nodup (fun _ => rfl) fun _ => rfl

def policyMessages (lib : BuilderLibrary) (objs : ClusterObjects)
  (texts : ProxyPolicy → List String) : List PolicyMessage :=
 objs.policies.map fun p => policyMessage lib objs p (texts p)

lemma uniqueBy_name_policyMessages (txs : ProxyPolicy → List String) :
  UniqueBy (·.name) (policyMessages lib objs txs) ↔ (objs.policies.map ProxyPolicy.name).Nodup :=
 uniqueBy_name_iff (fun m : PolicyMessage => m.ns) objs.policies_nodup (fun _ => rfl) fun _ => rfl

lemma isPolicyMessage_policyMessages {txs : ProxyPolicy → List String}
  (h : ∀ p, (txs p).Perm (ruleTexts objs p)) :
  List.Forall₂ (IsPolicyMessage lib objs) objs.policies (policyMessages lib objs txs) := by
 rw [policyMessages,forall₂_map_right_iff,forall₂_same]
 exact fun p _ => ⟨txs p,h p,rfl⟩

lemma exists_isSortedContent {gat : List Gateway}
  (hb : buildGateways objs.toGatewayContext = some gat) : ∃ c, IsSortedContent lib objs c := by
 have hn : ∀ key, ∃ eps, Option.Rel (SortedByName (·.address))
   (buildEndpoints lib objs key) eps := by
  intro key
  cases buildEndpoints lib objs key with
  | none => exact ⟨none,.none⟩
  | some eps =>
   obtain ⟨sorted,ho⟩ := exists_sortedBy (·.address) eps
   exact ⟨some sorted,.some ho⟩
 choose endpoints hn using hn
 obtain ⟨gws,hg⟩ := exists_sortedBy Gateway.name gat
 obtain ⟨rts,hr⟩ := exists_sortedBy Config.Route.name
  (buildRoutes lib.toGoLibrary objs.toBuildContext)
 obtain ⟨cls,hl⟩ := exists_sortedBy Config.Cluster.name (buildClusters lib objs)
 obtain ⟨pols,hp⟩ := exists_sortedBy (fun m : PolicyMessage => m.name)
  (policyMessages lib objs (ruleTexts objs))
 obtain ⟨mesh,hm⟩ := exists_sortedBy Mesh.MeshAuthorizationPolicy.name
  (objs.policies.filterMap buildMeshAuthorizationPolicy)
 obtain ⟨lks,hli⟩ := exists_sortedBy LinkMessage.name (objs.wanLinks.map buildWANLink)
 obtain ⟨wan,hw⟩ := exists_sortedBy WANPolicyMessage.name (objs.wanPolicies.map buildWANPolicy)
 exact ⟨⟨gws,rts,cls,endpoints,pols,[],[],mesh,lks,wan⟩,⟨gat,hb,hg⟩,hr,hl,hn,
  ⟨_,isPolicyMessage_policyMessages fun _ => .refl _,hp⟩,hm,hli,hw⟩

variable {c : SnapshotContent}

lemma IsSortedContent.exists_isContent (h : IsSortedContent lib objs c) : ∃ l4 svcs,
      IsContent lib objs { c with l4Listeners := l4, internalServices := svcs } := by
 obtain ⟨gws,hb,-⟩ := h.gateways
 obtain ⟨l4,hl⟩ := exists_sortedBy L4Listener.name (buildL4Listeners gws c.endpoints objs.routes)
 obtain ⟨svcs,hse⟩ := exists_sortedBy ServiceMessage.key (serviceMessages lib objs)
 exact ⟨l4,svcs,
  { h with l4Listeners := ⟨gws,hb,hl⟩, internalServices := hse }⟩

lemma IsSortedContent.exists_isContent_withRoutes (h : IsSortedContent lib objs c)
  (hr : rts.Perm objs.routes) :
  ∃ l4 svcs, IsContent lib (objs.withRoutes rts hr)
    { c with l4Listeners := l4, internalServices := svcs } ∧
   l4.Perm (buildL4Listeners (objs.gateways.map (buildGateway objs.toBuildContext))
    c.endpoints rts) := by
 have hre := relists_withRoutes hr
 obtain ⟨l4,svcs,hf⟩ := (hre.symm.isSortedContent h).exists_isContent
 obtain ⟨gws,hb,ho⟩ := hf.l4Listeners
 have hg := eq_of_buildGateways hb
 exact ⟨l4,svcs,hf,hg ▸ ho.1⟩

lemma IsContent.exists_isBuild (h : IsContent lib objs c) (hash : SnapshotContent → String)
  (now : ℤ) : ∃ ver, IsBuild lib objs hash now ⟨ver,c⟩ := by
 by_cases hm : Marshals objs
 · exact ⟨hash c,h,fun _ => rfl,fun hn => absurd hm hn⟩
 · exact ⟨"err-" ++ toString now,h,fun hy => absurd hy hm,fun _ => rfl⟩

def SortsTo (v w : L4Backend) : Prop :=
 v.1 = w.1 ∧ SortedByName (·.address) v.2 w.2 ∧ UniqueBy (·.address) v.2

lemma sameBackend_iff {v v' w w' : L4Backend} (h : SortsTo v w) (h' : SortsTo v' w') :
  SameBackend v v' ↔ Interchangeable w w' := by
 obtain ⟨hn,ho,huni⟩ := h
 obtain ⟨hn',hs',-⟩ := h'
 unfold SameBackend Interchangeable
 rw [hn,hn']
 refine or_congr_right ⟨?_,?_⟩
 · rintro ⟨hm,hp⟩
   exact Prod.ext hm (huni.sorted_eq ho (SortedBy.of_perm hs' hp.symm))
 · rintro rfl
   exact ⟨rfl,ho.1.symm.trans hs'.1⟩

section
variable {c : SnapshotContent} (hc : IsSortedContent lib objs c)
 (huni : ∀ b ∈ objs.backends, ∀ eps, backendEndpoints lib objs b = some eps →
  UniqueBy (·.address) eps)
include hc huni

lemma routeBackend_rel (ns : String) (r : ProxyRoute) :
  Option.Rel SortsTo (routeBackend (buildEndpoints lib objs) ns r)
   (routeBackend c.endpoints ns r) := by
 refine findSome?_rel fun rule _ => findSome?_rel fun ref _ => ?_
 have ho := hc.endpoints (objectKey (ref.ns.getD ns) ref.name)
 cases hp : buildEndpoints lib objs (objectKey (ref.ns.getD ns) ref.name) with
 | none =>
  rw [hp] at ho
  rw [eq_none_of_rel_none ho]
  exact .none
 | some eps =>
  rw [hp] at ho
  obtain ⟨sorted,hm,ho⟩ := exists_of_rel_some ho
  obtain ⟨b,hb,-,ha⟩ := buildEndpoints_eq_some_iff.mp hp
  rw [hm]
  exact .some ⟨rfl,ho,huni b hb eps ha⟩

lemma IsCandidate.exists_sortsTo {ns : String} {v : L4Backend} (h : IsCandidate lib objs ns v) :
  ∃ r ∈ objs.routes, r.ns = ns ∧ ∃ w, routeBackend c.endpoints ns r = some w ∧ SortsTo v w := by
 obtain ⟨r,hr,hn,hv⟩ := h
 have hre := routeBackend_rel hc huni ns r
 rw [hv] at hre
 obtain ⟨w,hw,ho⟩ := exists_of_rel_some hre
 exact ⟨r,hr,hn,w,hw,ho⟩

lemma exists_isCandidate {ns : String} {w : L4Backend} {r : ProxyRoute} (hr : r ∈ objs.routes)
  (hn : r.ns = ns) (hw : routeBackend c.endpoints ns r = some w) :
  ∃ v, IsCandidate lib objs ns v ∧ SortsTo v w := by
 have hre := routeBackend_rel hc huni ns r
 rw [hw] at hre
 obtain ⟨v,hv,ho⟩ := exists_of_rel_some_right hre
 exact ⟨v,⟨r,hr,hn,hv⟩,ho⟩

end

namespace OrderIndependent
variable {hash : SnapshotContent → String} {c c₁ c₂ : SnapshotContent}

section
variable (h : OrderIndependent lib objs hash)
include h

lemma content_eq {obj ob : ClusterObjects} (h₁ : Relists objs obj)
  (h₂ : Relists objs ob) (hc₁ : IsContent lib obj c₁) (hc₂ : IsContent lib ob c₂) : c₁ = c₂ := by
 obtain ⟨v₁,hb₁⟩ := hc₁.exists_isBuild hash 0
 obtain ⟨v₂,hb₂⟩ := hc₂.exists_isBuild hash 0
 exact congrArg BuiltSnapshot.content (h _ _ _ _ _ _ h₁ h₂ hb₁ hb₂)

lemma sorted_eq (hc₁ : IsSortedContent lib objs c₁) (hc₂ : IsSortedContent lib objs c₂)
  {β : Type*} (part : SnapshotContent → β) (hp : ∀ c l4 svcs,
   part { c with l4Listeners := l4, internalServices := svcs } = part c) :
  part c₁ = part c₂ := by
 obtain ⟨l4₁,services₁,hfull₁⟩ := hc₁.exists_isContent
 obtain ⟨l4₂,services₂,hfull₂⟩ := hc₂.exists_isContent
 have hq := congrArg part (h.content_eq (.refl objs) (.refl objs) hfull₁ hfull₂)
 exact (hp c₁ l4₁ services₁).symm.trans (hq.trans (hp c₂ l4₂ services₂))

/-- A part that can be exchanged for any other sorting of the same list is sorted by a key that
tells the elements apart. -/
lemma uniqueBy_of_part {α : Type*} {key : α → String} {bui : List α}
  (part : SnapshotContent → List α) (set : List α → SnapshotContent) (hp : ∀ c l4 services,
   part { c with l4Listeners := l4, internalServices := services } = part c)
  (hse : ∀ s, part (set s) = s)
  (hv : ∀ s, SortedByName key bui s → IsSortedContent lib objs (set s)) :
  UniqueBy key bui := by
 refine uniqueBy_of_sorted_eq key fun s s' hs hs' => ?_
 have hq := h.sorted_eq (hv s hs) (hv s' hs') part hp
 rwa [hse,hse] at hq

end

variable (h : OrderIndependent lib objs hash) (hc : IsSortedContent lib objs c)
include h hc

lemma nodup_gateways : (objs.gateways.map ProxyGateway.name).Nodup := by
 obtain ⟨gateways,hb,-⟩ := hc.gateways
 obtain rfl := eq_of_buildGateways hb
 exact uniqueBy_gateway_name.mp
  (h.uniqueBy_of_part gateways (fun s => { c with gateways := s })
   (fun _ _ _ => rfl) (fun _ => rfl) fun _ hs => { hc with gateways := ⟨_,hb,hs⟩ })

lemma nodup_routes : (objs.routes.map ProxyRoute.name).Nodup := uniqueBy_route_name.mp
  (h.uniqueBy_of_part routes (fun s => { c with routes := s })
   (fun _ _ _ => rfl) (fun _ => rfl) fun _ hs => { hc with routes := hs })

lemma nodup_backends : (objs.backends.map ProxyBackend.name).Nodup := uniqueBy_cluster_name.mp
  (h.uniqueBy_of_part clusters (fun s => { c with clusters := s })
   (fun _ _ _ => rfl) (fun _ => rfl) fun _ hs => { hc with clusters := hs })

lemma nodup_wanLinks : (objs.wanLinks.map ProxyWANLink.name).Nodup := uniqueBy_wanLink_name.mp
  (h.uniqueBy_of_part wanLinks (fun s => { c with wanLinks := s })
   (fun _ _ _ => rfl) (fun _ => rfl) fun _ hs => { hc with wanLinks := hs })

lemma nodup_wanPolicies : (objs.wanPolicies.map ProxyWANPolicy.name).Nodup :=
 uniqueBy_wanPolicy_name.mp
  (h.uniqueBy_of_part wanPolicies (fun s => { c with wanPolicies := s })
   (fun _ _ _ => rfl) (fun _ => rfl) fun _ hs => { hc with wanPolicies := hs })

lemma nodup_policies : (objs.policies.map ProxyPolicy.name).Nodup :=
 (uniqueBy_name_policyMessages (ruleTexts objs)).mp
  (h.uniqueBy_of_part policies (fun s => { c with policies := s })
   (fun _ _ _ => rfl) (fun _ => rfl) fun _ hs =>
    { hc with policies := ⟨_,isPolicyMessage_policyMessages fun _ => .refl _,hs⟩ })

lemma uniqueBy_address : ∀ b ∈ objs.backends, ∀ eps, backendEndpoints lib objs b = some eps →
  UniqueBy (·.address) eps := by
 intro b hb eps hp
 have hke : buildEndpoints lib objs (objectKey b.ns b.name) = some eps :=
  buildEndpoints_eq_some_iff.mpr ⟨b,hb,rfl,hp⟩
 refine h.uniqueBy_of_part (fun c => (c.endpoints (objectKey b.ns b.name)).getD [])
  (fun s => { c with
   endpoints := Function.update c.endpoints (objectKey b.ns b.name) (some s) })
  (fun _ _ _ => rfl) (fun _ => by simp) fun s hs => { hc with endpoints := fun key => ?_ }
 dsimp only
 by_cases hk : key = objectKey b.ns b.name
 · rw [hk,hke,update_self]
   exact .some hs
 · rw [update_of_ne hk]
   exact hc.endpoints key

open Classical in
lemma rules_eq {p : ProxyPolicy} (hp : p ∈ objs.policies) {tex te : List String}
  (h₁ : tex.Perm (ruleTexts objs p)) (h₂ : te.Perm (ruleTexts objs p)) :
  tex.flatMap parseConfigMapRules = te.flatMap parseConfigMapRules := by
 have hpe : ∀ {txs : List String}, txs.Perm (ruleTexts objs p) →
   ∀ q, (Function.update (ruleTexts objs) p txs q).Perm (ruleTexts objs q) := by
  intro txs ht q
  by_cases hq : q = p
  · rw [hq,update_self]
    exact ht
  · rw [update_of_ne hq]
 obtain ⟨s₁,hs₁⟩ := exists_sortedBy (fun m : PolicyMessage => m.name)
  (policyMessages lib objs (Function.update (ruleTexts objs) p tex))
 obtain ⟨s₂,hs₂⟩ := exists_sortedBy (fun m : PolicyMessage => m.name)
  (policyMessages lib objs (Function.update (ruleTexts objs) p te))
 have hc₁ : IsSortedContent lib objs { c with policies := s₁ } :=
  { hc with policies := ⟨_,isPolicyMessage_policyMessages (hpe h₁),hs₁⟩ }
 have hc₂ : IsSortedContent lib objs { c with policies := s₂ } :=
  { hc with policies := ⟨_,isPolicyMessage_policyMessages (hpe h₂),hs₂⟩ }
 have heq : s₁ = s₂ := h.sorted_eq hc₁ hc₂ policies fun _ _ _ => rfl
 -- The message of the policy is in both lists, and no other policy has its namespace and name.
 have hme : policyMessage lib objs p tex ∈
   policyMessages lib objs (Function.update (ruleTexts objs) p tex) :=
  mem_map.mpr ⟨p,hp,by rw [update_self]⟩
 obtain ⟨q,hq,hm⟩ := mem_map.mp (hs₂.1.mem_iff.mp (heq ▸ hs₁.1.mem_iff.mpr hme))
 have hn : q.ns = p.ns := congrArg (fun m : PolicyMessage => m.ns) hm
 have ha : q.name = p.name := congrArg (fun m : PolicyMessage => m.name) hm
 obtain rfl := inj_on_of_nodup_map objs.policies_nodup hq hp (by rw [hn,ha])
 rw [update_self] at hm
 exact (append_cancel_left (congrArg PolicyMessage.customRules hm)).symm

lemma endpoints_eq {svc : Mesh.K8sService} (hv : svc ∈ objs.services) (hn : svc.inMesh = true)
  {sli sl : List Mesh.EndpointSlice} (h₁ : sli.Perm objs.endpointSlices)
  (h₂ : sl.Perm objs.endpointSlices) : (serviceMessage lib (objs.withSlices sli) svc).endpoints =
   (serviceMessage lib (objs.withSlices sl) svc).endpoints := by
 have hr₁ : Relists objs (objs.withSlices sli) := relists_withSlices h₁
 have hr₂ : Relists objs (objs.withSlices sl) := relists_withSlices h₂
 obtain ⟨l4₁,services₁,hc₁⟩ := (hr₁.symm.isSortedContent hc).exists_isContent
 obtain ⟨l4₂,services₂,hc₂⟩ := (hr₂.symm.isSortedContent hc).exists_isContent
 have hq : services₁ = services₂ :=
  congrArg internalServices (h.content_eq hr₁ hr₂ hc₁ hc₂)
 have hme : serviceMessage lib (objs.withSlices sli) svc ∈ services₁ :=
  hc₁.internalServices.1.mem_iff.mpr (mem_map.mpr ⟨svc,mem_filter.mpr ⟨hv,hn⟩,rfl⟩)
 rw [hq] at hme
 obtain ⟨svc',hs',hm⟩ := mem_map.mp (hc₂.internalServices.1.mem_iff.mp hme)
 obtain rfl := objs.service_ext (mem_filter.mp hs').1 hv
  (congrArg ServiceMessage.ns hm) (congrArg ServiceMessage.name hm)
 exact (congrArg ServiceMessage.endpoints hm).symm

variable {gw : Gateway} {lis : Config.Listener} {r : ProxyRoute} {w : L4Backend}

lemma interchangeable (h4 : ListensOnL4 objs gw lis) {r' : ProxyRoute} (hr : r ∈ objs.routes)
  (hr' : r' ∈ objs.routes) (hn : r.ns = gw.ns) (hn' : r'.ns = gw.ns) {w' : L4Backend}
  (hw : routeBackend c.endpoints gw.ns r = some w)
  (hw' : routeBackend c.endpoints gw.ns r' = some w') : Interchangeable w w' := by
 by_cases hne : r = r'
 · rw [hne,hw'] at hw
   exact .inr (Option.some.inj hw).symm
 -- Two listings that differ in which of the two routes comes first, so that no other namespace
 -- can tell them apart.
 obtain ⟨rest,hp⟩ := exists_perm_pair hr hr' hne
 have hp' := (List.Perm.swap r r' rest).trans hp
 obtain ⟨l4,services,hf,hl⟩ := hc.exists_isContent_withRoutes hp
 obtain ⟨l4',services',hf',hl'⟩ := hc.exists_isContent_withRoutes hp'
 have hq : l4 = l4' := congrArg l4Listeners
  (h.content_eq (relists_withRoutes hp) (relists_withRoutes hp') hf hf')
 obtain ⟨⟨src,hsr,hg⟩,hli,h4⟩ := h4
 have hie := interchangeable_of_perm (mem_map.mpr ⟨src,hsr,hg⟩) hli h4 ?_
  (hl.symm.trans (hq ▸ hl'))
 · rw [← hn] at hw hie
   rw [findL4BackendForListener_cons hw] at hie
   rw [hn,← hn'] at hie
   rw [← hn'] at hw'
   rwa [findL4BackendForListener_cons hw'] at hie
 · intro other ho
   have hk : r.ns ≠ other := fun hq => ho (hq.symm.trans hn)
   have hs' : r'.ns ≠ other := fun hq => ho (hq.symm.trans hn')
   rw [findL4BackendForListener_cons_of_ne hk,findL4BackendForListener_cons_of_ne hs',
    findL4BackendForListener_cons_of_ne hs',findL4BackendForListener_cons_of_ne hk]

lemma findL4BackendForListener_eq (hl : ListensOnL4 objs gw lis) (hr : r ∈ objs.routes)
  (hn : r.ns = gw.ns) (hw : routeBackend c.endpoints gw.ns r = some w) (ha : w.1 ≠ "") :
  findL4BackendForListener c.endpoints objs.routes gw.ns = w := by
 rcases findL4BackendForListener_cases c.endpoints objs.routes gw.ns with ⟨-,hnn⟩ | ⟨r',hr',hn',hf⟩
 · rw [hnn r hr hn] at hw
   contradiction
 · rcases h.interchangeable hc hl hr' hr hn' hn hf hw with ⟨-,hm⟩ | hq
   · exact absurd hm ha
   · exact hq

lemma uniqueBy_l4Listener_name : UniqueBy L4Listener.name (buildL4Listeners
  (objs.gateways.map (buildGateway objs.toBuildContext)) c.endpoints objs.routes) := by
 obtain ⟨l4,svcs,hf⟩ := hc.exists_isContent
 obtain ⟨gws,hb,-⟩ := hc.gateways
 obtain rfl := eq_of_buildGateways hb
 refine uniqueBy_of_sorted_eq L4Listener.name fun s s' hs hs' => ?_
 have hc₁ : IsContent lib objs { c with l4Listeners := s, internalServices := svcs } :=
  { hf with l4Listeners := ⟨_,hb,hs⟩ }
 have hc₂ : IsContent lib objs { c with l4Listeners := s', internalServices := svcs } :=
  { hf with l4Listeners := ⟨_,hb,hs'⟩ }
 exact congrArg l4Listeners (h.content_eq (.refl objs) (.refl objs) hc₁ hc₂)

lemma sameService_of_l4Name_eq {gw' : Gateway} {lis' : Config.Listener}
  (hl : ListensOnL4 objs gw lis) (hl' : ListensOnL4 objs gw' lis')
  (hn : l4Name gw lis = l4Name gw' lis') {r' : ProxyRoute} (hr : r ∈ objs.routes)
  (hr' : r' ∈ objs.routes) (hns : r.ns = gw.ns) (hs' : r'.ns = gw'.ns) {w' : L4Backend}
  (hw : routeBackend c.endpoints gw.ns r = some w) (hne : w.1 ≠ "")
  (hw' : routeBackend c.endpoints gw'.ns r' = some w') (hn' : w'.1 ≠ "") :
  SameService lis lis' ∧ w = w' := by
 obtain ⟨m,hm⟩ := exists_buildL4Listener_iff.mpr ⟨hl.2.2,hne⟩
 obtain ⟨m',hm'⟩ := exists_buildL4Listener_iff.mpr ⟨hl'.2.2,hn'⟩
 have hme : m ∈ buildL4Listeners (objs.gateways.map (buildGateway objs.toBuildContext))
   c.endpoints objs.routes := by
  refine mem_l4ListenersFor.mpr ⟨gw,mem_map.mpr hl.1,lis,hl.2.1,?_⟩
  rw [h.findL4BackendForListener_eq hc hl hr hns hw hne]
  exact hm
 have he' : m' ∈ buildL4Listeners (objs.gateways.map (buildGateway objs.toBuildContext))
   c.endpoints objs.routes := by
  refine mem_l4ListenersFor.mpr ⟨gw',mem_map.mpr hl'.1,lis',hl'.2.1,?_⟩
  rw [h.findL4BackendForListener_eq hc hl' hr' hs' hw' hn']
  exact hm'
 obtain ⟨hmn,-⟩ := shown_of_buildL4Listener hm
 obtain ⟨hmn',-⟩ := shown_of_buildL4Listener hm'
 exact (eq_iff_of_buildL4Listener hm hm' hn).mp
  (h.uniqueBy_l4Listener_name hc m hme m' he' (by rw [hmn,hmn',hn]))

/-- A snapshot that does not marshal has the time for its version. -/
lemma marshals : Marshals objs := by
 by_contra hn
 obtain ⟨l4,svcs,hf⟩ := hc.exists_isContent
 have hb : ∀ now : ℤ, IsBuild lib objs hash now ⟨"err-" ++ toString now,_⟩ :=
  fun _ => ⟨hf,fun hy => absurd hy hn,fun _ => rfl⟩
 have hq : "err-" ++ toString (1 : ℤ) = "err-" ++ toString (2 : ℤ) :=
  congrArg BuiltSnapshot.version (h _ _ _ _ _ _ (.refl objs) (.refl objs) (hb 1) (hb 2))
 cases hq

lemma orderFree : OrderFree lib objs where
 gateways := h.nodup_gateways hc
 routes := h.nodup_routes hc
 backends := h.nodup_backends hc
 policies := h.nodup_policies hc
 wanLinks := h.nodup_wanLinks hc
 wanPolicies := h.nodup_wanPolicies hc
 endpoints := h.uniqueBy_address hc
 rules p hp text ht text' ht' := by
  refine append_comm_of_flatMap_filter_eq (p := fun _ => true) ?_ (by simpa using ht)
   (by simpa using ht')
  intro texts₁ texts₂ h₁ h₂
  simpa using h.rules_eq hc hp h₁ h₂
 slices svc hsv hin es hes es' he' := append_comm_of_flatMap_filter_eq
   (fun slices₁ slices₂ h₁ h₂ => h.endpoints_eq hc hsv hin h₁ h₂) hes he'
 l4Backends gw lis hl v v' hv hv' := by
  obtain ⟨r,hr,hn,w,hw,ho⟩ := hv.exists_sortsTo hc (h.uniqueBy_address hc)
  obtain ⟨r',hr',hn',w',hw',hs'⟩ := hv'.exists_sortsTo hc (h.uniqueBy_address hc)
  exact (sameBackend_iff ho hs').mpr (h.interchangeable hc hl hr hr' hn hn' hw hw')
 l4Names gw lis gw' lis' hl hl' ha v v' hv hv' hne hne' := by
  obtain ⟨r,hr,hn,w,hw,ho⟩ := hv.exists_sortsTo hc (h.uniqueBy_address hc)
  obtain ⟨r',hr',hn',w',hw',hs'⟩ := hv'.exists_sortsTo hc (h.uniqueBy_address hc)
  obtain ⟨hsa,hq⟩ := h.sameService_of_l4Name_eq hc hl hl' ha hr hr' hn hn' hw
   (ho.1 ▸ hne) hw' (hs'.1 ▸ hne')
  exact ⟨hsa,(sameBackend_iff ho hs').mpr (.inr hq)⟩
 credentials := h.marshals hc

end OrderIndependent

namespace OrderFree
variable {c c₁ c₂ : SnapshotContent} (h : OrderFree lib objs)
include h

lemma eq_policyMessage {p : ProxyPolicy} (hp : p ∈ objs.policies) {m : PolicyMessage}
  (hm : IsPolicyMessage lib objs p m) : m = policyMessage lib objs p (ruleTexts objs p) := by
 obtain ⟨txs,hpe,rfl⟩ := hm
 have hr : txs.flatMap parseConfigMapRules = (ruleTexts objs p).flatMap parseConfigMapRules :=
  flatMap_eq_of_perm hpe fun text ht text' ht' =>
   h.rules p hp text (hpe.mem_iff.mp ht) text' (hpe.mem_iff.mp ht')
 rw [policyMessage,policyMessage,hr]

lemma eq_policyMessages {blt : List PolicyMessage}
  (hb : List.Forall₂ (IsPolicyMessage lib objs) objs.policies blt) :
  blt = policyMessages lib objs (ruleTexts objs) := by
 have hu : ∀ {pols blt}, pols ⊆ objs.policies → List.Forall₂ (IsPolicyMessage lib objs) pols blt →
   blt = pols.map fun p => policyMessage lib objs p (ruleTexts objs p) := by
  intro pols blt hu hb
  induction hb with
  | nil => rfl
  | cons hm _ ih =>
   obtain ⟨hp,hu⟩ := cons_subset.mp hu
   rw [map_cons,h.eq_policyMessage hp hm,ih hu]
 exact hu (List.Subset.refl _) hb

lemma uniqueBy_meshAuthz_name : UniqueBy Mesh.MeshAuthorizationPolicy.name
  (objs.policies.filterMap buildMeshAuthorizationPolicy) := by
 have hn : ∀ {p m}, buildMeshAuthorizationPolicy p = some m → m.name = p.name := by
  intro p m hm
  unfold buildMeshAuthorizationPolicy at hm
  split_ifs at hm
  obtain ⟨cfg,-,rfl⟩ := map_eq_some_iff.mp hm
  rfl
 intro a ha b hb hab
 obtain ⟨p,hp,hpa⟩ := mem_filterMap.mp ha
 obtain ⟨q,hq,hqb⟩ := mem_filterMap.mp hb
 rw [hn hpa,hn hqb] at hab
 obtain rfl := inj_on_of_nodup_map h.policies hp hq hab
 exact mem_unique hpa hqb

lemma endpoints_eq (hc₁ : IsSortedContent lib objs c₁) (hc₂ : IsSortedContent lib objs c₂) :
  c₁.endpoints = c₂.endpoints := by
 funext key
 have h₁ := hc₁.endpoints key
 have h₂ := hc₂.endpoints key
 cases hp : buildEndpoints lib objs key with
 | none =>
  rw [hp] at h₁ h₂
  rw [eq_none_of_rel_none h₁,eq_none_of_rel_none h₂]
 | some eps =>
  rw [hp] at h₁ h₂
  obtain ⟨s₁,hs₁,hsorted₁⟩ := exists_of_rel_some h₁
  obtain ⟨s₂,hs₂,hsorted₂⟩ := exists_of_rel_some h₂
  obtain ⟨b,hb,-,ha⟩ := buildEndpoints_eq_some_iff.mp hp
  have huni : UniqueBy (fun ep : LabelledEndpoint => ep.address) eps := h.endpoints b hb eps ha
  rw [hs₁,hs₂,huni.sorted_eq hsorted₁ hsorted₂]

variable {obj' : ClusterObjects}

lemma serviceMessage_eq (hr : Relists objs obj') {svc : Mesh.K8sService}
  (hv : svc ∈ objs.services) (hn : svc.inMesh = true) :
  serviceMessage lib obj' svc = serviceMessage lib objs svc := by
 have hp := hr.getEndpointSlices_perm svc.ns svc.name
 have hen : (obj'.getEndpointSlices svc.ns svc.name).flatMap meshSliceEndpoints =
   (objs.getEndpointSlices svc.ns svc.name).flatMap meshSliceEndpoints :=
  flatMap_eq_of_perm hp fun es hes es' he' =>
   h.slices svc hv hn es (hp.mem_iff.mp hes) es' (hp.mem_iff.mp he')
 rw [serviceMessage,serviceMessage,hen]

lemma serviceMessages_perm (hr : Relists objs obj') :
  (serviceMessages lib obj').Perm (serviceMessages lib objs) := by
 have hm : serviceMessages lib obj' =
   (obj'.services.filter Mesh.K8sService.inMesh).map (serviceMessage lib objs) := by
  refine map_congr_left fun svc hv => ?_
  obtain ⟨hv,hn⟩ := mem_filter.mp hv
  exact h.serviceMessage_eq hr (hr.services.mem_iff.mp hv) hn
 rw [hm]
 exact (hr.services.filter _).map _

lemma buildL4Listener_eq (hc : IsSortedContent lib objs c)
  (hp : rts.Perm objs.routes) {gw : Gateway} {lis : Config.Listener}
  (hg : ∃ src ∈ objs.gateways, buildGateway objs.toBuildContext src = gw)
  (hl : lis ∈ gw.listeners) :
  buildL4Listener gw lis (findL4BackendForListener c.endpoints rts gw.ns) =
   buildL4Listener gw lis (findL4BackendForListener c.endpoints objs.routes gw.ns) := by
 by_cases h4 : IsL4 lis
 · refine Interchangeable.buildL4Listener_eq ?_ gw lis
   rcases findL4BackendForListener_cases c.endpoints rts gw.ns with ⟨ho,hn⟩ | ⟨r,hr,hns,hw⟩
   · rcases findL4BackendForListener_cases c.endpoints objs.routes gw.ns with ⟨ho',-⟩ |
      ⟨r',hr',hn',hw'⟩
     · exact .inr (ho.trans ho'.symm)
     · rw [hn r' (hp.mem_iff.mpr hr') hn'] at hw'
       contradiction
   · rcases findL4BackendForListener_cases c.endpoints objs.routes gw.ns with ⟨-,hnn'⟩ |
      ⟨r',hr',hn',hw'⟩
     · rw [hnn' r (hp.mem_iff.mp hr) hns] at hw
       contradiction
     · obtain ⟨v,hv,hso⟩ := exists_isCandidate hc h.endpoints (hp.mem_iff.mp hr) hns hw
       obtain ⟨v',hv',hs'⟩ := exists_isCandidate hc h.endpoints hr' hn' hw'
       exact (sameBackend_iff hso hs').mp (h.l4Backends gw lis ⟨hg,hl,h4⟩ v v' hv hv')
 · have hn : ∀ be, buildL4Listener gw lis be = none := by
    intro be
    by_contra hm
    exact h4 (exists_buildL4Listener_iff.mp (ne_none_iff_exists'.mp hm)).1
   rw [hn,hn]

lemma uniqueBy_l4Listener_name (hc : IsSortedContent lib objs c) :
  UniqueBy L4Listener.name (buildL4Listeners
   (objs.gateways.map (buildGateway objs.toBuildContext)) c.endpoints objs.routes) := by
 -- A listener that is built has the named backend of some route.
 have ha : ∀ {m}, m ∈ buildL4Listeners
   (objs.gateways.map (buildGateway objs.toBuildContext)) c.endpoints objs.routes →
   ∃ gw lis w v, ListensOnL4 objs gw lis ∧ buildL4Listener gw lis w = some m ∧
    IsCandidate lib objs gw.ns v ∧ SortsTo v w ∧ v.1 ≠ "" := by
  intro m hm
  obtain ⟨gw,hg,lis,hl,hbi⟩ := mem_l4ListenersFor.mp hm
  obtain ⟨h4,hn⟩ := exists_buildL4Listener_iff.mp ⟨m,hbi⟩
  rcases findL4BackendForListener_cases c.endpoints objs.routes gw.ns with ⟨hno,-⟩ | ⟨r,hr,hns,hw⟩
  · rw [hno] at hn
    contradiction
  · obtain ⟨v,hv,ho⟩ := exists_isCandidate hc h.endpoints hr hns hw
    exact ⟨gw,lis,_,v,⟨mem_map.mp hg,hl,h4⟩,hbi,hv,ho,ho.1 ▸ hn⟩
 intro m hm m' hm' hn
 obtain ⟨gw,lis,w,v,h4,hbi,hv,ho,hne⟩ := ha hm
 obtain ⟨gw',lis',w',v',hl',hb',hv',hs',hn'⟩ := ha hm'
 obtain ⟨hmn,-⟩ := shown_of_buildL4Listener hbi
 obtain ⟨hmn',-⟩ := shown_of_buildL4Listener hb'
 have hnm : l4Name gw lis = l4Name gw' lis' := by rw [← hmn,← hmn',hn]
 obtain ⟨hsa,hb⟩ := h.l4Names gw lis gw' lis' h4 hl' hnm v v' hv hv' hne hn'
 refine (eq_iff_of_buildL4Listener hbi hb' hnm).mpr ⟨hsa,?_⟩
 rcases (sameBackend_iff ho hs').mp hb with ⟨hem,-⟩ | hq
 · exact absurd (ho.1.trans hem) hne
 · exact hq

lemma l4Listeners_sortedBy (hr : Relists objs obj') (hc : IsContent lib obj' c) :
  SortedBy L4Listener.name (buildL4Listeners
      (objs.gateways.map (buildGateway objs.toBuildContext)) c.endpoints objs.routes)
      c.l4Listeners := by
 obtain ⟨gws,hb,ho⟩ := hc.l4Listeners
 obtain rfl := eq_of_buildGateways hb
 rw [hr.buildGateway_eq] at ho
 refine SortedBy.of_perm ho (((hr.gateways.map _).flatMap_right _).trans (.of_eq ?_))
 refine l4ListenersFor_congr fun gw hg lis hl => ?_
 exact h.buildL4Listener_eq (hr.isSortedContent hc.toIsSortedContent) hr.routes (mem_map.mp hg) hl

lemma content_eq {obj ob : ClusterObjects} (hr₁ : Relists objs obj)
  (hr₂ : Relists objs ob) (hc₁ : IsContent lib obj c₁) (hc₂ : IsContent lib ob c₂) : c₁ = c₂ := by
 have hs₁ := hr₁.isSortedContent hc₁.toIsSortedContent
 have hs₂ := hr₂.isSortedContent hc₂.toIsSortedContent
 have hn := h.endpoints_eq hs₁ hs₂
 refine SnapshotContent.ext ?_ ?_ ?_ hn ?_ ?_ ?_ ?_ ?_ ?_
 · obtain ⟨blt,hb,ho⟩ := hs₁.gateways
   obtain ⟨blt',hb',hs'⟩ := hs₂.gateways
   obtain rfl := mem_unique hb hb'
   obtain rfl := eq_of_buildGateways hb
   exact (uniqueBy_gateway_name.mpr h.gateways).sorted_eq ho hs'
 · exact (uniqueBy_route_name.mpr h.routes).sorted_eq hs₁.routes hs₂.routes
 · exact (uniqueBy_cluster_name.mpr h.backends).sorted_eq hs₁.clusters hs₂.clusters
 · obtain ⟨blt,hb,ho⟩ := hs₁.policies
   obtain ⟨blt',hb',hs'⟩ := hs₂.policies
   rw [h.eq_policyMessages hb] at ho
   rw [h.eq_policyMessages hb'] at hs'
   exact ((uniqueBy_name_policyMessages _).mpr h.policies).sorted_eq ho hs'
 · have ho := h.l4Listeners_sortedBy hr₁ hc₁
   rw [hn] at ho
   exact (h.uniqueBy_l4Listener_name hs₂).sorted_eq ho (h.l4Listeners_sortedBy hr₂ hc₂)
 · exact uniqueBy_serviceMessage_key.sorted_eq
    (hc₁.internalServices.of_perm (h.serviceMessages_perm hr₁))
    (hc₂.internalServices.of_perm (h.serviceMessages_perm hr₂))
 · exact h.uniqueBy_meshAuthz_name.sorted_eq hs₁.meshAuthzPolicies hs₂.meshAuthzPolicies
 · exact (uniqueBy_wanLink_name.mpr h.wanLinks).sorted_eq hs₁.wanLinks hs₂.wanLinks
 · exact (uniqueBy_wanPolicy_name.mpr h.wanPolicies).sorted_eq hs₁.wanPolicies hs₂.wanPolicies

end OrderFree

end

/-- Snapshots ignore the order of their objects exactly if nothing is left to it, or if there are
none. -/
theorem snapshot_order_independent_iff (lib : BuilderLibrary) (hash : SnapshotContent → String)
  (objs : ClusterObjects) :
  OrderIndependent lib objs hash ↔ BuildPanics objs ∨ OrderFree lib objs := by
 constructor
 · intro h
   cases hb : buildGateways objs.toGatewayContext with
   | none => exact .inl (buildGateways_eq_none_iff.mp hb)
   | some gws =>
    obtain ⟨c,hc⟩ : ∃ c, IsSortedContent lib objs c := exists_isSortedContent hb
    exact .inr (h.orderFree hc)
 · rintro (hp | h) objs₁ objs₂ now₁ now₂ s₁ s₂ hr₁ hr₂ ⟨hc₁,hversion₁,-⟩ ⟨hc₂,hversion₂,-⟩
   · obtain ⟨gws,hb,-⟩ := (hr₁.isSortedContent hc₁.toIsSortedContent).gateways
     rw [buildGateways_eq_none_iff.mpr hp] at hb
     contradiction
   · have ho := h.content_eq hr₁ hr₂ hc₁ hc₂
     have hm₁ := hversion₁ (hr₁.marshals_iff.mpr h.credentials)
     have hm₂ := hversion₂ (hr₂.marshals_iff.mpr h.credentials)
     exact BuiltSnapshot.ext (by rw [hm₁,hm₂,ho]) ho

def ofRoutes (routes : List ProxyRoute)
  (hnd : (routes.map fun o => objectKey o.ns o.name).Nodup) : ClusterObjects where
 routes := routes
 services := []
 endpointSlices := []
 services_nodup := by simp
 gateways_nodup := by simp
 routes_nodup := hnd
 backends_nodup := by simp
 policies_nodup := by simp
 service_keys_nodup := by simp
 wanLinks_nodup := by simp
 wanPolicies_nodup := by simp

def bareLibrary : BuilderLibrary where
 parseDuration _ := none
 bytesToString _ := ""
 parseFloat _ := none
 atoi _ := none

attribute [local simp] ofRoutes

def namespacesOf (c : SnapshotContent) : String := String.join (c.routes.map Config.Route.ns)

def snapshotAsListed (routes : List ProxyRoute) : BuiltSnapshot :=
 let content : SnapshotContent :=
  { gateways := [], routes := routes.map (buildRoute bareLibrary.toGoLibrary), clusters := []
    endpoints := fun _ => none, policies := [], l4Listeners := [], internalServices := []
    meshAuthzPolicies := [], wanLinks := [], wanPolicies := [] }
 ⟨namespacesOf content,content⟩

lemma isBuild_snapshotAsListed (hn : (rts.map fun o => objectKey o.ns o.name).Nodup)
  (ho : rts.Pairwise fun a b => a.name ≤ b.name) :
  IsBuild bareLibrary (ofRoutes rts hn) namespacesOf 0 (snapshotAsListed rts) := by
 have hm : Marshals (ofRoutes rts hn) := fun p hp => absurd hp (by simp)
 refine ⟨?_,fun _ => rfl,fun hno => absurd hm hno⟩
 exact
  { gateways := ⟨[],rfl,.refl _,.nil⟩
    routes := ⟨.refl _,pairwise_map.mpr ho⟩
    clusters := ⟨.refl _,.nil⟩
    endpoints := fun _ => .none
    policies := ⟨[],.nil,.refl _,.nil⟩
    meshAuthzPolicies := ⟨.refl _,.nil⟩
    wanLinks := ⟨.refl _,.nil⟩
    wanPolicies := ⟨.refl _,.nil⟩
    l4Listeners := ⟨[],rfl,.refl _,.nil⟩
    internalServices := ⟨.refl _,.nil⟩ }

/-- Two namespaces have a route of the same name. The snapshot of either listing has the routes as
they are listed. -/
theorem listing_order_changes_version :
  let shop : ProxyRoute := { name := "web", ns := "shop" }
  let blog : ProxyRoute := { name := "web", ns := "blog" }
  Relists (ofRoutes [shop,blog] (by decide)) (ofRoutes [blog,shop] (by decide)) ∧
   IsBuild bareLibrary (ofRoutes [shop,blog] (by decide)) namespacesOf 0
    (snapshotAsListed [shop,blog]) ∧
   IsBuild bareLibrary (ofRoutes [blog,shop] (by decide)) namespacesOf 0
    (snapshotAsListed [blog,shop]) ∧
   (snapshotAsListed [shop,blog]).version ≠ (snapshotAsListed [blog,shop]).version := by
 intro shop blog
 refine ⟨{ Relists.refl (ofRoutes [shop,blog] (by decide)) with routes := .swap _ _ _ },
  isBuild_snapshotAsListed _ ?_,isBuild_snapshotAsListed _ ?_,by decide⟩
 · simp [shop,blog]
 · simp [shop,blog]

end NovaEdge.Snapshot
