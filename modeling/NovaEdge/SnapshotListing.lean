import NovaEdge.SnapshotContent

/-! The objects of a cluster listed in another order, and what of a snapshot cannot depend on it. -/
namespace NovaEdge.Snapshot
open V1alpha1 SortOrder.SortedBy

/-- What is fetched by name, and the state of the federation, stay as they are. -/
structure Relists (objs objs' : ClusterObjects) : Prop where
 gateways : objs'.gateways.Perm objs.gateways
 routes : objs'.routes.Perm objs.routes
 backends : objs'.backends.Perm objs.backends
 policies : objs'.policies.Perm objs.policies
 services : objs'.services.Perm objs.services
 endpointSlices : objs'.endpointSlices.Perm objs.endpointSlices
 wanLinks : objs'.wanLinks.Perm objs.wanLinks
 wanPolicies : objs'.wanPolicies.Perm objs.wanPolicies
 secrets : objs'.secrets = objs.secrets
 nodes : objs'.nodes = objs.nodes
 configMaps : objs'.configMaps = objs.configMaps
 remoteEndpoints : objs'.remoteEndpoints = objs.remoteEndpoints

lemma Relists.refl (objs : ClusterObjects) : Relists objs objs where
 gateways := .refl _
 routes := .refl _
 backends := .refl _
 policies := .refl _
 services := .refl _
 endpointSlices := .refl _
 wanLinks := .refl _
 wanPolicies := .refl _
 secrets := rfl
 nodes := rfl
 configMaps := rfl
 remoteEndpoints := rfl

lemma Relists.symm {objs obj' : ClusterObjects} (h : Relists objs obj') : Relists obj' objs where
 gateways := h.gateways.symm
 routes := h.routes.symm
 backends := h.backends.symm
 policies := h.policies.symm
 services := h.services.symm
 endpointSlices := h.endpointSlices.symm
 wanLinks := h.wanLinks.symm
 wanPolicies := h.wanPolicies.symm
 secrets := h.secrets.symm
 nodes := h.nodes.symm
 configMaps := h.configMaps.symm
 remoteEndpoints := h.remoteEndpoints.symm

def ClusterObjects.withSlices (objs : ClusterObjects) (slices : List Mesh.EndpointSlice) :
  ClusterObjects :=
 { objs with endpointSlices := slices }

lemma relists_withSlices {objs : ClusterObjects} {sli : List Mesh.EndpointSlice}
  (h : sli.Perm objs.endpointSlices) : Relists objs (objs.withSlices sli) :=
 { Relists.refl objs with endpointSlices := h }

def ClusterObjects.withRoutes (objs : ClusterObjects) (routes : List ProxyRoute)
  (h : routes.Perm objs.routes) : ClusterObjects :=
 { objs with
   routes := routes
   routes_nodup := (h.map _).nodup_iff.mpr objs.routes_nodup }

lemma relists_withRoutes {objs : ClusterObjects} {rts : List ProxyRoute}
  (h : rts.Perm objs.routes) : Relists objs (objs.withRoutes rts h) :=
 { Relists.refl objs with routes := h }

section
variable {lib : BuilderLibrary} {objs obj' : ClusterObjects}

variable (h : Relists objs obj')
include h

lemma Relists.buildGateway_eq :
  buildGateway obj'.toBuildContext = buildGateway objs.toBuildContext := by
 have hse : ∀ bc : BuildContext, buildGateway bc = buildGateway { secrets := bc.secrets } :=
  fun _ => rfl
 rw [hse,hse objs.toBuildContext,h.secrets]

lemma Relists.listenerPanics_eq :
  listenerPanics obj'.toBuildContext = listenerPanics objs.toBuildContext := by
 have hse : ∀ bc : BuildContext,
   listenerPanics bc = listenerPanics { secrets := bc.secrets } := fun _ => rfl
 rw [hse,hse objs.toBuildContext,h.secrets]

lemma Relists.buildCluster_eq :
  buildCluster lib obj'.toBuildContext = buildCluster lib objs.toBuildContext := by
 have hse : ∀ bc : BuildContext,
   buildCluster lib bc = buildCluster lib { secrets := bc.secrets } := fun _ => rfl
 rw [hse,hse objs.toBuildContext,h.secrets]

lemma Relists.isPolicyMessage_eq : IsPolicyMessage lib obj' = IsPolicyMessage lib objs := by
 have hb : ∀ bc : BuildContext, buildPolicy lib.toGoLibrary bc =
   buildPolicy lib.toGoLibrary { secrets := bc.secrets } := fun _ => rfl
 have ht : ruleTexts obj' = ruleTexts objs := by
  unfold ruleTexts
  rw [h.configMaps]
 funext p msg
 rw [IsPolicyMessage,IsPolicyMessage,ht]
 unfold policyMessage
 rw [hb,hb objs.toBuildContext,h.secrets]

lemma Relists.marshals_iff : Marshals obj' ↔ Marshals objs := by
 have hse : ∀ bc : BuildContext,
   credentialTexts bc = credentialTexts { secrets := bc.secrets } := fun _ => rfl
 unfold Marshals
 rw [hse,hse objs.toBuildContext,h.secrets]
 exact forall_congr' fun p => imp_congr_left h.policies.mem_iff

lemma Relists.exists_buildGateways {gws : List Config.Gateway}
  (hb : buildGateways objs.toGatewayContext = some gws) :
  ∃ gateways', buildGateways obj'.toGatewayContext = some gateways' ∧ gateways'.Perm gws := by
 unfold buildGateways at hb ⊢
 rw [h.listenerPanics_eq,h.buildGateway_eq]
 split_ifs at hb with hp
 cases hb
 refine ⟨_,if_neg ?_,h.gateways.map _⟩
 simpa only [List.any_eq_true,h.gateways.mem_iff] using hp

lemma Relists.getService_eq (ns name : String) :
  obj'.getService ns name = objs.getService ns name := by
 refine Option.ext fun svc => ?_
 rw [getService_eq_some_iff,getService_eq_some_iff,h.services.mem_iff]

lemma Relists.getEndpointSlices_perm (ns name : String) :
  (obj'.getEndpointSlices ns name).Perm (objs.getEndpointSlices ns name) :=
 h.endpointSlices.filter _

lemma Relists.backendEndpoints_rel (b : ProxyBackend) :
  Option.Rel List.Perm (backendEndpoints lib obj' b) (backendEndpoints lib objs b) := by
 have hl : sliceEndpoints obj' = sliceEndpoints objs := by
  unfold sliceEndpoints
  rw [h.nodes]
 have hr : remoteServiceEndpoints obj' = remoteServiceEndpoints objs := by
  unfold remoteServiceEndpoints
  rw [h.remoteEndpoints]
 unfold backendEndpoints resolveServiceEndpoints
 cases b.serviceRef with
 | none => exact .none
 | some ref =>
  simp only [Option.bind_some,h.getService_eq,hl,hr]
  cases objs.getService (getNamespace ref.ns b.ns) ref.name with
  | none => exact .none
  | some svc => exact .some (((h.getEndpointSlices_perm _ _).flatMap_right _).append_right _)

lemma Relists.buildEndpoints_rel (key : String) :
  Option.Rel List.Perm (buildEndpoints lib obj' key) (buildEndpoints lib objs key) := by
 have hf : ∀ {objs obj' : ClusterObjects}, Relists objs obj' → ∀ {eps},
   buildEndpoints lib objs key = some eps →
   ∃ eps', buildEndpoints lib obj' key = some eps' ∧ eps'.Perm eps := by
  intro objs obj' h eps hp
  obtain ⟨b,hb,hk,ha⟩ := buildEndpoints_eq_some_iff.mp hp
  have hr : Option.Rel List.Perm (backendEndpoints lib obj' b) (some eps) :=
   ha ▸ h.backendEndpoints_rel b
  obtain ⟨eps',he',hpe⟩ := SortOrder.exists_of_rel_some_right hr
  exact ⟨eps',buildEndpoints_eq_some_iff.mpr ⟨b,h.backends.mem_iff.mpr hb,hk,he'⟩,hpe⟩
 cases hp : buildEndpoints lib objs key with
 | some eps =>
  obtain ⟨eps',he',hpe⟩ := hf h hp
  rw [he']
  exact .some hpe
 | none =>
  cases he' : buildEndpoints lib obj' key with
  | none => exact .none
  | some eps' =>
   obtain ⟨eps,he'',-⟩ := hf h.symm he'
   rw [hp] at he''
   contradiction

lemma Relists.isSortedContent {c : SnapshotContent} (hc : IsSortedContent lib obj' c) :
  IsSortedContent lib objs c where
 gateways := by
  obtain ⟨blt',hb',ho⟩ := hc.gateways
  obtain ⟨blt,hb,hp⟩ := h.symm.exists_buildGateways hb'
  exact ⟨blt,hb,of_perm ho hp.symm⟩
 routes := of_perm hc.routes (h.routes.map _)
 clusters := by
  have hl := hc.clusters
  rw [buildClusters,h.buildCluster_eq] at hl
  exact of_perm hl (h.backends.map _)
 endpoints := by
  intro key
  refine SortOrder.rel_of_rel_left ?_ (h.buildEndpoints_rel key) (hc.endpoints key)
  intro _ _ _ hp ho
  exact of_perm ho hp
 policies := by
  obtain ⟨blt',hb',ho⟩ := hc.policies
  rw [h.isPolicyMessage_eq] at hb'
  obtain ⟨blt,hb,hp⟩ := List.perm_comp_forall₂ h.policies.symm hb'
  exact ⟨blt,hb,of_perm ho hp.symm⟩
 meshAuthzPolicies := of_perm hc.meshAuthzPolicies (h.policies.filterMap _)
 wanLinks := of_perm hc.wanLinks (h.wanLinks.map _)
 wanPolicies := of_perm hc.wanPolicies (h.wanPolicies.map _)

end

end NovaEdge.Snapshot
