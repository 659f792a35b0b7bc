import NovaEdge.DataplaneConfig
import NovaEdge.NameEncoding
import NovaEdge.Translator

/-! The names that the translation gives to dataplane entries, and what the name-keyed store holds
after applying them. -/
namespace NovaEdge.Translator
open NameEncoding Dataplane List KeyedMap
open Config (RouteRule ConfigSnapshot)

/-- The route's name, the index of the rule, and that of the match if there are several. -/
abbrev RouteKey := String × ℕ × Option ℕ

def encodeRoute : RouteKey → String
 | (name,ruleIdx,none) => ruleName name ruleIdx
 | (name,ruleIdx,some matchIdx) => matchName name ruleIdx matchIdx

variable (name : String)

lemma ruleName_eq_join (i : ℕ) : ruleName name i = name ++ "/" ++ ("rule-" ++ toString i) := by
 rw [ruleName,show "/rule-" = "/" ++ "rule-" from rfl]
 simp only [String.append_assoc]

lemma matchName_eq_join (i j : ℕ) :
  matchName name i j = ruleName name i ++ "/" ++ ("match-" ++ toString j) := by
 rw [matchName,show "/match-" = "/" ++ "match-" from rfl]
 simp only [String.append_assoc]

lemma slash_notMem_ruleTail (i : ℕ) : '/' ∉ ("rule-" ++ toString i).toList := by
 have h := slash_notMem_toString i
 simpa using h

lemma slash_notMem_matchTail (j : ℕ) : '/' ∉ ("match-" ++ toString j).toList := by
 have h := slash_notMem_toString j
 simpa using h

lemma ruleName_inj {n n' : String} {i i' : ℕ} (h : ruleName n i = ruleName n' i') :
  n = n' ∧ i = i' := by
 rw [ruleName_eq_join,ruleName_eq_join] at h
 obtain ⟨hn,ht⟩ := join_inj (slash_notMem_ruleTail i) (slash_notMem_ruleTail i') h
 exact ⟨hn,append_toString_inj _ ht⟩

lemma matchName_inj {n n' : String} {i i' j j' : ℕ} (h : matchName n i j = matchName n' i' j') :
  n = n' ∧ i = i' ∧ j = j' := by
 rw [matchName_eq_join,matchName_eq_join] at h
 obtain ⟨hr,ht⟩ := join_inj (slash_notMem_matchTail j) (slash_notMem_matchTail j') h
 obtain ⟨hn,hi⟩ := ruleName_inj hr
 exact ⟨hn,hi,append_toString_inj _ ht⟩

lemma ruleName_ne_matchName (n n' : String) (i i' j : ℕ) : ruleName n i ≠ matchName n' i' j := by
 intro h
 rw [ruleName_eq_join,matchName_eq_join] at h
 have ht := (join_inj (slash_notMem_ruleTail i) (slash_notMem_matchTail j) h).2
 have hc := congrArg (fun s => s.toList.head?) ht
 simp at hc

theorem encodeRoute_injective : Function.Injective encodeRoute := by
 intro ⟨n,i,j⟩ ⟨n',i',j'⟩ h
 cases j with
 | none =>
  cases j' with
  | none =>
   obtain ⟨rfl,rfl⟩ := ruleName_inj h
   rfl
  | some j' => exact absurd h (ruleName_ne_matchName n n' i i' j')
 | some j =>
  cases j' with
  | none => exact absurd h.symm (ruleName_ne_matchName n' n i' i j)
  | some j' =>
   obtain ⟨rfl,rfl,rfl⟩ := matchName_inj h
   rfl

def fansOut (rule : RouteRule) : Bool := 1 < rule.routeMatches.length

def ruleKeys (name : String) (ruleIdx : ℕ) (rule : RouteRule) : List RouteKey :=
 if fansOut rule then
  (List.range rule.routeMatches.length).map fun matchIdx => (name,ruleIdx,some matchIdx)
 else [(name,ruleIdx,none)]

def routeKeys (rt : Config.Route) : List RouteKey :=
 rt.rules.zipIdx.flatMap fun p => ruleKeys rt.name p.2 p.1

variable {rule : RouteRule}

lemma matchEntries_length_of_fansOut (h : fansOut rule) :
  (matchEntries rule).length = rule.routeMatches.length := by
 have hne : rule.routeMatches ≠ [] := by
  intro hn
  simp [fansOut,hn] at h
 simp [matchEntries,hne]

lemma matchEntries_singleton (h : ¬ fansOut rule) : ∃ m, matchEntries rule = [m] := by
 cases hm : rule.routeMatches with
 | nil => exact ⟨none,by simp [matchEntries,hm]⟩
 | cons m ms =>
  have hms : ms = [] := by simpa [fansOut,hm] using h
  exact ⟨some m,by simp [matchEntries,hm,hms]⟩

variable (rt : Config.Route)

lemma names_translateRouteRule (ri : ℕ) (rule : RouteRule) (refs : List String) :
  (translateRouteRule rt ri rule refs).map (·.name) =
   (ruleKeys rt.name ri rule).map encodeRoute := by
 by_cases h : fansOut rule
 · have hl := matchEntries_length_of_fansOut h
   have hg : 1 < (matchEntries rule).length := by simpa [hl,fansOut] using h
   have hid : (matchEntries rule).zipIdx.map Prod.snd = List.range rule.routeMatches.length := by
    rw [zipIdx_map_snd,hl,range_eq_range']
   simp only [translateRouteRule,hg,if_true,ruleKeys,h,← hid,map_map]
   apply map_congr_left
   intro p _
   simp [encodeRoute]
 · obtain ⟨m,hm⟩ := matchEntries_singleton h
   simp [translateRouteRule,ruleKeys,hm,h,encodeRoute]

lemma names_translateRoutes (rts : List Config.Route) :
  (translateRoutes rts).map (·.name) = (rts.flatMap routeKeys).map encodeRoute := by
 simp only [translateRoutes,routeKeys,map_flatMap,names_translateRouteRule]

lemma mem_ruleKeys {name : String} {ri : ℕ} {k : RouteKey} :
  k ∈ ruleKeys name ri rule ↔ k.1 = name ∧ k.2.1 = ri ∧
   if fansOut rule then ∃ j < rule.routeMatches.length, k.2.2 = some j else k.2.2 = none := by
 obtain ⟨n,i,j⟩ := k
 by_cases h : fansOut rule
 · simp only [ruleKeys,h,if_true,mem_map,mem_range,Prod.mk.injEq]
   constructor
   · intro ⟨j',hj',hn,hi,hj⟩
     exact ⟨hn.symm,hi.symm,j',hj',hj.symm⟩
   · intro ⟨hn,hi,j',hj',hj⟩
     exact ⟨j',hj',hn.symm,hi.symm,hj.symm⟩
 · simp [ruleKeys,h]

lemma mem_routeKeys {rt : Config.Route} {k : RouteKey} :
  k ∈ routeKeys rt ↔ ∃ i rule, rt.rules[i]? = some rule ∧ k ∈ ruleKeys rt.name i rule := by
 simp only [routeKeys,mem_flatMap,Prod.exists,mem_zipIdx_iff_getElem?]
 constructor
 · rintro ⟨rule,i,hg,hk⟩
   exact ⟨i,rule,hg,hk⟩
 · rintro ⟨i,rule,hg,hk⟩
   exact ⟨rule,i,hg,hk⟩

/-- Routes of one name stay apart if, wherever both have a rule, one of the two rules fans out
and the other does not. -/
def RoutesApart (a b : Config.Route) : Prop := a.name = b.name →
  ∀ (i : ℕ) (ra rb : RouteRule),
   a.rules[i]? = some ra → b.rules[i]? = some rb → fansOut ra ≠ fansOut rb

def firstKey (name : String) (ruleIdx : ℕ) (rule : RouteRule) : RouteKey :=
 (name,ruleIdx,if fansOut rule then some 0 else none)

lemma firstKey_mem (ri : ℕ) (rule : RouteRule) :
  firstKey name ri rule ∈ ruleKeys name ri rule := by
 rw [mem_ruleKeys]
 by_cases h : fansOut rule
 · have hp : 0 < rule.routeMatches.length := by
    have hg : 1 < rule.routeMatches.length := by simpa [fansOut] using h
    omega
   simpa [firstKey,h] using hp
 · simp [firstKey,h]

lemma disjoint_routeKeys_iff (a b : Config.Route) :
  List.Disjoint (routeKeys a) (routeKeys b) ↔ RoutesApart a b := by
 constructor
 · intro hd hm i ra rb hra hr hf
   have ha : firstKey a.name i ra ∈ routeKeys a :=
    mem_routeKeys.mpr ⟨i,ra,hra,firstKey_mem a.name i ra⟩
   have hsa : firstKey a.name i ra = firstKey b.name i rb := by simp [firstKey,hm,hf]
   have hb : firstKey a.name i ra ∈ routeKeys b :=
    mem_routeKeys.mpr ⟨i,rb,hr,hsa ▸ firstKey_mem b.name i rb⟩
   exact hd ha hb
 · intro h k hk hkb
   obtain ⟨i,ra,hra,hk⟩ := mem_routeKeys.mp hk
   obtain ⟨i',rb,hr,hkb⟩ := mem_routeKeys.mp hkb
   obtain ⟨hna,hia,hja⟩ := mem_ruleKeys.mp hk
   obtain ⟨hnb,hib,hjb⟩ := mem_ruleKeys.mp hkb
   have hid : i' = i := hib.symm.trans hia
   rw [hid] at hr
   have hf := h (hna.symm.trans hnb) i ra rb hra hr
   -- One key is numbered and the other is not.
   cases hfa : fansOut ra with
   | false =>
    cases hfb : fansOut rb with
    | false => exact hf (hfa.trans hfb.symm)
    | true =>
     obtain ⟨j,-,hj⟩ : ∃ j < rb.routeMatches.length, k.2.2 = some j := by simpa [hfb] using hjb
     have hn : k.2.2 = none := by simpa [hfa] using hja
     simp [hn] at hj
   | true =>
    cases hfb : fansOut rb with
    | false =>
     obtain ⟨j,-,hj⟩ : ∃ j < ra.routeMatches.length, k.2.2 = some j := by simpa [hfa] using hja
     have hn : k.2.2 = none := by simpa [hfb] using hjb
     simp [hn] at hj
    | true => exact hf (hfa.trans hfb.symm)

lemma nodup_ruleKeys (ri : ℕ) (rule : RouteRule) : (ruleKeys name ri rule).Nodup := by
 unfold ruleKeys
 split
 · apply List.Nodup.map _ nodup_range
   intro j j' h
   simpa using h
 · exact nodup_singleton _

lemma nodup_names_translateRouteRule (ri : ℕ) (rule : RouteRule) (refs : List String) :
  ((translateRouteRule rt ri rule refs).map (·.name)).Nodup := by
 rw [names_translateRouteRule,nodup_map_iff encodeRoute_injective]
 exact nodup_ruleKeys rt.name ri rule

lemma nodup_routeKeys : (routeKeys rt).Nodup := by
 rw [routeKeys,nodup_flatMap]
 constructor
 · intro p _
   exact nodup_ruleKeys rt.name p.2 p.1
 · have hid : (rt.rules.zipIdx.map Prod.snd).Nodup := by
    rw [zipIdx_map_snd]
    exact nodup_range'
   have hn : rt.rules.zipIdx.Pairwise fun p q => p.2 ≠ q.2 := pairwise_map.mp hid
   apply hn.imp
   intro p q hpq k hp hq
   exact hpq ((mem_ruleKeys.mp hp).2.1.symm.trans (mem_ruleKeys.mp hq).2.1)

theorem nodup_routeNames_iff (rts : List Config.Route) :
  ((translateRoutes rts).map (·.name)).Nodup ↔ rts.Pairwise RoutesApart := by
 rw [names_translateRoutes,nodup_map_iff encodeRoute_injective,nodup_flatMap]
 constructor
 · intro ⟨_,h⟩
   exact h.imp fun hd => (disjoint_routeKeys_iff _ _).mp hd
 · intro h
   exact ⟨fun rt _ => nodup_routeKeys rt,h.imp fun ha => (disjoint_routeKeys_iff _ _).mpr ha⟩

def listenerKeys (gateways : List Config.Gateway) : List (String × String) :=
 gateways.flatMap fun gw => gw.listeners.map fun lis => (gw.name,lis.name)

lemma names_translateGateways (gws : List Config.Gateway) : (translateGateways gws).map (·.name) =
      (listenerKeys gws).map fun p => p.1 ++ "/" ++ p.2 := by
 simp only [translateGateways,listenerKeys,map_flatMap,map_map]
 rfl

theorem nodup_gatewayNames_iff (gws : List Config.Gateway) :
  ((translateGateways gws).map (·.name)).Nodup ↔
   (listenerKeys gws).Pairwise fun p q => ¬ Clash p q := by
 rw [names_translateGateways,List.Nodup,pairwise_map]
 simp only [ne_eq,join_eq_iff]

lemma names_translateClusters (snap : ConfigSnapshot) :
  (translateClusters snap.clusters snap.endpoints).map (·.name) = snap.clusters.map (·.name) := by
 rw [translateClusters,map_map]
 rfl

lemma names_translatePolicies (pols : List Config.Policy) :
  (translatePolicies pols).map (·.name) = pols.map (·.name) := by
 rw [translatePolicies,map_map]
 rfl

section
variable (render : JsonValue → String) (cfg : RuntimeConfig) (now : Instant)
 (snap : ConfigSnapshot)

def applied : RuntimeConfig := cfg.applyConfig render now (translateSnapshot snap)

def clusterEntry (cl : Config.Cluster) : ClusterState :=
 drainReplaced now (cfg.clusters.find? cl.name)
  (clusterFromProto (translateCluster snap.endpoints cl))

structure OneEntryEach : Prop where
 gateways : (applied render cfg now snap).gateways.entries.length =
   (listenerKeys snap.gateways).length ∧
  ∀ gw ∈ snap.gateways, ∀ lis ∈ gw.listeners,
   (applied render cfg now snap).gateways.find? (gatewayName gw lis) =
    some (gatewayFromProto (translateListener gw lis))
 routes : (applied render cfg now snap).routes.entries.length =
   (translateRoutes snap.routes).length ∧
  ∀ dp ∈ translateRoutes snap.routes,
   (applied render cfg now snap).routes.find? dp.name = some (routeFromProto dp)
 clusters : (applied render cfg now snap).clusters.entries.length = snap.clusters.length ∧
  ∀ cl ∈ snap.clusters,
   (applied render cfg now snap).clusters.find? cl.name = some (clusterEntry cfg now snap cl)
 policies : (applied render cfg now snap).policies.entries.length = snap.policies.length ∧
  ∀ pol ∈ snap.policies,
   (applied render cfg now snap).policies.find? pol.name =
    some (policyFromProto render (translatePolicy pol))

def Resolves (br : Config.BackendRef) (clusterName : String) : Prop :=
 ∀ cl ∈ snap.clusters, cl.ns = br.ns → cl.name = br.name →
  (applied render cfg now snap).clusters.find? clusterName = some (clusterEntry cfg now snap cl)

structure ReferencesResolve : Prop where
 backends : ∀ rt ∈ snap.routes, ∀ p ∈ rt.rules.zipIdx,
  ∀ dp ∈ translateRouteRule rt p.2 p.1 (middlewareNames rt),
   List.Forall₂ (fun br dpRef => Resolves render cfg now snap br dpRef.clusterName)
    p.1.backendRefs dp.backendRefs
 mirrors : ∀ rt ∈ snap.routes, ∀ p ∈ rt.rules.zipIdx,
  ∀ dp ∈ translateRouteRule rt p.2 p.1 (middlewareNames rt),
   ∀ mirror, p.1.mirrorBackend = some mirror → mirror.name ≠ "" →
    Resolves render cfg now snap mirror dp.mirrorCluster

end

/-- Objects of one kind differ in namespace or name, listeners of one gateway in name. -/
structure DistinctObjects (snap : ConfigSnapshot) : Prop where
 gateways : (snap.gateways.map fun gw => (gw.ns,gw.name)).Nodup
 listeners : ∀ gw ∈ snap.gateways, (gw.listeners.map (·.name)).Nodup
 routes : (snap.routes.map fun rt => (rt.ns,rt.name)).Nodup
 clusters : (snap.clusters.map fun cl => (cl.ns,cl.name)).Nodup
 policies : (snap.policies.map fun pol => (pol.ns,pol.name)).Nodup

structure DistinctNames (req : Proto.ApplyConfigRequest) : Prop where
 gateways : (req.gateways.map (·.name)).Nodup
 routes : (req.routes.map (·.name)).Nodup
 clusters : (req.clusters.map (·.name)).Nodup
 policies : (req.policies.map (·.name)).Nodup

structure NamesPreserved (snap : ConfigSnapshot) : Prop where
 names : DistinctNames (translateSnapshot snap)
 references : ∀ render cfg now, ReferencesResolve render cfg now snap
 entries : ∀ render cfg now, OneEntryEach render cfg now snap

structure NamesUnambiguous (snap : ConfigSnapshot) : Prop where
 gateways : (listenerKeys snap.gateways).Pairwise fun p q => ¬ Clash p q
 routes : snap.routes.Pairwise RoutesApart
 clusters : (snap.clusters.map (·.name)).Nodup
 policies : (snap.policies.map (·.name)).Nodup

lemma distinctNames_iff (snap : ConfigSnapshot) :
  DistinctNames (translateSnapshot snap) ↔ NamesUnambiguous snap := by
 have hc := names_translateClusters snap
 have hp := names_translatePolicies snap.policies
 constructor
 · intro h
   exact
    { gateways := (nodup_gatewayNames_iff snap.gateways).mp h.gateways
      routes := (nodup_routeNames_iff snap.routes).mp h.routes
      clusters := hc ▸ h.clusters
      policies := hp ▸ h.policies }
 · intro h
   exact
    { gateways := (nodup_gatewayNames_iff snap.gateways).mpr h.gateways
      routes := (nodup_routeNames_iff snap.routes).mpr h.routes
      clusters := by
       change ((translateClusters snap.clusters snap.endpoints).map (·.name)).Nodup
       rw [hc]
       exact h.clusters
      policies := by
       change ((translatePolicies snap.policies).map (·.name)).Nodup
       rw [hp]
       exact h.policies }

section
variable {snap : ConfigSnapshot} (rd : JsonValue → String) (cfg : RuntimeConfig)
 (now : Instant)

lemma oneEntryEach_of_distinctNames (h : DistinctNames (translateSnapshot snap)) :
  OneEntryEach rd cfg now snap where
 gateways := by
  have hn : (((translateGateways snap.gateways).map gatewayFromProto).map (·.name)).Nodup := by
   rw [map_map]
   exact h.gateways
  obtain ⟨hl,hf⟩ := (holdsEach_replaceAll_iff (·.name) (fun _ g => g) cfg.gateways _).mpr hn
  have hc := congrArg List.length (names_translateGateways snap.gateways)
  simp only [length_map] at hl hc
  constructor
  · exact hl.trans hc
  · intro gw hg lis hli
    have hm : translateListener gw lis ∈ translateGateways snap.gateways :=
     mem_flatMap.mpr ⟨gw,hg,mem_map_of_mem hli⟩
    exact hf _ (mem_map_of_mem hm)
 routes := by
  have hn : (((translateRoutes snap.routes).map routeFromProto).map (·.name)).Nodup := by
   rw [map_map]
   exact h.routes
  obtain ⟨hl,hf⟩ := (holdsEach_replaceAll_iff (·.name) (fun _ r => r) cfg.routes _).mpr hn
  rw [length_map] at hl
  exact ⟨hl,fun dp hdp => hf _ (mem_map_of_mem hdp)⟩
 clusters := by
  have hn : (((translateClusters snap.clusters snap.endpoints).map clusterFromProto).map
    (·.name)).Nodup := by
   rw [map_map]
   exact h.clusters
  obtain ⟨hl,hf⟩ := (holdsEach_replaceAll_iff (·.name) (drainReplaced now) cfg.clusters _).mpr hn
  rw [length_map,translateClusters,length_map] at hl
  exact ⟨hl,fun cl hcl => hf _ (mem_map_of_mem (mem_map_of_mem hcl))⟩
 policies := by
  have hn : (((translatePolicies snap.policies).map (policyFromProto rd)).map
    (·.name)).Nodup := by
   rw [map_map]
   exact h.policies
  obtain ⟨hl,hf⟩ := (holdsEach_replaceAll_iff (·.name) (fun _ p => p) cfg.policies _).mpr hn
  rw [length_map,translatePolicies,length_map] at hl
  exact ⟨hl,fun pol hp => hf _ (mem_map_of_mem (mem_map_of_mem hp))⟩

/-- A reference is translated to its bare name, so it resolves once entries are one to one. -/
lemma resolves_name (h : OneEntryEach rd cfg now snap) (br : Config.BackendRef) :
  Resolves rd cfg now snap br br.name := by
 intro cl hc _ hn
 rw [← hn]
 exact h.clusters.2 cl hc

lemma mem_translateRouteRule {rt : Config.Route} {i : ℕ} {rule : RouteRule}
  {refs : List String} {dp : Proto.RouteConfig} (h : dp ∈ translateRouteRule rt i rule refs) :
  ∃ name m, m ∈ matchEntries rule ∧ dp = translateRouteMatch rt name rule refs m := by
 obtain ⟨⟨m,j⟩,hp,rfl⟩ := mem_map.mp h
 exact ⟨_,m,fst_mem_of_mem_zipIdx hp,rfl⟩

lemma referencesResolve_of_oneEntryEach (h : OneEntryEach rd cfg now snap) :
  ReferencesResolve rd cfg now snap where
 backends := by
  intro rt _ p _ dp hp
  obtain ⟨name,m,-,rfl⟩ := mem_translateRouteRule hp
  rw [translateRouteMatch_backendRefs,forall₂_map_right_iff,forall₂_same]
  intro br _
  exact resolves_name rd cfg now h br
 mirrors := by
  intro rt _ p _ dp hp mirror hm hn
  obtain ⟨name,m,-,rfl⟩ := mem_translateRouteRule hp
  rw [translateRouteMatch_mirrorCluster rt name p.1 _ m hm hn]
  exact resolves_name rd cfg now h mirror

end

/-- Names survive the translation exactly if they are unambiguous without their namespaces. -/
theorem names_preserved_iff (snap : ConfigSnapshot) :
  NamesPreserved snap ↔ NamesUnambiguous snap := by
 rw [← distinctNames_iff]
 constructor
 · intro h
   exact h.names
 · intro h
   have hn : ∀ render cfg now, OneEntryEach render cfg now snap := fun render cfg now =>
    oneEntryEach_of_distinctNames render cfg now h
   exact
    { names := h
      references := fun render cfg now =>
       referencesResolve_of_oneEntryEach render cfg now (hn render cfg now)
      entries := hn }

def twoNamespaces : ConfigSnapshot where
 clusters := [{ name := "web", ns := "blue" },{ name := "web", ns := "green" }]
 endpoints := ((∅ : KeyedMap String (List Config.Endpoint)).set "blue/web"
  [{ address := "10.0.0.1", port := 80, ready := true }]).set "green/web"
  [{ address := "10.0.0.2", port := 80, ready := true }]
 routes := [{ name := "shop", ns := "blue"
              rules := [{ backendRefs := [{ name := "web", ns := "blue", weight := 1 }] }] }]

def healthyAddresses (cl : ClusterState) : List String :=
 (cl.endpoints.filter (·.healthy)).map (·.address)

/-- Under it the route of the first namespace finds the endpoint of the second. -/
theorem namespaces_collapse : DistinctObjects twoNamespaces ∧ ¬ NamesPreserved twoNamespaces ∧
      ((applied (fun _ => "") {} 0 twoNamespaces).clusters.find? "web").map healthyAddresses =
       some ["10.0.0.2"] := by
 have hdi : DistinctObjects twoNamespaces := by
  constructor <;> decide
 have hc : ¬ NamesPreserved twoNamespaces := by
  intro h
  exact absurd h.names.clusters (by decide)
 exact ⟨hdi,hc,by decide⟩

end NovaEdge.Translator
