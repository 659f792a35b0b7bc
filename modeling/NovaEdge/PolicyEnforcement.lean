import NovaEdge.CompleteMediation
import NovaEdge.SnapshotBuilder
import NovaEdge.TranslatorNames

/-! A policy on its way from its resource to the middleware chain: when a request that the
dataplane matches to a rule of a route is evaluated against it. -/
namespace NovaEdge.Dataplane
open List Event Translator Config
open Snapshot (GoLibrary BuildContext IsSnapshotOf buildRoute buildPolicy convertRule)
open V1alpha1 (ProxyPolicy ProxyRoute HTTPRouteRule)
open Translator (translateRouteRule middlewareNames translatePolicy applied)

variable {pol : PolicyState}

section
variable {lib : TextLibrary} {eng : PolicyEngines} {h : ProxyHandler} {w : World} {r : HttpRequest}
 {route : Route}

lemma serveWebsocket_events {e : Event} (he : e ∈ (serveWebsocket h w r route).1) :
  IsForward e := by
 unfold serveWebsocket at he
 split at he
 · simp at he
 · split at he
   · simp at he
   · split_ifs at he
     · simp at he
     · dsimp only at he
       split at he
       · simp at he
       · unfold handleWebsocketUpgrade at he
         split_ifs at he
         · exact ⟨route,_,_,mem_singleton.mp he⟩
         · simp at he

lemma matched_notMem_serveWebsocket (rt' : Route) :
  matched rt' ∉ (serveWebsocket h w r route).1 := by
 intro hm
 obtain ⟨_,_,_,hq⟩ := serveWebsocket_events hm
 simp at hq

lemma evaluated_notMem_serveWebsocket (pol : PolicyState) :
  evaluated pol ∉ (serveWebsocket h w r route).1 := by
 intro hm
 obtain ⟨_,_,_,hq⟩ := serveWebsocket_events hm
 simp at hq

lemma matched_notMem_serveRoute (rt' : Route) :
  matched rt' ∉ (serveRoute eng h w r route).1 := by
 have hc : matched rt' ∉ chainEvents eng h r route := by
  intro hm
  rcases mem_chainEvents eng hm with ⟨_,hq⟩ | ⟨_,_,hq⟩ <;> simp at hq
 have hf : ∀ name, matched rt' ∉ (forwardUpstream h w r route name).1 := by
  intro name hm
  obtain ⟨_,_,hq⟩ := forwardUpstream_events hm
  simp at hq
 rcases serveRoute_cases eng h w r route with
  ⟨-,hq⟩ | ⟨name,-,⟨-,hq⟩ | ⟨-,-,hq⟩ | ⟨-,-,hq⟩⟩
 · simp [hq]
 · rw [hq]
   exact hf name
 · rw [hq]
   exact hc
 · simp [hq,hc,hf name]

def serveMatched (eng : PolicyEngines) (entry : Entry) (h : ProxyHandler) (w : World)
  (r : HttpRequest) (route : Route) : List Event × Reply :=
 if entry = .http1 ∧ isWebsocket r.headers then serveWebsocket h w r route
 else serveRoute eng h w r route

lemma withRoute_of_matched {rr : Router} {run : Route → List Event × Reply}
  (hr : ∀ route rt', matched rt' ∉ (run route).1)
  (hm : matched route ∈ (withRoute lib rr r run).1) :
  withRoute lib rr r run = (.matched route::(run route).1,(run route).2) := by
 unfold withRoute at hm ⊢
 split at hm
 · rename_i found hf
   rcases mem_cons.mp hm with hq | hme
   · rw [matched.inj hq]
   · exact absurd hme (hr found route)
 · split at hm
   · exact absurd hm (hr _ route)
   · simp at hm

lemma handleRequestInner_of_matched
  (hm : matched route ∈ (handleRequestInner lib eng h w r).1) :
  handleRequestInner lib eng h w r =
   (.matched route::(serveRoute eng h w r route).1,(serveRoute eng h w r route).2) := by
 unfold handleRequestInner at hm ⊢
 split_ifs at hm ⊢
 · simp at hm
 · exact withRoute_of_matched (fun _ => matched_notMem_serveRoute) hm

lemma handleRequest_of_matched (hm : matched route ∈ (handleRequest lib eng h w r).1) :
  handleRequest lib eng h w r = (.matched route::(serveMatched eng .http1 h w r route).1,
   (serveMatched eng .http1 h w r route).2) := by
 unfold handleRequest serveMatched at *
 by_cases hw : isWebsocket r.headers
 · simp only [hw,if_true,and_self] at hm ⊢
   exact withRoute_of_matched (fun _ => matched_notMem_serveWebsocket) hm
 · simp only [hw,Bool.false_eq_true,if_false,and_false] at hm ⊢
   split_ifs at hm ⊢
   · exact handleRequestInner_of_matched hm
   · simp at hm
   · cases hb : w.body with
     | none => simp [hb] at hm
     | some body =>
      simp only [hb] at hm ⊢
      exact handleRequestInner_of_matched hm

lemma handleH3Request_of_matched (hm : matched route ∈ (handleH3Request lib eng h w r).1) :
  handleH3Request lib eng h w r = (.matched route::(serveMatched eng .http3 h w r route).1,
   (serveMatched eng .http3 h w r route).2) := by
 unfold handleH3Request at hm ⊢
 cases hb : w.body with
 | none => simp [hb] at hm
 | some body =>
  simp only [hb] at hm ⊢
  exact handleRequestInner_of_matched hm

lemma serve_of_matched {ent : Entry} (hm : matched route ∈ (serve lib eng ent h w r).1) :
  serve lib eng ent h w r = (.matched route::(serveMatched eng ent h w r route).1,
   (serveMatched eng ent h w r route).2) := by
 cases ent with
 | http1 => exact handleRequest_of_matched hm
 | http3 => exact handleH3Request_of_matched hm

lemma selectBackend_eq_none_iff : route.selectBackend.1 = none ↔ route.backendRefs = [] := by
 unfold Route.selectBackend
 split
 · simp [*]
 · simp [*]
 · dsimp only
   split_ifs <;> simp [*]

lemma evaluated_mem_chainEvents_iff : evaluated pol ∈ chainEvents eng h r route ↔
      pol ∈ (runPipeline eng h.config.policies route.middlewareRefs (middlewareRequest r)).1 := by
 simp [chainEvents]

lemma evaluated_mem_serveRoute_iff :
  evaluated pol ∈ (serveRoute eng h w r route).1 ↔ route.backendRefs ≠ [] ∧
    pol ∈ (runPipeline eng h.config.policies route.middlewareRefs (middlewareRequest r)).1 := by
 have hf : ∀ name, evaluated pol ∉ (forwardUpstream h w r route name).1 := by
  intro name hm
  obtain ⟨_,_,hq⟩ := forwardUpstream_events hm
  simp at hq
 have hne : ∀ {name}, route.selectBackend.1 = some name → route.backendRefs ≠ [] := by
  intro name hb hn
  rw [selectBackend_eq_none_iff.mpr hn] at hb
  simp at hb
 rcases serveRoute_cases eng h w r route with
  ⟨hb,hq⟩ | ⟨name,hb,⟨hr,hq⟩ | ⟨-,-,hq⟩ | ⟨-,-,hq⟩⟩
 · simp [hq,selectBackend_eq_none_iff.mp hb]
 · simp [hq,hf name,hr,runPipeline]
 · simp [hq,hne hb,evaluated_mem_chainEvents_iff]
 · simp [hq,hne hb,evaluated_mem_chainEvents_iff,hf name]

lemma evaluated_mem_serve_iff {ent : Entry}
  (hm : matched route ∈ (serve lib eng ent h w r).1) :
  evaluated pol ∈ (serve lib eng ent h w r).1 ↔
   ¬ (ent = .http1 ∧ isWebsocket r.headers) ∧ route.backendRefs ≠ [] ∧
    pol ∈ (runPipeline eng h.config.policies route.middlewareRefs (middlewareRequest r)).1 := by
 rw [serve_of_matched hm,mem_cons,serveMatched]
 by_cases hw : ent = .http1 ∧ isWebsocket r.headers
 · simp [evaluated_notMem_serveWebsocket,hw]
 · rw [if_neg hw,evaluated_mem_serveRoute_iff]
   simp [hw]

end

section
variable (glib : GoLibrary) (lib : TextLibrary) (render : JsonValue → String)

def Targets (P : ProxyPolicy) (R : ProxyRoute) : Prop :=
 P.targetRef.kind = "ProxyRoute" ∧ P.targetRef.name = R.name ∧
  Snapshot.getNamespace P.targetRef.ns P.ns = R.ns

def pipelineNames (R : ProxyRoute) : List String :=
 (R.pipeline.map fun p => p.middleware.map (·.name)).getD []

def storedPolicy (pol : Policy) : PolicyState := policyFromProto render (translatePolicy pol)

def policyState (bc : BuildContext) (P : ProxyPolicy) : PolicyState :=
 storedPolicy render (buildPolicy glib bc P)

def Route.fresh (route : Route) : Route := { route with rrCounter := 0 }

/-- Of the routes, only the counters move while it serves requests. -/
structure Deployed (bc : BuildContext) (snap : ConfigSnapshot) (h : ProxyHandler) : Prop where
 built : IsSnapshotOf glib bc snap
 config : ∃ cfg now, h.config = applied render cfg now snap
 router : ∃ router, h.router.routes.map Route.fresh = (rebuildRouter lib router h.config).routes

def MatchedTo (R : ProxyRoute) (rule : HTTPRouteRule) (events : List Event) : Prop :=
 ∃ route ruleIdx, Event.matched route ∈ events ∧ R.rules[ruleIdx]? = some rule ∧
  ∃ dp ∈ translateRouteRule (buildRoute glib R) ruleIdx (convertRule glib R.ns rule)
    (middlewareNames (buildRoute glib R)),
   route.fresh = compileRoute lib (routeFromProto dp)

lemma middlewareNames_buildRoute (R : ProxyRoute) :
  middlewareNames (buildRoute glib R) = pipelineNames R := by
 cases hp : R.pipeline with
 | none => simp [middlewareNames,pipelineNames,buildRoute,hp]
 | some p => simp [middlewareNames,pipelineNames,buildRoute,hp,Snapshot.convertMiddlewarePipeline]

variable {glib lib render}

lemma matchedTo_route {R : ProxyRoute} {rule : HTTPRouteRule} {evs : List Event}
  (hm : MatchedTo glib lib R rule evs) :
  ∃ route, matched route ∈ evs ∧ route.middlewareRefs = pipelineNames R ∧
   (route.backendRefs = [] ↔ rule.backendRefs = []) := by
 obtain ⟨route,ri,hme,-,dp,hp,hr⟩ := hm
 obtain ⟨name,m,-,rfl⟩ := mem_translateRouteRule hp
 have hre := congrArg Route.middlewareRefs hr
 have hb := congrArg Route.backendRefs hr
 simp only [Route.fresh,compileRoute,routeFromProto,translateRouteMatch_middlewareRefs,
  translateRouteMatch_backendRefs,middlewareNames_buildRoute] at hre hb
 exact ⟨route,hme,hre,by simp [hb,convertRule]⟩

lemma find?_applied_policies (cfg : RuntimeConfig) (now : Instant) (snap : ConfigSnapshot)
  (name : String) : (applied render cfg now snap).policies.find? name =
   ((snap.policies.filter fun pol => pol.name = name).getLast?).map (storedPolicy render) := by
 have hl : (translatePolicies snap.policies).map (policyFromProto render) =
   snap.policies.map (storedPolicy render) := by
  rw [translatePolicies,map_map]
  rfl
 have hf := KeyedMap.find?_replaceAll_last PolicyState.name cfg.policies
  (snap.policies.map (storedPolicy render)) name
 rw [filter_map,getLast?_map,← hl] at hf
 exact hf

def Prevails (glib : GoLibrary) (render : JsonValue → String) (bc : BuildContext)
  (snap : ConfigSnapshot) (P : ProxyPolicy) : Prop :=
 ∀ Q ∈ bc.policies,
  (snap.policies.filter fun pol => pol.name = P.name).getLast? = some (buildPolicy glib bc Q) →
   policyState glib render bc Q = policyState glib render bc P

lemma last_named {bc : BuildContext} {snap : ConfigSnapshot} {P : ProxyPolicy}
  (hn : IsSnapshotOf glib bc snap) (hP : P ∈ bc.policies) :
  ∃ Q ∈ bc.policies, (snap.policies.filter fun pol => pol.name = P.name).getLast? =
   some (buildPolicy glib bc Q) := by
 have hb : ∀ pol, pol ∈ snap.policies ↔ ∃ Q ∈ bc.policies, buildPolicy glib bc Q = pol := by
  intro pol
  rw [hn.policies.1.mem_iff,Snapshot.buildPolicies,mem_map]
 have hm : buildPolicy glib bc P ∈ snap.policies.filter fun pol => pol.name = P.name :=
  mem_filter.mpr ⟨(hb _).mpr ⟨P,hP,rfl⟩,by simp⟩
 have hl := getLast_mem (ne_nil_of_mem hm)
 obtain ⟨Q,hQ,hp⟩ := (hb _).mp (mem_of_mem_filter hl)
 exact ⟨Q,hQ,by rw [getLast?_eq_some_getLast (ne_nil_of_mem hm),hp]⟩

lemma find?_eq_policyState_iff {bc : BuildContext} {snap : ConfigSnapshot}
  {h : ProxyHandler} {P : ProxyPolicy} (hd : Deployed glib lib render bc snap h)
  (hP : P ∈ bc.policies) (name : String) :
  h.config.policies.find? name = some (policyState glib render bc P) ↔
   name = P.name ∧ Prevails glib render bc snap P := by
 obtain ⟨cfg,now,hc⟩ := hd.config
 rw [hc,find?_applied_policies]
 obtain ⟨Q,hQ,hl⟩ := last_named hd.built hP
 constructor
 · intro hf
   -- What is stored under a name carries that name.
   obtain ⟨pol,hp,ht⟩ := map_eq_some_iff.mp hf
   have hn : pol.name = name := by
    have hm := mem_of_getLast? hp
    simpa using (mem_filter.mp hm).2
   have hP' : pol.name = P.name := congrArg PolicyState.name ht
   have hq : name = P.name := by rw [← hn,hP']
   refine ⟨hq,?_⟩
   intro Q' _ hQ'
   rw [hq,hQ',Option.some.injEq] at hp
   rw [policyState,hp,ht]
 · intro ⟨hq,hr⟩
   rw [hq,hl,Option.map_some,← hr Q hQ hl]
   rfl

variable (glib lib render)

/-- No upgrade, a backend, a branch for the type, and a pipeline that comes to the policy. -/
structure GetsTo (eng : PolicyEngines) (bc : BuildContext) (snap : ConfigSnapshot)
  (h : ProxyHandler) (entry : Entry) (r : HttpRequest) (P : ProxyPolicy) (R : ProxyRoute)
  (rule : HTTPRouteRule) : Prop where
 plain : ¬ (entry = .http1 ∧ isWebsocket r.headers)
 backed : rule.backendRefs ≠ []
 dispatched : dispatched (policyTypeStr (translatePolicyType
  (Snapshot.convertPolicyType P.type)))
 prevails : Prevails glib render bc snap P
 named : ∃ before after, pipelineNames R = before ++ P.name::after ∧
  (runPipeline eng h.config.policies before (middlewareRequest r)).2 =
   .continueWith (middlewareRequest r)

/-- The reference that the policy targets has no part in it. -/
theorem evaluated_iff_getsTo (eng : PolicyEngines) {bc : BuildContext}
  {snap : ConfigSnapshot} {h : ProxyHandler} (hd : Deployed glib lib render bc snap h)
  {P : ProxyPolicy} (hP : P ∈ bc.policies) (entry : Entry) (w : World) (r : HttpRequest)
  {R : ProxyRoute} {rule : HTTPRouteRule}
  (hm : MatchedTo glib lib R rule (serve lib eng entry h w r).1) :
  evaluated (policyState glib render bc P) ∈ (serve lib eng entry h w r).1 ↔
   GetsTo glib render eng bc snap h entry r P R rule := by
 obtain ⟨route,hme,hre,ha⟩ := matchedTo_route hm
 rw [evaluated_mem_serve_iff hme,mem_evaluated_iff,hre,Ne,ha]
 have hf := find?_eq_policyState_iff hd hP
 constructor
 · intro ⟨hl,hb,hdi,pre,name,post,hn,hnm,hr⟩
   obtain ⟨rfl,hp⟩ := (hf name).mp hnm
   exact ⟨hl,hb,hdi,hp,pre,post,hn,hr⟩
 · intro hg
   obtain ⟨pre,post,hn,hr⟩ := hg.named
   exact ⟨hg.plain,hg.backed,hg.dispatched,pre,P.name,post,hn,
    (hf P.name).mpr ⟨rfl,hg.prevails⟩,hr⟩

end

def noGoLibrary : GoLibrary := ⟨fun _ => none,fun _ => ""⟩

def webRule : HTTPRouteRule := { backendRefs := [{ name := "web" }] }

def storefront (names : List String) : ProxyRoute :=
 { name := "storefront", ns := "prod", rules := [webRule]
   pipeline := some ⟨names.map fun name => { type := "policy", name := name }⟩ }

def jwtGuard : ProxyPolicy :=
 { name := "guard", ns := "prod", type := .jwt
   targetRef := { kind := "ProxyRoute", name := "storefront" }
   jwt := some { issuer := "issuer", jwksUri := "https://issuer/jwks" } }

section
variable (names : List String)

def storefrontContext : BuildContext := { routes := [storefront names], policies := [jwtGuard] }

def storefrontSnapshot : ConfigSnapshot where
 routes := Snapshot.buildRoutes noGoLibrary (storefrontContext names)
 clusters := [{ name := "web", ns := "prod" }]
 endpoints := (∅ : KeyedMap String (List Endpoint)).set "prod/web"
  [{ address := "10.0.0.1", port := 80, ready := true, weight := 1 }]
 policies := Snapshot.buildPolicies noGoLibrary (storefrontContext names)

def storefrontConfig : RuntimeConfig := applied (fun _ => "") {} 0 (storefrontSnapshot names)

def storefrontHandler : ProxyHandler where
 router := rebuildRouter noRegex {} (storefrontConfig names)
 config := storefrontConfig names

def storefrontTrace : List Event :=
 (serve noRegex noEngines .http1 (storefrontHandler names) openWorld {}).1

def storefrontRoute : Route :=
 { defaultRoute "web" with name := "storefront/rule-0", middlewareRefs := names }

lemma storefront_deployed : Deployed noGoLibrary noRegex (fun _ => "") (storefrontContext names)
      (storefrontSnapshot names) (storefrontHandler names) where
 built := ⟨⟨List.Perm.refl _,pairwise_singleton _ _⟩,⟨List.Perm.refl _,pairwise_singleton _ _⟩⟩
 config := ⟨{},0,rfl⟩
 router := ⟨{},rfl⟩

end

lemma storefront_matched {nam : List String} {rt : Route}
  (hm : matched rt ∈ storefrontTrace nam)
  (hr : rt.fresh = compileRoute noRegex (routeFromProto
   (translateRouteMatch (buildRoute noGoLibrary (storefront nam))
    "storefront/rule-0" (convertRule noGoLibrary "prod" webRule)
    (middlewareNames (buildRoute noGoLibrary (storefront nam))) none))) :
  MatchedTo noGoLibrary noRegex (storefront nam) webRule (storefrontTrace nam) :=
 ⟨rt,0,hm,rfl,_,mem_singleton.mpr rfl,hr⟩

theorem named_policy_evaluated :
  evaluated (policyState noGoLibrary (fun _ => "") (storefrontContext ["guard"]) jwtGuard) ∈
   storefrontTrace ["guard"] := by
 have ht : matched (storefrontRoute ["guard"]) ∈ storefrontTrace ["guard"] := mem_cons_self
 apply (evaluated_iff_getsTo noGoLibrary noRegex (fun _ => "") noEngines
  (storefront_deployed ["guard"]) (mem_singleton.mpr rfl) .http1 openWorld {}
  (storefront_matched ht rfl)).mpr
 exact
  { plain := by decide
    backed := by simp [webRule]
    dispatched := by decide
    prevails := by
     intro Q hQ _
     rw [mem_singleton.mp hQ]
    named := ⟨[],[],rfl,rfl⟩ }

theorem attached_policy_unevaluated :
  jwtGuard ∈ (storefrontContext []).policies ∧ storefront [] ∈ (storefrontContext []).routes ∧
   Targets jwtGuard (storefront []) ∧
   Deployed noGoLibrary noRegex (fun _ => "") (storefrontContext [])
    (storefrontSnapshot []) (storefrontHandler []) ∧
   MatchedTo noGoLibrary noRegex (storefront []) webRule (storefrontTrace []) ∧
   storefrontTrace [] = [.matched (storefrontRoute []),
    .forward (storefrontRoute []) (.attempt 0) ("10.0.0.1",80)] ∧
   evaluated (policyState noGoLibrary (fun _ => "") (storefrontContext []) jwtGuard) ∉
    storefrontTrace [] := by
 have ht : storefrontTrace [] = [.matched (storefrontRoute []),
   .forward (storefrontRoute []) (.attempt 0) ("10.0.0.1",80)] := rfl
 refine ⟨mem_singleton.mpr rfl,mem_singleton.mpr rfl,⟨rfl,rfl,rfl⟩,
  storefront_deployed [],?_,ht,?_⟩
 · exact @storefront_matched [] (storefrontRoute []) (by simp [ht]) rfl
 · simp [ht]

end NovaEdge.Dataplane
