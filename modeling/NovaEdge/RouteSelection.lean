import NovaEdge.TransitionSystem
import NovaEdge.SortOrder
import NovaEdge.DataplaneRouter

/-! Which route a request gets. The route table is a hash map, so two dataplanes with the same
table may rebuild their routers from it in different orders. -/
namespace NovaEdge.Dataplane
open List

structure RoutingState where
 config : RuntimeConfig := {}
 router : Router := {}

inductive RouteOp
 | applyConfig (req : Proto.ApplyConfigRequest) (now : Instant)
 | upsertRoute (route : Proto.RouteConfig)
 | deleteRoute (name : String)

def RuntimeConfig.upsertRoute (cfg : RuntimeConfig) (route : RouteState) : RuntimeConfig :=
 { cfg with routes := cfg.routes.set route.name route }

def RuntimeConfig.deleteRoute (cfg : RuntimeConfig) (name : String) : RuntimeConfig :=
 { cfg with routes := cfg.routes.delete name }

section
variable (lib : TextLibrary) (render : JsonValue → String)

def storeAfter (cfg : RuntimeConfig) : RouteOp → RuntimeConfig
 | .applyConfig req now => cfg.applyConfig render now req
 | .upsertRoute route => cfg.upsertRoute (routeFromProto route)
 | .deleteRoute name => cfg.deleteRoute name

def IsRebuilt (router : Router) (cfg : RuntimeConfig) (rebuilt : Router) : Prop :=
 ∃ values : List RouteState, values.Perm cfg.routes.values ∧
  rebuilt = router.setRoutes (values.map (compileRoute lib))

/-- Every call rebuilds the router from the table it leaves. -/
def routingSystem : TransitionSystem RoutingState RouteOp where
 init s := s = {}
 step s op t := t.config = storeAfter render s.config op ∧ IsRebuilt lib s.router t.config t.router

def HasApplied (req : Proto.ApplyConfigRequest) (t : RoutingState) : Prop :=
 ∃ s now, (routingSystem lib render).Reachable s ∧
  (routingSystem lib render).step s (.applyConfig req now) t

def IsBestMatch (router : Router) (r : RouteRequest) (found : Option Route) : Prop :=
 match found with
 | some m => m ∈ router.routes ∧ matchesRoute lib m r = true ∧
   ∀ route ∈ router.routes, matchesRoute lib route r = true → m.priority ≤ route.priority
 | none => ∀ route ∈ router.routes, matchesRoute lib route r = false

/-- Routing depends on the request alone, and the lowest priority value wins. -/
def RoutesByConfig (req : Proto.ApplyConfigRequest) : Prop :=
 ∀ t t', HasApplied lib render req t → HasApplied lib render req t' → ∀ r,
  t.router.matchRequestWithQuery lib r = t'.router.matchRequestWithQuery lib r ∧
   IsBestMatch lib t.router r (t.router.matchRequestWithQuery lib r)

def Effective (req : Proto.ApplyConfigRequest) (rs : RouteState) : Prop :=
 ((req.routes.map routeFromProto).filter fun v => v.name = rs.name).getLast? = some rs

def Exclusive (req : Proto.ApplyConfigRequest) : Prop :=
 ∀ r rs rs', Effective req rs → Effective req rs' →
  matchesRoute lib (compileRoute lib rs) r = true →
  matchesRoute lib (compileRoute lib rs') r = true → rs = rs'

end

section
variable {lib : TextLibrary} {render : JsonValue → String} {req : Proto.ApplyConfigRequest}

lemma find?_routes_applyConfig (cfg : RuntimeConfig) (now : Instant) (k : String) :
  (cfg.applyConfig render now req).routes.find? k =
   ((req.routes.map routeFromProto).filter fun v => v.name = k).getLast? :=
 KeyedMap.find?_replaceAll_last RouteState.name cfg.routes (req.routes.map routeFromProto) k

lemma mem_values_applyConfig (cfg : RuntimeConfig) (now : Instant) (rs : RouteState) :
  rs ∈ (cfg.applyConfig render now req).routes.values ↔ Effective req rs := by
 have hf := @find?_routes_applyConfig render req cfg now
 rw [KeyedMap.mem_values_iff,Effective]
 constructor
 · rintro ⟨k,hk⟩
   rw [hf k] at hk
   have hn : rs.name = k := by
    have hm := mem_of_getLast? hk
    simpa using (mem_filter.mp hm).2
   rw [hn]
   exact hk
 · intro h
   exact ⟨rs.name,(hf rs.name).trans h⟩

variable {t : RoutingState}

section
variable (h : HasApplied lib render req t)
include h

lemma HasApplied.mem_routes (route : Route) :
  route ∈ t.router.routes ↔ ∃ rs, Effective req rs ∧ compileRoute lib rs = route := by
 obtain ⟨s,now,-,hc,values,hp,hr⟩ := h
 have hm : ∀ rs, rs ∈ values ↔ Effective req rs := by
  intro rs
  rw [hp.mem_iff,hc]
  exact mem_values_applyConfig s.config now rs
 rw [hr]
 simp [Router.setRoutes,hm]

instance : Std.Total fun a b : Route => b.priority ≤ a.priority :=
 ⟨fun a b => Int32.le_total b.priority a.priority⟩

instance : IsTrans Route fun a b => b.priority ≤ a.priority :=
 ⟨fun _ _ _ hab hbc => Int32.le_trans hbc hab⟩

lemma HasApplied.sorted : t.router.routes.Pairwise fun a b => b.priority ≤ a.priority := by
 obtain ⟨s,now,-,-,values,-,hr⟩ := h
 rw [hr]
 exact pairwise_insertionSort _ _

variable {r : RouteRequest}

lemma HasApplied.priority_le {m rt : Route}
  (hm : t.router.matchRequestWithQuery lib r = some m) (hr : rt ∈ t.router.routes)
  (ha : matchesRoute lib rt r = true) : rt.priority ≤ m.priority := by
 rcases SortOrder.rel_of_find? h.sorted hm hr ha with rfl | hl
 · exact Int32.le_refl _
 · exact hl

end

lemma hasApplied_of_perm {values : List RouteState}
  (h : values.Perm ((({} : RuntimeConfig).applyConfig render 0 req).routes.values)) :
  HasApplied lib render req ⟨({} : RuntimeConfig).applyConfig render 0 req,
    ({} : Router).setRoutes (values.map (compileRoute lib))⟩ :=
 ⟨{},0,.start rfl,rfl,values,h,rfl⟩

lemma isBestMatch_of_exclusive (h : Exclusive lib req) (ht : HasApplied lib render req t)
  (r : RouteRequest) : IsBestMatch lib t.router r (t.router.matchRequestWithQuery lib r) := by
 cases hm : t.router.matchRequestWithQuery lib r with
 | none =>
  intro route hr
  simpa using find?_eq_none.mp hm route hr
 | some m =>
  have hme := mem_of_find?_eq_some hm
  have ha := find?_some hm
  refine ⟨hme,ha,fun route hr ho => ?_⟩
  obtain ⟨rs,hrs,rfl⟩ := (ht.mem_routes m).mp hme
  obtain ⟨rs',hr',rfl⟩ := (ht.mem_routes route).mp hr
  rw [h r rs rs' hrs hr' ha ho]
  exact Int32.le_refl _

lemma match_eq_of_exclusive (h : Exclusive lib req) {t' : RoutingState}
  (ht : HasApplied lib render req t) (ht' : HasApplied lib render req t') (r : RouteRequest) :
  t.router.matchRequestWithQuery lib r = t'.router.matchRequestWithQuery lib r := by
 have ha : ∀ route, route ∈ t'.router.routes ↔ route ∈ t.router.routes := by
  intro route
  rw [ht'.mem_routes,ht.mem_routes]
 cases hm : t.router.matchRequestWithQuery lib r with
 | none =>
  symm
  apply find?_eq_none.mpr
  intro route hr
  exact find?_eq_none.mp hm route ((ha route).mp hr)
 | some m =>
  have hme := mem_of_find?_eq_some hm
  have hma := find?_some hm
  symm
  refine SortOrder.find?_of_unique ((ha m).mpr hme) hma fun route hr ho => ?_
  obtain ⟨rs,hrs,rfl⟩ := (ht.mem_routes m).mp hme
  obtain ⟨rs',hr',rfl⟩ := (ht'.mem_routes route).mp hr
  rw [h r rs rs' hrs hr' hma ho]

variable {rs : RouteState}

lemma exists_step_match (s : RoutingState) (now : Instant) (hr : Effective req rs)
  (ha : matchesRoute lib (compileRoute lib rs) r = true)
  (hm : ∀ rs', Effective req rs' → matchesRoute lib (compileRoute lib rs') r = true →
   rs'.priority ≤ rs.priority) : ∃ t, (routingSystem lib render).step s (.applyConfig req now) t ∧
   t.router.matchRequestWithQuery lib r = some (compileRoute lib rs) := by
 have hme : rs ∈ (s.config.applyConfig render now req).routes.values :=
  (mem_values_applyConfig s.config now rs).mpr hr
 obtain ⟨as,bs,hsp⟩ := append_of_mem hme
 have hp : (rs::(as ++ bs)).Perm ((s.config.applyConfig render now req).routes.values) := by
  rw [hsp]
  exact perm_middle.symm
 refine ⟨⟨s.config.applyConfig render now req,
  s.router.setRoutes ((rs::(as ++ bs)).map (compileRoute lib))⟩,⟨rfl,_,hp,rfl⟩,?_⟩
 have hf : (fun rt => matchesRoute lib rt r) (compileRoute lib rs) = true := ha
 refine SortOrder.find?_orderedInsert (fun a b : Route => b.priority ≤ a.priority) hf ?_
 intro rt ho ht
 have hn : rt ∈ (as ++ bs).map (compileRoute lib) := (perm_insertionSort _ _).mem_iff.mp ho
 obtain ⟨rs',hr',rfl⟩ := mem_map.mp hn
 have hv : rs' ∈ (s.config.applyConfig render now req).routes.values :=
  hp.mem_iff.mp (mem_cons_of_mem rs hr')
 exact hm rs' ((mem_values_applyConfig s.config now rs').mp hv) ht

lemma exists_applied_match (render : JsonValue → String) (hr : Effective req rs)
  (ha : matchesRoute lib (compileRoute lib rs) r = true)
  (hm : ∀ rs', Effective req rs' → matchesRoute lib (compileRoute lib rs') r = true →
   rs'.priority ≤ rs.priority) : ∃ t, HasApplied lib render req t ∧
   t.router.matchRequestWithQuery lib r = some (compileRoute lib rs) := by
 obtain ⟨t,ht,hf⟩ := exists_step_match {} 0 hr ha hm
 exact ⟨t,⟨{},0,.start rfl,ht⟩,hf⟩

/-- Under routing by the configuration alone every match has the priority value of the others,
and hence the highest one. -/
lemma priority_le_of_routesByConfig (h : RoutesByConfig lib render req) {rs' : RouteState}
  (hr : Effective req rs) (hr' : Effective req rs')
  (ha : matchesRoute lib (compileRoute lib rs) r = true)
  (hm' : matchesRoute lib (compileRoute lib rs') r = true) : rs'.priority ≤ rs.priority := by
 have ht : HasApplied lib render req _ := hasApplied_of_perm (List.Perm.refl _)
 have hn := (ht.mem_routes _).mpr ⟨rs,hr,rfl⟩
 have hn' := (ht.mem_routes _).mpr ⟨rs',hr',rfl⟩
 obtain ⟨-,hb⟩ := h _ _ ht ht r
 cases hm : Router.matchRequestWithQuery lib _ r with
 | none =>
  rw [hm] at hb
  simp [hb _ hn] at ha
 | some m =>
  rw [hm] at hb
  have hf := ht.priority_le hm hn' hm'
  have hl := hb.2.2 _ hn ha
  exact Int32.le_trans hf hl

end

theorem routes_by_config_iff (lib : TextLibrary) (render : JsonValue → String)
  (req : Proto.ApplyConfigRequest) : RoutesByConfig lib render req ↔ Exclusive lib req := by
 constructor
 · intro h r rs rs' hr hr' ha hm'
   obtain ⟨t,ht,hf⟩ := exists_applied_match render hr ha
    fun oth ho hm => priority_le_of_routesByConfig h hr ho ha hm
   obtain ⟨t',ht',hf'⟩ := exists_applied_match render hr' hm'
    fun oth ho hm => priority_le_of_routesByConfig h hr' ho hm' hm
   have hsa := (h t t' ht ht' r).1
   rw [hf,hf'] at hsa
   have hn : rs.name = rs'.name := congrArg Route.name (Option.some.inj hsa)
   rw [Effective,hn] at hr
   exact mem_unique hr hr'
 · intro h t t' ht ht' r
   exact ⟨match_eq_of_exclusive h ht ht' r,isBestMatch_of_exclusive h ht r⟩

def overlappingRoutes (cart all : Int32) : Proto.ApplyConfigRequest where
 routes := [{ name := "cart", pathMatch := some ⟨.pathPrefix,"/cart"⟩, priority := cart },
  { name := "all", priority := all }]

/-- At equal priorities the order of the table decides; else the higher value wins. -/
theorem overlapping_routes_not_by_config :
  (∃ t t', HasApplied noRegex (fun _ => "") (overlappingRoutes 0 0) t ∧
   HasApplied noRegex (fun _ => "") (overlappingRoutes 0 0) t' ∧
   (t.router.matchRequestWithQuery noRegex { path := "/cart" }).map Route.name = some "cart" ∧
   (t'.router.matchRequestWithQuery noRegex { path := "/cart" }).map Route.name = some "all") ∧
  ∃ t, HasApplied noRegex (fun _ => "") (overlappingRoutes 1 2) t ∧
   (t.router.matchRequestWithQuery noRegex { path := "/cart" }).map Route.name = some "all" := by
 refine ⟨⟨_,_,hasApplied_of_perm (reverse_perm _),
  hasApplied_of_perm (List.Perm.refl _),?_,?_⟩,_,hasApplied_of_perm (List.Perm.refl _),?_⟩
 · decide
 · decide
 · decide

end NovaEdge.Dataplane
