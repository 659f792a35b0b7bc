import NovaEdge.DataplaneRouter
import NovaEdge.TranslatorNames

/-! The meaning of a route rule as the control plane states it, and the routes that translation,
conversion and router rebuild make of it. -/
namespace NovaEdge.Dataplane
open Translator List
open Config (RouteMatch RouteRule)

section
variable (lib : TextLibrary)

/-- A path of unspecified type is an exact one; a regular expression that does not compile holds
of nothing. -/
def PathHolds (p : Config.PathMatch) (path : String) : Prop :=
 match p.type with
 | .exact | .unspecified => p.value = path
 | .pathPrefix => startsWith path p.value
 | .regularExpression => ∃ isMatch, lib.regexNew p.value = some isMatch ∧ isMatch path

def HeaderHolds (h : Config.HeaderMatch) (headers : List (String × String)) : Prop :=
 ∃ nv ∈ headers, eqIgnoreAsciiCase nv.1 h.name ∧
  match h.type with
  | .exact | .unspecified => h.value = nv.2
  | .regularExpression => ∃ isMatch, lib.regexNew h.value = some isMatch ∧ isMatch nv.2

def MethodHolds (m : RouteMatch) (method : String) : Prop :=
 m.method = "" ∨ eqIgnoreAsciiCase m.method method

structure Satisfies (m : RouteMatch) (r : RouteRequest) : Prop where
 path : ∀ p, m.path = some p → PathHolds lib p r.path
 headers : ∀ h ∈ m.headers, HeaderHolds lib h r.headers
 method : MethodHolds m r.method

def HostAdmitted (rt : Config.Route) (r : RouteRequest) : Prop :=
 rt.hostnames = [] ∨ ∃ h ∈ rt.hostnames, matchHost (compileHost h) r.host

def RuleAccepts (rt : Config.Route) (rule : RouteRule) (r : RouteRequest) : Prop :=
 HostAdmitted rt r ∧ (rule.routeMatches = [] ∨ ∃ m ∈ rule.routeMatches, Satisfies lib m r)

def ruleRouter (rt : Config.Route) (ruleIdx : ℕ) (rule : RouteRule) (refs : List String) :
  Router :=
 rebuildRouter lib {}
  (RuntimeConfig.applyFull {} 0 "" [] ((translateRouteRule rt ruleIdx rule refs).map
   routeFromProto) [] [])

def RuleMatched (rt : Config.Route) (ruleIdx : ℕ) (rule : RouteRule) (refs : List String)
  (r : RouteRequest) : Prop :=
 ((ruleRouter lib rt ruleIdx rule refs).matchRequestWithQuery lib r).isSome

/-- One with an empty value, or a regular expression that does not compile. -/
def PathDropped (p : Config.PathMatch) : Prop :=
 p.value = "" ∨ p.type = .regularExpression ∧ lib.regexNew p.value = none

/-- Header predicates never reach the compiled route. -/
structure KeptHolds (m : RouteMatch) (r : RouteRequest) : Prop where
 path : ∀ p, m.path = some p → PathDropped lib p ∨ PathHolds lib p r.path
 method : MethodHolds m r.method

lemma Satisfies.kept {m : RouteMatch} {r : RouteRequest} (h : Satisfies lib m r) :
  KeptHolds lib m r where
 path := fun p hp => Or.inr (h.path p hp)
 method := h.method

end

attribute [local simp] routeFromProto translatePathMatchType translatePathMatch compilePaths
 PathDropped pathFields

section
variable (lib : TextLibrary) (rt : Config.Route) (name : String) (rule : RouteRule)
 (refs : List String) (r : RouteRequest)

lemma hostnames_admit_iff : (((rt.hostnames.map compileHost).isEmpty ||
      (rt.hostnames.map compileHost).any fun h => matchHost h r.host) = true) ↔
      HostAdmitted rt r := by
 simp [HostAdmitted]

def pathsAccept (rs : RouteState) (path : String) : Bool :=
 (compilePaths lib rs).isEmpty || (compilePaths lib rs).any fun p => matchPath p path

lemma pathsAccept_iff (m : RouteMatch) :
  pathsAccept lib (routeFromProto (translateRouteMatch rt name rule refs (some m))) r.path ↔
   ∀ p, m.path = some p → PathDropped lib p ∨ PathHolds lib p r.path := by
 cases hp : m.path with
 | none => simp [pathsAccept,hp]
 | some p =>
  obtain ⟨type,value⟩ := p
  by_cases hv : value = ""
  · -- An empty value leaves every path field empty.
    cases type <;> simp [pathsAccept,hp,hv]
  · cases type with
    | unspecified | exact | pathPrefix => simp [pathsAccept,hp,PathHolds,hv,matchPath]
    | regularExpression =>
     cases hr : lib.regexNew value with
     | none => simp [pathsAccept,hp,hv,hr]
     | some isMatch => simp [pathsAccept,hp,PathHolds,hv,hr,matchPath]

lemma methods_accept_iff (m : RouteMatch) :
  ((((if m.method = "" then [] else [m.method] : List String)).isEmpty ||
   (if m.method = "" then [] else [m.method] : List String).any
    fun s => eqIgnoreAsciiCase s r.method) = true) ↔ MethodHolds m r.method := by
 by_cases h : m.method = "" <;> simp [MethodHolds,h]

/-- A compiled match asks for the kept predicates and nothing else. -/
theorem matchesRoute_some_iff (m : RouteMatch) : matchesRoute lib
        (compileRoute lib (routeFromProto (translateRouteMatch rt name rule refs (some m)))) r ↔
      HostAdmitted rt r ∧ KeptHolds lib m r := by
 have ht := pathsAccept_iff lib rt name rule refs r m
 have hme := methods_accept_iff r m
 have ho := hostnames_admit_iff rt r
 simp only [matchesRoute,compileRoute,Bool.and_eq_true,all_nil,and_true]
 constructor
 · intro ⟨⟨hh,hp⟩,hm⟩
   refine ⟨ho.mp ?_,ht.mp hp,hme.mp ?_⟩
   · simpa using hh
   · simpa using hm
 · intro ⟨hh,hk⟩
   refine ⟨⟨?_,ht.mpr hk.path⟩,?_⟩
   · simpa using ho.mpr hh
   · simpa using hme.mpr hk.method

/-- A rule without matches compiles to its host names. -/
theorem matchesRoute_none_iff : matchesRoute lib
        (compileRoute lib (routeFromProto (translateRouteMatch rt name rule refs none))) r ↔
      HostAdmitted rt r := by
 have hh := hostnames_admit_iff rt r
 simp only [matchesRoute,compileRoute,routeFromProto,translateRouteMatch_hostnames,
  translateRouteMatch_pathMatch,translateRouteMatch_methods,compilePaths,pathFields,
  Option.bind_none,Option.map_none,Option.getD_none,if_true,append_nil,
  isEmpty_nil,Bool.true_or,Bool.and_true,all_nil]
 exact hh

end

attribute [local simp] matchEntries

section
variable (lib : TextLibrary) (rt : Config.Route) (ruleIdx : ℕ) (rule : RouteRule)
 (refs : List String) (r : RouteRequest)

lemma ruleMatched_iff_exists : RuleMatched lib rt ruleIdx rule refs r ↔
      ∃ dp ∈ translateRouteRule rt ruleIdx rule refs,
       matchesRoute lib (compileRoute lib (routeFromProto dp)) r := by
 have hn : (((translateRouteRule rt ruleIdx rule refs).map routeFromProto).map
   (·.name)).Nodup := by
  rw [map_map]
  exact nodup_names_translateRouteRule rt ruleIdx rule refs
 have hm : ∀ rs, rs ∈ (RuntimeConfig.applyFull {} 0 "" []
   ((translateRouteRule rt ruleIdx rule refs).map routeFromProto) [] []).routes.values ↔
    rs ∈ (translateRouteRule rt ruleIdx rule refs).map routeFromProto := by
  intro rs
  simpa [RuntimeConfig.applyFull] using
   KeyedMap.mem_values_replaceAll_of_nodup (·.name) (fun _ r => r) ∅ _ hn (v := rs)
 rw [RuleMatched,isSome_matchRequestWithQuery_iff]
 simp only [ruleRouter,mem_rebuildRouter,hm,mem_map]
 constructor
 · intro ⟨route,⟨rs,⟨dp,hp,hr⟩,ho⟩,ha⟩
   exact ⟨dp,hp,by rw [hr,ho]; exact ha⟩
 · intro ⟨dp,hp,ha⟩
   exact ⟨_,⟨_,⟨dp,hp,rfl⟩,rfl⟩,ha⟩

lemma exists_mem_translateRouteRule {m : Option RouteMatch} (h : m ∈ matchEntries rule) :
  ∃ name, translateRouteMatch rt name rule refs m ∈ translateRouteRule rt ruleIdx rule refs := by
 obtain ⟨j,hj⟩ := mem_iff_getElem?.mp h
 have hm : (m,j) ∈ (matchEntries rule).zipIdx := mem_zipIdx_iff_getElem?.mpr hj
 exact ⟨_,mem_map_of_mem hm⟩

theorem ruleMatched_iff : RuleMatched lib rt ruleIdx rule refs r ↔
      HostAdmitted rt r ∧ (rule.routeMatches = [] ∨ ∃ m ∈ rule.routeMatches, KeptHolds lib m r) := by
 rw [ruleMatched_iff_exists]
 constructor
 · intro ⟨dp,hdp,ha⟩
   obtain ⟨⟨m,j⟩,hp,rfl⟩ := mem_map.mp hdp
   have hme : m ∈ matchEntries rule := fst_mem_of_mem_zipIdx hp
   cases m with
   | none =>
    have hn : rule.routeMatches = [] := by
     by_contra hne
     simp [hne] at hme
    exact ⟨(matchesRoute_none_iff lib rt _ rule refs r).mp ha,Or.inl hn⟩
   | some m =>
    have hm : m ∈ rule.routeMatches := by
     by_cases hn : rule.routeMatches = []
     · simp [hn] at hme
     · simpa [hn] using hme
    obtain ⟨hh,hk⟩ := (matchesRoute_some_iff lib rt _ rule refs r m).mp ha
    exact ⟨hh,Or.inr ⟨m,hm,hk⟩⟩
 · intro ⟨hh,hc⟩
   by_cases hn : rule.routeMatches = []
   · have hme : none ∈ matchEntries rule := by simp [hn]
     obtain ⟨name,hdp⟩ := exists_mem_translateRouteRule rt ruleIdx rule refs hme
     exact ⟨_,hdp,(matchesRoute_none_iff lib rt name rule refs r).mpr hh⟩
   · obtain ⟨m,hm,hk⟩ := hc.resolve_left hn
     have hme : some m ∈ matchEntries rule := by simpa [hn] using hm
     obtain ⟨name,hdp⟩ := exists_mem_translateRouteRule rt ruleIdx rule refs hme
     exact ⟨_,hdp,(matchesRoute_some_iff lib rt name rule refs r m).mpr ⟨hh,hk⟩⟩

/-- Compilation only ever widens a rule. -/
theorem ruleMatched_of_accepts (h : RuleAccepts lib rt rule r) :
  RuleMatched lib rt ruleIdx rule refs r := by
 rw [ruleMatched_iff]
 obtain ⟨hh,hn | ⟨m,hm,hs⟩⟩ := h
 · exact ⟨hh,Or.inl hn⟩
 · exact ⟨hh,Or.inr ⟨m,hm,hs.kept⟩⟩

def Covered : Prop := HostAdmitted rt r → ∀ m ∈ rule.routeMatches, KeptHolds lib m r →
  ∃ m' ∈ rule.routeMatches, Satisfies lib m' r

/-- A rule keeps its meaning on a request exactly if no predicate that is dropped on the way
decides about it. -/
theorem route_compilation_exact_iff :
  (RuleMatched lib rt ruleIdx rule refs r ↔ RuleAccepts lib rt rule r) ↔ Covered lib rt rule r := by
 constructor
 · intro h hh m hm hk
   have ha : RuleMatched lib rt ruleIdx rule refs r :=
    (ruleMatched_iff lib rt ruleIdx rule refs r).mpr ⟨hh,Or.inr ⟨m,hm,hk⟩⟩
   obtain ⟨-,hn | hsa⟩ := h.mp ha
   · rw [hn] at hm
     simp at hm
   · exact hsa
 · intro h
   constructor
   · intro ha
     obtain ⟨hh,hn | ⟨m,hm,hk⟩⟩ := (ruleMatched_iff lib rt ruleIdx rule refs r).mp ha
     · exact ⟨hh,Or.inl hn⟩
     · exact ⟨hh,Or.inr (h hh m hm hk)⟩
   · exact ruleMatched_of_accepts lib rt ruleIdx rule refs r

end

def shopRoute : Config.Route := { name := "shop", ns := "blue" }

def canaryMatch : RouteMatch :=
 { headers := [{ type := .exact, name := "x-canary", value := "yes" }] }

def unparsableMatch : RouteMatch :=
 { path := some { type := .regularExpression, value := "(" } }

theorem dropped_predicates_match :
  (RuleMatched noRegex shopRoute 0 { routeMatches := [canaryMatch] } [] {} ∧
   ¬ RuleAccepts noRegex shopRoute { routeMatches := [canaryMatch] } {}) ∧
  (RuleMatched noRegex shopRoute 0 { routeMatches := [unparsableMatch] } [] {} ∧
   ¬ RuleAccepts noRegex shopRoute { routeMatches := [unparsableMatch] } {}) := by
 have hh : HostAdmitted shopRoute {} := Or.inl rfl
 have hc : KeptHolds noRegex canaryMatch {} := ⟨by simp [canaryMatch],Or.inl rfl⟩
 have hr : KeptHolds noRegex unparsableMatch {} := ⟨by simp [unparsableMatch,noRegex],Or.inl rfl⟩
 refine ⟨⟨?_,?_⟩,?_,?_⟩
 · exact (ruleMatched_iff ..).mpr ⟨hh,Or.inr ⟨_,mem_cons_self,hc⟩⟩
 · intro ⟨_,ha⟩
   obtain ⟨m,hm,hs⟩ := ha.resolve_left (by simp)
   have hq : m = canaryMatch := by simpa using hm
   subst hq
   obtain ⟨nv,hn,-⟩ := hs.headers _ mem_cons_self
   simp at hn
 · exact (ruleMatched_iff ..).mpr ⟨hh,Or.inr ⟨_,mem_cons_self,hr⟩⟩
 · intro ⟨_,ha⟩
   obtain ⟨m,hm,hs⟩ := ha.resolve_left (by simp)
   have hq : m = unparsableMatch := by simpa using hm
   subst hq
   obtain ⟨isMatch,hre,-⟩ := hs.path _ rfl
   simp [noRegex] at hre

end NovaEdge.Dataplane
