import Mathlib.Data.String.Basic
import NovaEdge.RouteCompilation
import NovaEdge.RouteSelection
import NovaEdge.SnapshotBuilder

/-! What dataplanes may find for a request, from the route resources of the cluster. The snapshot,
its translation and the route table leave the order of the routes open in several places. -/
namespace NovaEdge.Dataplane
open Snapshot Translator List

def routeEntries (rt : Config.Route) : List RouteState := (rt.rules.zipIdx.flatMap fun p =>
  translateRouteRule rt p.2 p.1 (middlewareNames rt)).map routeFromProto

def EffectiveIn (routes : List Config.Route) (rs : RouteState) : Prop :=
 ((routes.flatMap routeEntries).filter fun v => v.name = rs.name).getLast? = some rs

lemma effective_translateSnapshot_iff {snap : Config.ConfigSnapshot} {rs : RouteState} :
  Effective (translateSnapshot snap) rs ↔ EffectiveIn snap.routes rs := by
 have hr : (translateSnapshot snap).routes.map routeFromProto =
   snap.routes.flatMap routeEntries := map_flatMap
 rw [Effective,EffectiveIn,hr]

section
variable {rt : Config.Route} {rs : RouteState} {rts : List Config.Route}

lemma mem_routeEntries : rs ∈ routeEntries rt ↔ ∃ i rule, rt.rules[i]? = some rule ∧
  ∃ dp ∈ translateRouteRule rt i rule (middlewareNames rt), routeFromProto dp = rs := by
 simp only [routeEntries,mem_map,mem_flatMap,Prod.exists,mem_zipIdx_iff_getElem?]
 constructor
 · rintro ⟨dp,⟨rule,i,hr,hp⟩,hrs⟩
   exact ⟨i,rule,hr,dp,hp,hrs⟩
 · rintro ⟨i,rule,hr,dp,hp,hrs⟩
   exact ⟨dp,⟨rule,i,hr,hp⟩,hrs⟩

lemma names_routeEntries (rt : Config.Route) :
  (routeEntries rt).map RouteState.name = (routeKeys rt).map encodeRoute := by
 have hn := names_translateRoutes [rt]
 simpa [translateRoutes,routeEntries,Function.comp_def,routeFromProto] using hn

section
variable (h : rs ∈ routeEntries rt)
include h

lemma exists_name_of_mem_routeEntries : ∃ i, rs.name = encodeRoute (rt.name,i) := by
 have hn : rs.name ∈ (routeEntries rt).map RouteState.name := mem_map_of_mem h
 rw [names_routeEntries] at hn
 obtain ⟨k,hk,hen⟩ := mem_map.mp hn
 obtain ⟨i,rule,-,hr⟩ := mem_routeKeys.mp hk
 obtain ⟨hf,-⟩ := mem_ruleKeys.mp hr
 exact ⟨k.2,by rw [← hen,← hf]⟩

lemma name_eq_of_mem_routeEntries {rt' : Config.Route} {rs' : RouteState}
  (h' : rs' ∈ routeEntries rt') (hn : rs.name = rs'.name) : rt.name = rt'.name := by
 obtain ⟨i,hi⟩ := exists_name_of_mem_routeEntries h
 obtain ⟨i',hi'⟩ := exists_name_of_mem_routeEntries h'
 have hk := encodeRoute_injective (hi.symm.trans (hn.trans hi'))
 exact congrArg Prod.fst hk

/-- The translation sets no priorities. -/
lemma priority_of_mem_routeEntries : rs.priority = 0 := by
 obtain ⟨i,rule,-,dp,hp,rfl⟩ := mem_routeEntries.mp h
 obtain ⟨name,m,-,rfl⟩ := mem_translateRouteRule hp
 obtain ⟨_,_,_,_,hf⟩ := translateRouteMatch_frame rt name rule (middlewareNames rt) m
 rw [hf]
 rfl

lemma hostAdmitted_of_matches {lib : TextLibrary} {r : RouteRequest}
  (hm : matchesRoute lib (compileRoute lib rs) r = true) : HostAdmitted rt r := by
 obtain ⟨i,rule,-,dp,hp,rfl⟩ := mem_routeEntries.mp h
 obtain ⟨name,m,-,rfl⟩ := mem_translateRouteRule hp
 cases m with
 | none => exact (matchesRoute_none_iff lib rt name rule _ r).mp hm
 | some m => exact ((matchesRoute_some_iff lib rt name rule _ r m).mp hm).1

end

lemma effectiveIn_of_last {pre post : List Config.Route} (hr : rs ∈ routeEntries rt)
  (hl : ∀ oth ∈ post, oth.name ≠ rt.name) : EffectiveIn (pre ++ rt::post) rs := by
 have hnd : ((routeEntries rt).map RouteState.name).Nodup := by
  rw [names_routeEntries,nodup_map_iff encodeRoute_injective]
  exact nodup_routeKeys rt
 have ha : (post.flatMap routeEntries).filter (fun v => v.name = rs.name) = [] := by
  rw [filter_eq_nil_iff]
  intro v hv hn
  obtain ⟨oth,ht,hen⟩ := mem_flatMap.mp hv
  exact hl oth ht (name_eq_of_mem_routeEntries hen hr (by simpa using hn))
 have ho : ((routeEntries rt).filter fun v => v.name = rs.name).getLast? = some rs := by
  have hm : rs ∈ (routeEntries rt).filter fun v => v.name = rs.name := by simp [hr]
  obtain ⟨v,hv⟩ := isSome_iff_exists.mp (getLast?_isSome.mpr (ne_nil_of_mem hm))
  obtain ⟨hen,hn⟩ := mem_filter.mp (mem_of_getLast? hv)
  rw [hv,inj_on_of_nodup_map hnd hen hr (by simpa using hn)]
 rw [EffectiveIn,flatMap_append,flatMap_cons,filter_append,filter_append,
  ha,append_nil,getLast?_append,ho]
 rfl

lemma effectiveIn_singleton (hr : rs ∈ routeEntries rt) : EffectiveIn [rt] rs := by
 have hl : EffectiveIn ([] ++ [rt]) rs := effectiveIn_of_last hr (by simp)
 exact hl

def ownerOf (routes : List Config.Route) (name : String) : Option Config.Route :=
 (routes.filter fun rt => (routeEntries rt).any fun rs => rs.name = name).getLast?

lemma EffectiveIn.exists_owner (h : EffectiveIn rts rs) :
  ∃ rt, ownerOf rts rs.name = some rt ∧ rs ∈ routeEntries rt := by
 induction rts using List.reverseRecOn with
 | nil => simp [EffectiveIn] at h
 | append_singleton rts rt ih =>
  rw [EffectiveIn,flatMap_append,filter_append,getLast?_append] at h
  rw [ownerOf,filter_append,getLast?_append]
  by_cases ha : (routeEntries rt).any (fun v => v.name = rs.name) = true
  · refine ⟨rt,by simp [ha],?_⟩
    obtain ⟨v,hv,hna⟩ := any_eq_true.mp ha
    have hne : (routeEntries rt).filter (fun v => v.name = rs.name) ≠ [] :=
     ne_nil_of_mem (mem_filter.mpr ⟨hv,hna⟩)
    obtain ⟨last,hl⟩ := isSome_iff_exists.mp (getLast?_isSome.mpr hne)
    have hl' : last = rs := by simpa [hl] using h
    rw [← hl']
    exact mem_of_mem_filter (mem_of_getLast? hl)
  · have hn : (routeEntries rt).filter (fun v => v.name = rs.name) = [] := by
     simpa [filter_eq_nil_iff] using ha
    simp only [flatMap_cons,flatMap_nil,append_nil,hn,getLast?_nil,Option.none_or] at h
    have hnn : [rt].filter (fun rt => (routeEntries rt).any fun v => v.name = rs.name) = [] := by
     rw [filter_cons,if_neg ha,filter_nil]
    rw [hnn]
    exact ih h

lemma ownerOf_of_last {pre post : List Config.Route} (hr : rs ∈ routeEntries rt)
  (hl : ∀ oth ∈ post, oth.name ≠ rt.name) : ownerOf (pre ++ rt::post) rs.name = some rt := by
 have ho : (routeEntries rt).any (fun v => v.name = rs.name) = true :=
  any_eq_true.mpr ⟨rs,hr,by simp⟩
 have hf : post.filter (fun rt => (routeEntries rt).any fun v => v.name = rs.name) = [] := by
  rw [filter_eq_nil_iff]
  intro oth ht ha
  obtain ⟨v,hv,hn⟩ := any_eq_true.mp ha
  exact hl oth ht (name_eq_of_mem_routeEntries hv hr (by simpa using hn))
 rw [ownerOf,filter_append,filter_cons_of_pos (by simpa using ho),hf]
 simp

lemma EffectiveIn.exists_mem (h : EffectiveIn rts rs) : ∃ rt ∈ rts, rs ∈ routeEntries rt := by
 have hm := mem_of_mem_filter (mem_of_getLast? h)
 exact mem_flatMap.mp hm

lemma EffectiveIn.priority_le {rs' : RouteState} (h : EffectiveIn rts rs)
  (h' : EffectiveIn rts rs') : rs'.priority ≤ rs.priority := by
 obtain ⟨rt,-,hn⟩ := h.exists_mem
 obtain ⟨rt',-,he'⟩ := h'.exists_mem
 rw [priority_of_mem_routeEntries hn,priority_of_mem_routeEntries he']
 exact Int32.le_refl _

end

section
variable {lib : TextLibrary} {rd : JsonValue → String} {snap : Config.ConfigSnapshot}
 {r : RouteRequest}

lemma exists_match_iff {m : Route} : (∃ t, HasApplied lib rd (translateSnapshot snap) t ∧
        t.router.matchRequestWithQuery lib r = some m) ↔
      ∃ rs, EffectiveIn snap.routes rs ∧ compileRoute lib rs = m ∧ matchesRoute lib m r = true := by
 constructor
 · intro ⟨t,ht,hm⟩
   have hme := mem_of_find?_eq_some hm
   have ha := find?_some hm
   obtain ⟨rs,hr,rfl⟩ := (ht.mem_routes m).mp hme
   exact ⟨rs,effective_translateSnapshot_iff.mp hr,rfl,ha⟩
 · intro ⟨rs,hr,hm,ha⟩
   subst hm
   refine exists_applied_match rd (effective_translateSnapshot_iff.mpr hr) ha ?_
   intro rs' hr' _
   exact hr.priority_le (effective_translateSnapshot_iff.mp hr')

lemma exists_noMatch_iff : (∃ t, HasApplied lib rd (translateSnapshot snap) t ∧
        t.router.matchRequestWithQuery lib r = none) ↔
      ∀ rs, EffectiveIn snap.routes rs → matchesRoute lib (compileRoute lib rs) r = false := by
 constructor
 · intro ⟨t,ht,hn⟩ rs hr
   have hin := (ht.mem_routes _).mpr ⟨rs,effective_translateSnapshot_iff.mpr hr,rfl⟩
   simpa using find?_eq_none.mp hn _ hin
 · intro h
   have ht : HasApplied lib rd (translateSnapshot snap) _ :=
    hasApplied_of_perm (List.Perm.refl _)
   refine ⟨_,ht,find?_eq_none.mpr ?_⟩
   intro route ho
   obtain ⟨rs,hr,rfl⟩ := (ht.mem_routes route).mp ho
   simpa using h rs (effective_translateSnapshot_iff.mp hr)

end

section
variable {keep : String → Bool} {rts : List Config.Route} {rs : RouteState}

lemma filter_routeEntries_filter {rt : Config.Route} (hr : rs ∈ routeEntries rt)
  (hk : keep rt.name = true) : ((rts.filter fun rt => keep rt.name).flatMap routeEntries).filter
    (fun v => v.name = rs.name) = (rts.flatMap routeEntries).filter fun v => v.name = rs.name := by
 induction rts with
 | nil => rfl
 | cons rt' rts ih =>
  by_cases hk' : keep rt'.name = true
  · rw [filter_cons,if_pos hk',flatMap_cons,flatMap_cons,filter_append,filter_append,ih]
  · have hn : (routeEntries rt').filter (fun v => v.name = rs.name) = [] := by
     rw [filter_eq_nil_iff]
     intro v hv ha
     have hsa := name_eq_of_mem_routeEntries hv hr (by simpa using ha)
     exact hk' (hsa ▸ hk)
    rw [filter_cons,if_neg hk',flatMap_cons,filter_append,hn,ih,nil_append]

lemma effectiveIn_filter_iff : EffectiveIn (rts.filter fun rt => keep rt.name) rs ↔
      EffectiveIn rts rs ∧ ∃ rt ∈ rts, keep rt.name = true ∧ rs ∈ routeEntries rt := by
 constructor
 · intro h
   obtain ⟨rt,ht,hr⟩ := h.exists_mem
   obtain ⟨hm,hk⟩ := mem_filter.mp ht
   rw [EffectiveIn,filter_routeEntries_filter hr hk] at h
   exact ⟨h,rt,hm,hk,hr⟩
 · intro ⟨h,rt,_,hk,hr⟩
   rw [EffectiveIn,filter_routeEntries_filter hr hk]
   exact h

end

section
variable (go : GoLibrary) (lib : TextLibrary) (render : JsonValue → String)

def Outcome (routes : List V1alpha1.ProxyRoute) (r : RouteRequest) (found : Option Route) : Prop :=
 ∃ bc snap t, bc.routes.Perm routes ∧ IsSnapshotOf go bc snap ∧
  HasApplied lib render (translateSnapshot snap) t ∧
  t.router.matchRequestWithQuery lib r = found

def IsListing (routes : List V1alpha1.ProxyRoute) (listed : List Config.Route) : Prop :=
 SortOrder.SortedBy Config.Route.name (routes.map (buildRoute go)) listed

variable {go lib render} {routes : List V1alpha1.ProxyRoute} {r : RouteRequest}

lemma isListing_of_isSnapshotOf {bc : BuildContext} {snap : Config.ConfigSnapshot}
  (hp : bc.routes.Perm routes) (h : IsSnapshotOf go bc snap) : IsListing go routes snap.routes :=
 SortOrder.SortedBy.of_perm h.routes (hp.map (buildRoute go))

lemma exists_isSnapshotOf {lis : List Config.Route} (h : IsListing go routes lis) :
  ∃ bc snap, bc.routes.Perm routes ∧ IsSnapshotOf go bc snap ∧ snap.routes = lis := by
 obtain ⟨policies,hp⟩ := SortOrder.exists_sortedBy Config.Policy.name
  (buildPolicies go { routes := routes })
 exact ⟨{ routes := routes },{ routes := lis, policies := policies },List.Perm.refl _,
  ⟨h,hp⟩,rfl⟩

lemma outcome_some_iff {m : Route} : Outcome go lib render routes r (some m) ↔
  ∃ listed, IsListing go routes listed ∧ ∃ rs, EffectiveIn listed rs ∧
   compileRoute lib rs = m ∧ matchesRoute lib m r = true := by
 constructor
 · intro ⟨bc,snap,t,hp,hn,ht,hm⟩
   exact ⟨snap.routes,isListing_of_isSnapshotOf hp hn,exists_match_iff.mp ⟨t,ht,hm⟩⟩
 · intro ⟨listed,hl,hen⟩
   obtain ⟨bc,snap,hp,hn,rfl⟩ := exists_isSnapshotOf hl
   obtain ⟨t,ht,hm⟩ := exists_match_iff.mpr hen
   exact ⟨bc,snap,t,hp,hn,ht,hm⟩

lemma outcome_none_iff : Outcome go lib render routes r none ↔
  ∃ listed, IsListing go routes listed ∧ ∀ rs, EffectiveIn listed rs →
   matchesRoute lib (compileRoute lib rs) r = false := by
 constructor
 · intro ⟨bc,snap,t,hp,hn,ht,hm⟩
   exact ⟨snap.routes,isListing_of_isSnapshotOf hp hn,exists_noMatch_iff.mp ⟨t,ht,hm⟩⟩
 · intro ⟨listed,hl,hen⟩
   obtain ⟨bc,snap,hp,hn,rfl⟩ := exists_isSnapshotOf hl
   obtain ⟨t,ht,hm⟩ := exists_noMatch_iff.mpr hen
   exact ⟨bc,snap,t,hp,hn,ht,hm⟩

variable (keep : String → Bool)

lemma map_buildRoute_filter (rts : List V1alpha1.ProxyRoute) :
  (rts.filter fun p => keep p.name).map (buildRoute go) =
   (rts.map (buildRoute go)).filter fun rt => keep rt.name := by
 rw [filter_map]
 rfl

lemma IsListing.filter {lst : List Config.Route} (h : IsListing go routes lst) :
  IsListing go (routes.filter fun p => keep p.name) (lst.filter fun rt => keep rt.name) := by
 rw [IsListing,map_buildRoute_filter]
 exact ⟨h.1.filter _,h.2.filter _⟩

lemma IsListing.exists_extension {keep : String → Bool} {kept : List Config.Route}
  (h : IsListing go (routes.filter fun p => keep p.name) kept) :
  ∃ lst, IsListing go routes lst ∧ (lst.filter fun rt => keep rt.name) = kept := by
 rw [IsListing,map_buildRoute_filter] at h
 exact h.exists_extension

/-- Routes count only if one of their rules can match. -/
theorem outcome_filter_iff
  (h : ∀ p ∈ routes, keep p.name = false → p.rules ≠ [] → ¬ HostAdmitted (buildRoute go p) r)
  (fou : Option Route) : Outcome go lib render (routes.filter fun p => keep p.name) r fou ↔
   Outcome go lib render routes r fou := by
 -- An entry that matches belongs to a route that is kept.
 have hkp : ∀ lst, IsListing go routes lst → ∀ rs, EffectiveIn lst rs →
   matchesRoute lib (compileRoute lib rs) r = true →
    EffectiveIn (lst.filter fun rt => keep rt.name) rs := by
  intro lst hl rs hr hma
  obtain ⟨rt,ht,hen⟩ := hr.exists_mem
  refine effectiveIn_filter_iff.mpr ⟨hr,rt,ht,?_,hen⟩
  by_contra hke
  obtain ⟨p,hp,rfl⟩ := mem_map.mp (hl.1.mem_iff.mp ht)
  have hrl : p.rules ≠ [] := by
   intro hn
   simp [routeEntries,buildRoute,hn] at hen
  exact h p hp (by simpa [buildRoute] using hke) hrl (hostAdmitted_of_matches hen hma)
 have ha : ∀ lst, ∀ rs, EffectiveIn (lst.filter fun rt => keep rt.name) rs →
   EffectiveIn lst rs := fun lst rs hr => (effectiveIn_filter_iff.mp hr).1
 cases fou with
 | none =>
  rw [outcome_none_iff,outcome_none_iff]
  constructor
  · intro ⟨kept,hk,ho⟩
    obtain ⟨lst,hl,rfl⟩ := hk.exists_extension
    refine ⟨lst,hl,fun rs hr => ?_⟩
    by_contra hma
    rw [Bool.not_eq_false] at hma
    simp [ho rs (hkp lst hl rs hr hma)] at hma
  · intro ⟨lst,hl,ho⟩
    exact ⟨_,hl.filter keep,fun rs hr => ho rs (ha lst rs hr)⟩
 | some m =>
  rw [outcome_some_iff,outcome_some_iff]
  constructor
  · intro ⟨kept,hk,rs,hr,hm,hma⟩
    obtain ⟨lst,hl,rfl⟩ := hk.exists_extension
    exact ⟨lst,hl,rs,ha lst rs hr,hm,hma⟩
  · intro ⟨lst,hl,rs,hr,hm,hma⟩
    exact ⟨_,hl.filter keep,rs,hkp lst hl rs hr (hm ▸ hma),hm,hma⟩

end

end NovaEdge.Dataplane
