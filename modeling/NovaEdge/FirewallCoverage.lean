import NovaEdge.PolicyEnforcement
import NovaEdge.FailClosed

/-! What the firewall of a route is shown of a request. The handler copies the path and the
headers, but neither the query string nor the body. -/
namespace NovaEdge.Dataplane
open List

open Config (Bytes)

/-- The request with its query string and its body. -/
def wholeRequest (r : HttpRequest) (body : Option Bytes) : Request :=
 { middlewareRequest r with path := r.path ++ r.query.elim "" ("?" ++ ·), body := body }

/-- The client gets the answer 403 of a policy, and nothing is forwarded. -/
def Refused (served : List Event × Reply) : Prop :=
 (∃ resp, served.2 = .policy resp ∧ resp.status = 403) ∧ ∀ e ∈ served.1, ¬ IsForward e

/-- A firewall policy that is enabled and not in detection mode. -/
structure Blocking (lib : AuthLibrary) (policies : KeyedMap String PolicyState) (name : String) :
  Prop where
 waf : ∃ policy config, policies.find? name = some policy ∧ policy.policyType = "waf" ∧
  lib.fromStr policy.configJson = some config ∧
  (config.index "enabled").asBool.getD true = true ∧ wafMode config = .block

section
variable (eng : PolicyEngines) (policies : KeyedMap String PolicyState) (req : Request)

def Forbidden (refs : List String) : Prop :=
 ∃ resp, (runPipeline eng policies refs req).2 = .respondWith resp ∧ resp.status = 403

def Passes (refs : List String) : Prop := (runPipeline eng policies refs req).2 = .continueWith req

variable {eng policies req}

lemma forbidden_append_iff (bef aft : List String) :
  Forbidden eng policies req (bef ++ aft) ↔ Forbidden eng policies req bef ∨
   Passes eng policies req bef ∧ Forbidden eng policies req aft := by
 induction bef with
 | nil => simp [Forbidden,Passes,runPipeline]
 | cons first rest ih =>
  unfold Forbidden Passes at *
  rcases runPipeline_cases eng policies first req with hn | ⟨p,resp,hp,hr⟩ | ⟨p,hp,hr⟩
  · simpa only [cons_append,runPipeline_missing eng hn] using ih
  · simp [runPipeline_answered eng hp hr]
  · simpa only [cons_append,runPipeline_passed eng hp hr] using ih

end

lemma attemptLoop_ne_policy (w : World) (a : Attempts) (resp : Response) (rem att : ℕ)
  (fin : FinalResponse) (got : Bool) :
  (attemptLoop w a rem att fin got).2 ≠ .error (.policy resp) := by
 induction rem generalizing att fin got with
 | zero => simp [attemptLoop]
 | succ rem ih =>
  unfold attemptLoop
  dsimp only
  repeat' split
  all_goals first | exact ih _ _ _ | simp

section
variable {h : ProxyHandler} {w : World} {r : HttpRequest} {rt : Route} {resp : Response}

lemma forwardUpstream_ne_policy {name : String} :
  (forwardUpstream h w r rt name).2 ≠ .policy resp := by
 unfold forwardUpstream
 split
 · simp
 · dsimp only
   split_ifs
   · simp
   · split
     · rename_i evs reply hl
       intro he
       exact attemptLoop_ne_policy w _ resp _ _ _ _ (by rw [hl]; exact congrArg Except.error he)
     · unfold replyUpstream
       split_ifs <;> simp

lemma serveWebsocket_ne_policy : (serveWebsocket h w r rt).2 ≠ .policy resp := by
 unfold serveWebsocket handleWebsocketUpgrade
 dsimp only
 repeat' split
 all_goals simp

lemma refused_serveRoute_iff (eng : PolicyEngines) : Refused (serveRoute eng h w r rt) ↔
  rt.backendRefs ≠ [] ∧
   Forbidden eng h.config.policies (middlewareRequest r) rt.middlewareRefs := by
 cases hs : rt.selectBackend.1 with
 | none => simp [Refused,serveRoute,hs,selectBackend_eq_none_iff.mp hs]
 | some name =>
  have hn : rt.backendRefs ≠ [] := by
   intro hn
   rw [selectBackend_eq_none_iff.mpr hn] at hs
   cases hs
  rw [and_iff_right hn]
  by_cases he : rt.middlewareRefs = []
  · refine iff_of_false ?_ (by simp [Forbidden,he,runPipeline])
    rintro ⟨⟨resp,hp,-⟩,-⟩
    simp only [serveRoute,hs,he,if_true] at hp
    exact forwardUpstream_ne_policy hp
  · cases hp : (runPipeline eng h.config.policies rt.middlewareRefs (middlewareRequest r)).2 with
    | respondWith resp =>
     have hv : serveRoute eng h w r rt = (chainEvents eng h r rt,.policy resp) := by
      simp [serveRoute,hs,he,hp,chainEvents]
     simp only [Refused,Forbidden,hv,hp,Reply.policy.injEq, MiddlewareResult.respondWith.injEq]
     exact and_iff_left (chainEvents_not_forward eng)
    | continueWith req =>
     refine iff_of_false ?_ (by simp [Forbidden,hp])
     rintro ⟨⟨resp,hq,-⟩,-⟩
     simp only [serveRoute,hs,he,if_false,hp] at hq
     exact forwardUpstream_ne_policy hq

end

section
variable {lib : AuthLibrary} {rl cors : String → JsonValue → Request → Option Response}
 {pols : KeyedMap String PolicyState} {name : String}

lemma Blocking.runPipeline_eq (h : Blocking lib pols name) (req : Request) :
  (runPipeline (chainEngines lib rl cors) pols [name] req).2 =
   if wafFind lib defaultRules req = none then .continueWith req
   else .respondWith (Response.withStatus 403 "Forbidden") := by
 obtain ⟨pol,cfg,hp,ht,hc,he,hm⟩ := h
 have hr : runPolicy (chainEngines lib rl cors) name pol req =
   .ofAnswer req (wafEngine lib name cfg req) := by
  rw [runPolicy,ht]
  simp only [runWaf,runEngine,chainEngines,hc]
 rw [wafEngine,if_neg (by simp [he]),hm] at hr
 cases hf : wafFind lib defaultRules req with
 | none =>
  rw [hf] at hr
  rw [runPipeline_passed _ hp hr,if_pos rfl,runPipeline]
 | some rule =>
  rw [hf] at hr
  rw [runPipeline_answered _ hp hr,if_neg (by simp)]

lemma Blocking.forbidden_iff (h : Blocking lib pols name) (req : Request) (pre post : List String) :
  Forbidden (chainEngines lib rl cors) pols req (pre ++ name::post) ↔
   Forbidden (chainEngines lib rl cors) pols req pre ∨
    Passes (chainEngines lib rl cors) pols req pre ∧ (wafFind lib defaultRules req ≠ none ∨
      Forbidden (chainEngines lib rl cors) pols req post) := by
 have hr := @Blocking.runPipeline_eq lib rl cors pols name h req
 rw [← singleton_append,forbidden_append_iff,forbidden_append_iff [name] post]
 refine or_congr_right (and_congr_right fun _ => ?_)
 by_cases hf : wafFind lib defaultRules req = none
 · simp [Forbidden,Passes,hr,hf]
 · simp [Forbidden,Passes,hr,hf,Response.withStatus]

end

lemma refused_serve_iff {text : TextLibrary} {eng : PolicyEngines} {ent : Entry}
  {h : ProxyHandler} {w : World} {r : HttpRequest} {rt : Route}
  (hm : Event.matched rt ∈ (serve text eng ent h w r).1) : Refused (serve text eng ent h w r) ↔
   ¬ (ent = .http1 ∧ isWebsocket r.headers) ∧ rt.backendRefs ≠ [] ∧
    Forbidden eng h.config.policies (middlewareRequest r) rt.middlewareRefs := by
 have hf : ∀ out : List Event × Reply, Refused (.matched rt::out.1,out.2) ↔ Refused out := by
  intro out
  have hn : ¬ IsForward (.matched rt) := by rintro ⟨_,_,_,he⟩; cases he
  simp [Refused,hn]
 rw [serve_of_matched hm,hf,serveMatched]
 by_cases hw : ent = .http1 ∧ isWebsocket r.headers
 · rw [if_pos hw]
   refine iff_of_false ?_ fun hc => hc.1 hw
   rintro ⟨⟨resp,hp,-⟩,-⟩
   exact serveWebsocket_ne_policy hp
 · rw [if_neg hw,refused_serveRoute_iff,and_iff_right hw]

/-- A request with something for the firewall is refused exactly if it is no upgrade, its route has
a backend, and the chain answers 403 to the path and the headers alone. -/
theorem firewall_refuses_iff (text : TextLibrary) (lib : AuthLibrary)
  (rateLimit cors : String → JsonValue → Request → Option Response) (entry : Entry)
  (h : ProxyHandler) (w : World) (r : HttpRequest) {route : Route} {before after : List String}
  {name : String}
  (hm : Event.matched route ∈ (serve text (chainEngines lib rateLimit cors) entry h w r).1)
  (hr : route.middlewareRefs = before ++ name::after) (hb : Blocking lib h.config.policies name) :
  (wafFind lib defaultRules (wholeRequest r w.body) ≠ none →
    Refused (serve text (chainEngines lib rateLimit cors) entry h w r)) ↔
   (wafFind lib defaultRules (wholeRequest r w.body) ≠ none →
    ¬ (entry = .http1 ∧ isWebsocket r.headers) ∧ route.backendRefs ≠ [] ∧
     (Forbidden (chainEngines lib rateLimit cors) h.config.policies (middlewareRequest r) before ∨
      Passes (chainEngines lib rateLimit cors) h.config.policies (middlewareRequest r) before ∧
       (wafFind lib defaultRules (middlewareRequest r) ≠ none ∨
        Forbidden (chainEngines lib rateLimit cors) h.config.policies (middlewareRequest r)
         after))) := by
 rw [refused_serve_iff hm,hr,hb.forbidden_iff]

/-- Patterns that match a climbing path and a script tag. -/
def attackLibrary : AuthLibrary :=
 { fixedLibrary "\x7b\x7d" (.obj []) with
   regexSet := fun _ => some fun t => if t ∈ ["/../etc","q=<script>"] then some 0 else none
   regexSet_traversal := by
    rintro set hs
    cases hs
    rfl }

abbrev attackEngines : PolicyEngines := chainEngines attackLibrary (fun _ _ _ => none) fun _ _ _ => none

def firewallHandler : ProxyHandler :=
 { guardedHandler with
   config := { guardedHandler.config with
    policies := (∅ : KeyedMap String PolicyState).set "guard" ⟨"guard","waf","","\x7b\x7d"⟩ } }

lemma blocking_guard : Blocking attackLibrary firewallHandler.config.policies "guard" :=
 ⟨_,_,rfl,rfl,rfl,rfl,rfl⟩

lemma matched_guarded (r : HttpRequest) (hw : isWebsocket r.headers = false)
  (hm : r.method = "GET") :
  Event.matched guardedRoute ∈ (serve noRegex attackEngines .http1 firewallHandler openWorld r).1 := by
 have ha : firewallHandler.router.matchRequestWithQuery noRegex (routeRequest r) =
   some guardedRoute := by
  simp [firewallHandler,guardedHandler,Router.matchRequestWithQuery,matchesRoute_guarded]
 have hz : firewallHandler.maxActiveRequests = 0 := rfl
 simp [serve,handleRequest,hw,hm,handleRequestInner,withRoute,ha,hz]

lemma refs_guarded : guardedRoute.middlewareRefs = [] ++ "guard" :: [] := rfl

theorem climbing_path_refused :
  Refused (serve noRegex attackEngines .http1 firewallHandler openWorld { path := "/../etc" }) :=
 (firewall_refuses_iff noRegex attackLibrary (fun _ _ _ => none) (fun _ _ _ => none) .http1
  firewallHandler openWorld { path := "/../etc" } (matched_guarded _ rfl rfl)
  refs_guarded blocking_guard).mpr (fun _ => ⟨by decide,by simp [guardedRoute,defaultRoute],
   .inr ⟨rfl,.inl (isSome_iff_ne_none.mp (by decide +kernel))⟩⟩)
  (isSome_iff_ne_none.mp (by decide +kernel))

/-- A script tag in the query string is something for the firewall, and it is not refused. -/
theorem script_in_query_not_refused : Event.matched guardedRoute ∈
        (serve noRegex attackEngines .http1 firewallHandler openWorld { query := some "q=<script>" }).1 ∧
      guardedRoute.middlewareRefs = ["guard"] ∧
      Blocking attackLibrary firewallHandler.config.policies "guard" ∧
      wafFind attackLibrary defaultRules
       (wholeRequest { query := some "q=<script>" } openWorld.body) ≠ none ∧
      ¬ Refused (serve noRegex attackEngines .http1 firewallHandler openWorld
       { query := some "q=<script>" }) := by
 have hm := matched_guarded { query := some "q=<script>" } rfl rfl
 have hn : wafFind attackLibrary defaultRules
   (middlewareRequest { query := some "q=<script>" }) = none :=
  isNone_iff_eq_none.mp (by decide +kernel)
 refine ⟨hm,rfl,blocking_guard,isSome_iff_ne_none.mp (by decide +kernel),?_⟩
 rw [refused_serve_iff hm,refs_guarded,blocking_guard.forbidden_iff,hn]
 simp [Forbidden,runPipeline]

end NovaEdge.Dataplane
