import NovaEdge.ProxyHandler

/-! Mediation by the middleware chain: which forwards of the proxy handler a passed run of the
route's chain precedes. -/
namespace NovaEdge.Dataplane
open List

def Passed (route : Route) (before : List Event) : Prop := route.middlewareRefs = [] ∨
  ∃ req, Event.pipeline route.middlewareRefs (.continueWith req) ∈ before

def Mediated (events : List Event) : Prop := ∀ before after route kind target,
  events = before ++ Event.forward route kind target::after → Passed route before

def IsForwardOf (route : Route) (e : Event) : Prop := ∃ kind target, e = .forward route kind target

def IsForward (e : Event) : Prop := ∃ route, IsForwardOf route e

variable {route : Route}

lemma IsForwardOf.route_eq {rt' : Route} {kind : ForwardKind} {tgt : SocketAddr}
  (h : IsForwardOf route (.forward rt' kind tgt)) : rt' = route := by
 obtain ⟨kind',target',hq⟩ := h
 exact (Event.forward.inj hq).1

lemma Passed.mono {bef bef' : List Event} (h : Passed route bef)
  (hu : bef ⊆ bef') : Passed route bef' := by
 rcases h with hn | ⟨req,hm⟩
 · exact Or.inl hn
 · exact Or.inr ⟨req,hu hm⟩

lemma Mediated.cons {e : Event} {evs : List Event} (he : ¬ IsForward e)
  (h : Mediated evs) : Mediated (e::evs) := by
 intro before after route kind target hq
 cases before with
 | nil =>
  have hh : e = .forward route kind target := (List.cons.inj hq).1
  exact absurd ⟨route,kind,target,hh⟩ he
 | cons b before =>
  have ht := (List.cons.inj hq).2
  exact (h before after route kind target ht).mono (subset_cons_self b before)

lemma mediated_nil : Mediated [] := by
 intro pre post route kind tgt hq
 simp at hq

lemma mediated_forwards {rt : Route} {ran evs : List Event} (hr : Passed rt ran)
  (hn : ∀ e ∈ ran, ¬ IsForward e) (hv : ∀ e ∈ evs, IsForwardOf rt e) : Mediated (ran ++ evs) := by
 intro before after route' kind target hq
 rcases append_eq_append_iff.mp hq with ⟨mid,hb,hee⟩ | ⟨mid,hrs,hf⟩
 · have hme : Event.forward route' kind target ∈ evs := by simp [hee]
   rw [hb,(hv _ hme).route_eq]
   exact hr.mono (subset_append_left ran mid)
 · cases mid with
   | nil =>
    have hme : Event.forward route' kind target ∈ evs := by
     rw [nil_append] at hf
     simp [← hf]
    rw [append_nil] at hrs
    rw [← hrs,(hv _ hme).route_eq]
    exact hr
   | cons m mid =>
    have hm : Event.forward route' kind target = m := (List.cons.inj hf).1
    have hme : m ∈ ran := by simp [hrs]
    exact absurd ⟨route',kind,target,hm.symm⟩ (hn m hme)

variable {w : World} {e : Event}

lemma mem_sentEvents {a : Attempts} {att bi : ℕ} {tgt : SocketAddr}
  (h : e ∈ sentEvents w a att bi tgt) : IsForwardOf a.route e := by
 rcases mem_cons.mp h with rfl | hh
 · exact ⟨_,_,rfl⟩
 · unfold hedgeEvents at hh
   split_ifs at hh
   · obtain ⟨b,-,rfl⟩ : ∃ b, a.backends[(bi+1) % a.backends.length]? = some b ∧
       Event.forward a.route .hedge b.socket = e := by simpa using hh
     exact ⟨_,_,rfl⟩
   · simp at hh

/-- What the loop puts on the wire are the requests of its attempts, and there are none without a
candidate to select. -/
lemma attemptLoop_sent (w : World) (a : Attempts) (rem att : ℕ) (fin : FinalResponse) (gr : Bool) :
  ∀ e ∈ (attemptLoop w a rem att fin gr).1,
   a.effective ≠ [] ∧ ∃ n idx target, e ∈ sentEvents w a n idx target := by
 induction rem generalizing att fin gr with
 | zero =>
  intro e he
  simp [attemptLoop] at he
 | succ rem ih =>
  intro e he
  simp only [attemptLoop] at he
  split at he
  · simp at he
  · split at he
    · split at he <;> simp at he
    · rename_i idx _
      have hn : a.effective ≠ [] := ne_nil_of_length_pos (Fin.pos idx)
      have hse : ∀ {n i target}, e ∈ sentEvents w a n i target →
        a.effective ≠ [] ∧ ∃ n idx target, e ∈ sentEvents w a n idx target :=
       fun hs => ⟨hn,_,_,_,hs⟩
      have hl : ∀ {n i target m fin gr}, e ∈ sentEvents w a n i target ++
            (attemptLoop w a rem m fin gr).1 →
        a.effective ≠ [] ∧ ∃ n idx target, e ∈ sentEvents w a n idx target := by
       intro n i target m fin gr hm
       rcases mem_append.mp hm with hs | hr
       · exact hse hs
       · exact ih _ _ _ e hr
      -- The branches of one attempt: nothing sent, the attempt sent, or the attempt and the rest.
      split at he
      · split at he
        · exact ih _ _ _ e he
        · split at he <;> simp at he
      · split at he
        · simp at he
        · split at he
          · split at he
            · exact hl he
            · split at he <;> exact hse he
          · split at he
            · exact hl he
            · exact hse he
          · split at he
            · exact hl he
            · exact hse he

lemma attemptLoop_events (w : World) (a : Attempts) (rem att : ℕ)
  (fin : FinalResponse) (gr : Bool) :
  ∀ e ∈ (attemptLoop w a rem att fin gr).1, IsForwardOf a.route e := by
 intro e he
 obtain ⟨-,_,_,_,hs⟩ := attemptLoop_sent w a rem att fin gr e he
 exact mem_sentEvents hs

variable {h : ProxyHandler}

lemma mirrorEvents_forward (he : e ∈ mirrorEvents h w route) : IsForwardOf route e := by
 unfold mirrorEvents at he
 split at he
 · simp at he
 · split_ifs at he
   · split at he
     · simp at he
     · rename_i cl _
       obtain ⟨ep,-,rfl⟩ : ∃ ep, (cl.endpoints.find? fun e => e.healthy && !e.draining) =
         some ep ∧ Event.forward route .mirror (ep.address,ep.port.toNat) = e := by
        simpa using he
       exact ⟨_,_,rfl⟩
   · simp at he

lemma replyUpstream_events {fin : FinalResponse} (he : e ∈ (replyUpstream h w route fin).1) :
  IsForwardOf route e := by
 unfold replyUpstream at he
 split_ifs at he
 · simp at he
 · exact mirrorEvents_forward he

lemma forwardUpstream_events {r : HttpRequest} {cn : String}
  (he : e ∈ (forwardUpstream h w r route cn).1) : IsForwardOf route e := by
 unfold forwardUpstream at he
 split at he
 · simp at he
 · simp only at he
   split_ifs at he
   · simp at he
   · split at he
     · rename_i evs reply hl
       have hm := attemptLoop_events w _ _ _ _ _ e (by rw [hl]; exact he)
       exact hm
     · rename_i evs fin hl
       rcases mem_append.mp he with hv | hr
       · have hm := attemptLoop_events w _ _ _ _ _ e (by rw [hl]; exact hv)
         exact hm
       · exact replyUpstream_events hr

section
variable (lib : TextLibrary) (eng : PolicyEngines)

def chainEvents (h : ProxyHandler) (r : HttpRequest) (route : Route) : List Event :=
 (runPipeline eng h.config.policies route.middlewareRefs (middlewareRequest r)).1.map
  Event.evaluated ++ [.pipeline route.middlewareRefs
   (runPipeline eng h.config.policies route.middlewareRefs (middlewareRequest r)).2]

lemma serveRoute_cases (h : ProxyHandler) (w : World) (r : HttpRequest) (rt : Route) :
  (rt.selectBackend.1 = none ∧ (serveRoute eng h w r rt).1 = []) ∨
  ∃ name, rt.selectBackend.1 = some name ∧ ((rt.middlewareRefs = [] ∧
        (serveRoute eng h w r rt).1 = (forwardUpstream h w r rt name).1) ∨
    (∃ resp, (runPipeline eng h.config.policies rt.middlewareRefs
      (middlewareRequest r)).2 = .respondWith resp ∧
     (serveRoute eng h w r rt).1 = chainEvents eng h r rt) ∨
    ∃ req, (runPipeline eng h.config.policies rt.middlewareRefs
      (middlewareRequest r)).2 = .continueWith req ∧ (serveRoute eng h w r rt).1 =
      chainEvents eng h r rt ++ (forwardUpstream h w r rt name).1) := by
 cases hb : rt.selectBackend.1 with
 | none => exact Or.inl ⟨rfl,by simp [serveRoute,hb]⟩
 | some name =>
  refine Or.inr ⟨name,rfl,?_⟩
  by_cases hre : rt.middlewareRefs = []
  · exact Or.inl ⟨hre,by simp [serveRoute,hb,hre]⟩
  · cases hr : (runPipeline eng h.config.policies rt.middlewareRefs
      (middlewareRequest r)).2 with
    | respondWith resp =>
     exact Or.inr (Or.inl ⟨resp,rfl,by simp [serveRoute,chainEvents,hb,hre,hr]⟩)
    | continueWith req =>
     exact Or.inr (Or.inr ⟨req,rfl,by simp [serveRoute,chainEvents,hb,hre,hr]⟩)

variable {r : HttpRequest}

lemma mem_chainEvents {h : ProxyHandler} {rt : Route} {e : Event}
  (he : e ∈ chainEvents eng h r rt) :
  (∃ policy, e = .evaluated policy) ∨ ∃ refs result, e = .pipeline refs result := by
 rcases mem_append.mp he with hv | hp
 · obtain ⟨policy,-,rfl⟩ := mem_map.mp hv
   exact Or.inl ⟨policy,rfl⟩
 · exact Or.inr ⟨_,_,mem_singleton.mp hp⟩

lemma chainEvents_not_forward {h : ProxyHandler} {rt : Route} :
  ∀ e ∈ chainEvents eng h r rt, ¬ IsForward e := by
 intro e he ⟨_,_,_,hf⟩
 rcases mem_chainEvents eng he with ⟨_,hq⟩ | ⟨_,_,hq⟩ <;> simp [hf] at hq

lemma serveRoute_mediated (h : ProxyHandler) (w : World) (r : HttpRequest) (rt : Route) :
  Mediated (serveRoute eng h w r rt).1 := by
 rcases serveRoute_cases eng h w r rt with
  ⟨-,hq⟩ | ⟨name,-,⟨hre,hq⟩ | ⟨resp,-,hq⟩ | ⟨req,hr,hq⟩⟩
 · rw [hq]
   exact mediated_nil
 · rw [hq]
   exact @mediated_forwards rt [] _ (Or.inl hre) (by simp)
    (fun e he => forwardUpstream_events he)
 · -- The chain has answered: there is no forward at all.
   rw [hq]
   intro pre post rt' kind tgt hsp
   have hm : Event.forward rt' kind tgt ∈ chainEvents eng h r rt := by simp [hsp]
   exact absurd ⟨rt',kind,tgt,rfl⟩ (chainEvents_not_forward eng _ hm)
 · have hp : Passed rt (chainEvents eng h r rt) := Or.inr ⟨req,by simp [chainEvents,hr]⟩
   rw [hq]
   exact mediated_forwards hp (chainEvents_not_forward eng) (fun e he => forwardUpstream_events he)

lemma withRoute_mediated {rr : Router} {run : Route → List Event × Reply}
  (h : ∀ route, Mediated (run route).1) : Mediated (withRoute lib rr r run).1 := by
 unfold withRoute
 split
 · rename_i route _
   apply (h route).cons
   intro ⟨rt',kind,tgt,hq⟩
   simp at hq
 · split
   · exact h _
   · exact mediated_nil

/-- The core never forwards before the chain has let the request through. -/
theorem handleRequestInner_mediated (h : ProxyHandler) (w : World) (r : HttpRequest) :
  Mediated (handleRequestInner lib eng h w r).1 := by
 unfold handleRequestInner
 split_ifs
 · exact mediated_nil
 · exact withRoute_mediated lib (serveRoute_mediated eng h w r)

lemma handleH3Request_mediated (h : ProxyHandler) (w : World) (r : HttpRequest) :
  Mediated (handleH3Request lib eng h w r).1 := by
 unfold handleH3Request
 split
 · exact mediated_nil
 · exact handleRequestInner_mediated lib eng h w r

lemma handleRequest_mediated (hw : ¬ isWebsocket r.headers) (h : ProxyHandler) (w : World) :
  Mediated (handleRequest lib eng h w r).1 := by
 unfold handleRequest
 split_ifs
 · exact handleRequestInner_mediated lib eng h w r
 · exact mediated_nil
 · split
   · exact mediated_nil
   · exact handleRequestInner_mediated lib eng h w r

end

def guardedRoute : Route := { defaultRoute "web" with name := "guarded", middlewareRefs := ["guard"] }

def webCluster : ClusterState :=
 clusterFromProto { name := "web", endpoints := [{ ip := "10.0.0.1", port := 80, healthy := true }] }

def guardPolicy : PolicyState := ⟨"guard","jwt","",""⟩

def guardedHandler : ProxyHandler where
 router := { routes := [guardedRoute] }
 config :=
  { clusters := (∅ : KeyedMap String ClusterState).set "web" webCluster
    policies := (∅ : KeyedMap String PolicyState).set "guard" guardPolicy }

def openWorld : World where
 activeRequests := 0
 parseU64 := fun _ => none
 body := some []
 parseIp := fun s => some s
 localZone := ""
 slowStartWeight := fun _ weight => weight
 breakerAllows := fun _ => true
 isEjected := fun _ _ => false
 select := fun _ _ _ bs => if h : 0 < bs.length then some ⟨0,h⟩ else none
 allowRetry := fun _ => true
 acquire := fun _ _ => true
 buildsRequest := fun _ => true
 upstream := fun _ => .responded 200 [] (some [])
 hedgeSent := false
 mirrorSample := 0
 connects := fun _ => true
 upgradeStatus := 101

lemma serveWebsocket_guarded (r : HttpRequest) :
  serveWebsocket guardedHandler openWorld r guardedRoute =
   ([.forward guardedRoute .websocket ("10.0.0.1",80)],.upgraded 101) := rfl

lemma matchesRoute_guarded (lib : TextLibrary) (r : RouteRequest) :
  matchesRoute lib guardedRoute r := by
 simp [matchesRoute,guardedRoute,defaultRoute]

lemma handleRequest_upgrade (lib : TextLibrary) (eng : PolicyEngines) {r : HttpRequest}
  (hw : isWebsocket r.headers) : (handleRequest lib eng guardedHandler openWorld r).1 =
   [.matched guardedRoute,.forward guardedRoute .websocket ("10.0.0.1",80)] := by
 have hm : guardedHandler.router.matchRequestWithQuery lib (routeRequest r) =
   some guardedRoute := by
  simp [guardedHandler,Router.matchRequestWithQuery,matchesRoute_guarded]
 unfold handleRequest withRoute
 rw [if_pos hw,hm]
 simp only [serveWebsocket_guarded]

lemma not_mediated_upgrade :
  ¬ Mediated [.matched guardedRoute,.forward guardedRoute .websocket ("10.0.0.1",80)] := by
 intro h
 rcases h [.matched guardedRoute] [] guardedRoute .websocket ("10.0.0.1",80) rfl with
  hn | ⟨req,hm⟩
 · simp [guardedRoute] at hn
 · simp at hm

theorem complete_mediation_iff (lib : TextLibrary) (eng : PolicyEngines) (entry : Entry)
  (r : HttpRequest) : (∀ h w, Mediated (serve lib eng entry h w r).1) ↔
   ¬ (entry = .http1 ∧ isWebsocket r.headers) := by
 constructor
 · intro h ⟨hn,hw⟩
   have hm := h guardedHandler openWorld
   rw [hn,serve,handleRequest_upgrade lib eng hw] at hm
   exact not_mediated_upgrade hm
 · intro ho h w
   cases entry with
   | http1 =>
    have hw : ¬ isWebsocket r.headers := fun hw => ho ⟨rfl,hw⟩
    exact handleRequest_mediated lib eng hw h w
   | http3 => exact handleH3Request_mediated lib eng h w r

def noEngines : PolicyEngines where
 fromStr := fun _ => none
 rateLimit := fun _ _ _ => none
 basicAuth := fun _ _ _ => none
 jwt := fun _ _ _ => none
 cors := fun _ _ _ => none
 ipFilter := fun _ _ _ => none
 waf := fun _ _ _ => none

/-- The policy answers a plain request, and the upgrade of the same request is forwarded without
asking it. -/
theorem upgrade_bypasses_policies : (serve noRegex noEngines .http1 guardedHandler openWorld {}).2 =
        .policy (Response.withStatus 500 "Internal Server Error") ∧
      ¬ Mediated (serve noRegex noEngines .http1 guardedHandler openWorld
       { headers := [("upgrade","websocket")] }).1 := by
 constructor
 · decide
 · exact not_mediated_upgrade

end NovaEdge.Dataplane
