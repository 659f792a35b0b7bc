import NovaEdge.BalancerCache
import NovaEdge.CompleteMediation
import NovaEdge.EffectiveBackends

/-! Where the attempts of a request go and what their outcomes are recorded against. Every try and
the hedge of the first one are compared with the candidates that were computed for the request, for
every way in which the exchanges with the upstreams can end. -/
namespace NovaEdge.Dataplane
open List Option Or

/-- The requests on the wire, whose answer was taken, and whom the detector and the balancer hear
about. -/
structure UpstreamExchange where
 attempt : ℕ
 primary : SocketAddr
 hedge : Option SocketAddr
 (producer recorded : SocketAddr)
 reported : Option ℕ
 deriving DecidableEq

def maxBackends : ℕ := 1024

/-- The others keep no score, and those that do have a fixed number of slots. -/
def reportedSlot (kind : BalancerKind) (backendIdx : ℕ) : Option ℕ :=
 if kind ∈ [.leastConn, .p2c, .ewma] ∧ backendIdx < maxBackends then some backendIdx
 else none

/-- The next backend in the list of the cluster, not in that of the candidates. -/
def hedgeTarget (w : World) (a : Attempts) (attempt backendIdx : ℕ) : Option SocketAddr :=
 if attempt = 0 ∧ 0 < a.hedgeDelayMs ∧ 1 < a.effective.length ∧ w.hedgeSent = true then
  (a.backends[(backendIdx+1) % a.backends.length]?).map Backend.socket
 else none

def attemptTarget (a : Attempts) (idx : Fin a.effective.length) : SocketAddr :=
 let selected := a.effective.get idx
 ((a.backends[backendIndex a selected idx]?).getD selected).socket

/-- The handler keeps the first request's address also when the hedge answers first. The balancer was
taken from the cache before the first attempt. -/
def exchangeOf (w : World) (kind : BalancerKind) (hedgeWins : Bool) (a : Attempts) (attempt : ℕ)
  (idx : Fin a.effective.length) : UpstreamExchange :=
 let backendIdx := backendIndex a (a.effective.get idx) idx
 let primary := attemptTarget a idx
 let hedge := hedgeTarget w a attempt backendIdx
 { attempt := attempt
   primary := primary
   hedge := hedge
   producer := if hedgeWins then hedge.getD primary else primary
   recorded := primary
   reported := reportedSlot kind backendIdx }

def exchanges (w : World) (kind : BalancerKind) (hedgeWins : Bool) (a : Attempts) :
  (remaining attempt : ℕ) → List UpstreamExchange
 | 0, _ => []
 | remaining+1, attempt =>
  if 0 < attempt ∧ w.allowRetry attempt = false then []
  else match w.select attempt a.algorithm a.ctx a.effective with
  | none => []
  | some idx =>
   let rest := exchanges w kind hedgeWins a remaining (attempt+1)
   let retries := fun condition => 0 < remaining && isRetryableCondition condition a.retryOn
   if w.acquire attempt (attemptTarget a idx) = false then
    if retries "connect-failure" then rest else []
   else if w.buildsRequest attempt = false then []
   else exchangeOf w kind hedgeWins a attempt idx ::
    match w.upstream attempt with
    | .responded _ _ none => if retries "reset" then rest else []
    | .responded status _ (some _) =>
     if isServerError status && 0 < remaining &&
      isRetryableStatus w.parseU64 status a.retryOn then rest else []
    | .failed => if retries "connect-failure" then rest else []

def UpstreamExchange.events (route : Route) (x : UpstreamExchange) : List Event :=
 .forward route (.attempt x.attempt) x.primary ::
  (x.hedge.map fun t => Event.forward route .hedge t).toList

variable (w : World) (kind : BalancerKind)

lemma events_exchangeOf (hw : Bool) (a : Attempts) (att : ℕ) (idx : Fin a.effective.length) :
  (exchangeOf w kind hw a att idx).events a.route =
   sentEvents w a att (backendIndex a (a.effective.get idx) idx) (attemptTarget a idx) := by
 simp only [UpstreamExchange.events,exchangeOf,sentEvents,hedgeEvents,hedgeTarget]
 split_ifs
 · rw [Option.map_map]
   rfl
 · rfl

/-- The requests that the attempt loop sends are those of the exchanges, whichever answers first. -/
lemma attemptLoop_eq_exchanges (hw : Bool) (a : Attempts) (rem att : ℕ)
  (fin : FinalResponse) (got : Bool) : (attemptLoop w a rem att fin got).1 =
   (exchanges w kind hw a rem att).flatMap (·.events a.route) := by
 induction rem generalizing att fin got with
 | zero => rfl
 | succ rem ih =>
  rw [attemptLoop,exchanges]
  by_cases hb : 0 < att ∧ w.allowRetry att = false
  · rw [if_pos hb,if_pos hb]
    rfl
  rw [if_neg hb,if_neg hb]
  cases w.select att a.algorithm a.ctx a.effective with
  | none => cases got <;> rfl
  | some idx =>
   have hse := events_exchangeOf w kind hw a att idx
   dsimp only
   by_cases ha : w.acquire att (attemptTarget a idx) = false
   · rw [if_pos ha,if_pos (by exact ha)]
     split_ifs
     · exact ih ..
     · rfl
     · rfl
   rw [if_neg ha,if_neg (by exact ha)]
   by_cases hu : w.buildsRequest att = false
   · rw [if_pos hu,if_pos hu]
     rfl
   rw [if_neg hu,if_neg hu,flatMap_cons,hse]
   have hr := fun fin got =>
    congrArg (sentEvents w a att (backendIndex a (a.effective.get idx) idx)
     (attemptTarget a idx) ++ ·) (ih (att+1) fin got)
   rcases w.upstream att with ⟨sta,headers,_ | body⟩ | _
   · dsimp only
     split_ifs
     · exact hr ..
     · exact (append_nil _).symm
     · exact (append_nil _).symm
   · dsimp only
     split_ifs
     · exact hr ..
     · exact (append_nil _).symm
   · dsimp only
     split_ifs
     · exact hr ..
     · exact (append_nil _).symm

structure Outcomes where
 allowRetry : ℕ → Bool
 acquire : ℕ → SocketAddr → Bool
 buildsRequest : ℕ → Bool
 upstream : ℕ → UpstreamOutcome
 hedgeSent : Bool

def World.ending (w : World) (o : Outcomes) : World :=
 { w with
   allowRetry := o.allowRetry
   acquire := o.acquire
   buildsRequest := o.buildsRequest
   upstream := o.upstream
   hedgeSent := o.hedgeSent }

def CanRetry (w : World) (a : Attempts) : Prop :=
 isRetryableCondition "connect-failure" a.retryOn = true ∨
  isRetryableCondition "reset" a.retryOn = true ∨
   ∃ status, isServerError status = true ∧ isRetryableStatus w.parseU64 status a.retryOn = true

structure Chosen (w : World) (a : Attempts) (n : ℕ) (idx : Fin a.effective.length) : Prop where
 retried : n = 0 ∨ CanRetry w a
 earlier : ∀ k < n, (w.select k a.algorithm a.ctx a.effective).isSome = true
 selected : w.select n a.algorithm a.ctx a.effective = some idx

lemma exchanges_succ (hw : Bool) (a : Attempts) (rem att : ℕ) : exchanges w kind hw a (rem+1) att = [] ∨
   ∃ idx, w.select att a.algorithm a.ctx a.effective = some idx ∧ ∃ rest,
    (rest = [] ∨ CanRetry w a ∧ rest = exchanges w kind hw a rem (att+1)) ∧
    (exchanges w kind hw a (rem+1) att = rest ∨ exchanges w kind hw a (rem+1) att =
      exchangeOf w kind hw a att idx::rest) := by
 -- a condition for going on with the rest that stands for a failure that is retried
 have ht : ∀ {again : Bool}, (again = true → CanRetry w a) →
   (if again = true then exchanges w kind hw a rem (att+1) else []) = [] ∨ CanRetry w a ∧
     (if again = true then exchanges w kind hw a rem (att+1) else []) =
      exchanges w kind hw a rem (att+1) := by
  intro again hr
  cases again with
  | false => exact inl rfl
  | true => exact inr ⟨hr rfl,rfl⟩
 rw [exchanges]
 by_cases hb : 0 < att ∧ w.allowRetry att = false
 · exact inl (if_pos hb)
 rw [if_neg hb]
 cases hse : w.select att a.algorithm a.ctx a.effective with
 | none => exact inl rfl
 | some idx =>
  dsimp only
  by_cases ha : w.acquire att (attemptTarget a idx) = false
  · rw [if_pos ha]
    refine inr ⟨idx,rfl,_,ht fun h => ?_,inl rfl⟩
    exact inl (Bool.and_eq_true_iff.mp h).2
  rw [if_neg ha]
  by_cases hu : w.buildsRequest att = false
  · exact inl (if_pos hu)
  rw [if_neg hu]
  refine inr ⟨idx,rfl,_,?_,inr rfl⟩
  rcases w.upstream att with ⟨sta,headers,_ | body⟩ | _
  · exact ht fun h => inr (inl (Bool.and_eq_true_iff.mp h).2)
  · refine ht fun h => ?_
    rw [Bool.and_eq_true,Bool.and_eq_true] at h
    exact inr (inr ⟨sta,h.1.1,h.2⟩)
  · exact ht fun h => inl (Bool.and_eq_true_iff.mp h).2

lemma mem_exchanges (hw : Bool) (a : Attempts) {x : UpstreamExchange}
  (rem att : ℕ) (hx : x ∈ exchanges w kind hw a rem att) : ∃ j < rem, ∃ idx, (j = 0 ∨ CanRetry w a) ∧
   (∀ k < j, (w.select (att+k) a.algorithm a.ctx a.effective).isSome = true) ∧
   w.select (att+j) a.algorithm a.ctx a.effective = some idx ∧
   x = exchangeOf w kind hw a (att+j) idx := by
 induction rem generalizing att with
 | zero => exact absurd hx not_mem_nil
 | succ rem ih =>
  rcases exchanges_succ w kind hw a rem att with
   hn | ⟨idx,hse,rest,hr,hq⟩
  · rw [hn] at hx
    exact absurd hx not_mem_nil
  have hc : x = exchangeOf w kind hw a att idx ∨ x ∈ rest := by
   rcases hq with hq | hq
   · exact inr (hq ▸ hx)
   · exact mem_cons.mp (hq ▸ hx)
  rcases hc with hf | hm
  · exact ⟨0,by omega,idx,inl rfl,fun k hk => absurd hk (by omega),hse,hf⟩
  rcases hr with rfl | ⟨hre,rfl⟩
  · exact absurd hm not_mem_nil
  -- an exchange of the remaining attempts, counted from here
  obtain ⟨j,hj,idx',-,ha,hsee,rfl⟩ := ih (att+1) hm
  have hh : ∀ k, att+1+k = att+(k+1) := fun k => by omega
  rw [hh] at hsee ⊢
  refine ⟨j+1,by omega,idx',inr hre,?_,hsee,rfl⟩
  intro k hk
  cases k with
  | zero =>
   rw [Nat.add_zero,hse]
   rfl
  | succ k => exact hh k ▸ ha k (by omega)

def Outcomes.always (u : UpstreamOutcome) : Outcomes where
 allowRetry := fun _ => true
 acquire := fun _ _ => true
 buildsRequest := fun _ => true
 upstream := fun _ => u
 hedgeSent := true

def RetriedOn (w : World) (a : Attempts) : UpstreamOutcome → Prop
 | .responded _ _ none => isRetryableCondition "reset" a.retryOn = true
 | .responded status _ (some _) =>
  isServerError status = true ∧ isRetryableStatus w.parseU64 status a.retryOn = true
 | .failed => isRetryableCondition "connect-failure" a.retryOn = true

variable {a : Attempts}

lemma exists_retriedOn {w : World} (hr : CanRetry w a) : ∃ u, RetriedOn w a u := by
 rcases hr with hc | ht | ⟨sta,hse,hst⟩
 · exact ⟨.failed,hc⟩
 · exact ⟨.responded 200 [] none,ht⟩
 · exact ⟨.responded sta [] (some []),hse,hst⟩

section
variable (w : World) (kind : BalancerKind) (hw : Bool) (a : Attempts)

lemma exchanges_always {idx : Fin a.effective.length} {att : ℕ} (u : UpstreamOutcome)
  (rem : ℕ) (hse : w.select att a.algorithm a.ctx a.effective = some idx) :
  ∃ rest, exchanges (w.ending (.always u)) kind hw a (rem+1) att =
    exchangeOf (w.ending (.always u)) kind hw a att idx::rest ∧ (0 < rem → RetriedOn w a u →
    rest = exchanges (w.ending (.always u)) kind hw a rem (att+1)) := by
 have hs' : (w.ending (.always u)).select att a.algorithm a.ctx a.effective = some idx := hse
 rw [exchanges,if_neg (fun h => Bool.noConfusion h.2),hs']
 refine ⟨_,rfl,fun hp hr => ?_⟩
 rcases u with ⟨sta,headers,_ | body⟩ | _
 · exact if_pos (by simp [hp,show isRetryableCondition "reset" a.retryOn = true from hr])
 · have ht : isServerError sta = true ∧ isRetryableStatus w.parseU64 sta a.retryOn = true := hr
   exact if_pos (by
    rw [ht.1,decide_eq_true hp]
    exact ht.2)
 · exact if_pos (by
    simp [hp,show isRetryableCondition "connect-failure" a.retryOn = true from hr])

lemma exchangeOf_mem_always {u : UpstreamOutcome} (n : ℕ) {idx : Fin a.effective.length}
  (hr : n = 0 ∨ RetriedOn w a u) (rem att : ℕ) (hn : n < rem)
  (ha : ∀ k < n, (w.select (att+k) a.algorithm a.ctx a.effective).isSome = true)
  (hse : w.select (att+n) a.algorithm a.ctx a.effective = some idx) :
  exchangeOf (w.ending (.always u)) kind hw a (att+n) idx ∈
   exchanges (w.ending (.always u)) kind hw a rem att := by
 induction n generalizing rem att with
 | zero =>
  obtain ⟨rem,rfl⟩ : ∃ m, rem = m+1 := ⟨rem - 1,by omega⟩
  obtain ⟨rest,hq,-⟩ := exchanges_always w kind hw a u rem hse
  exact hq ▸ mem_cons_self
 | succ n ih =>
  have hu : RetriedOn w a u := hr.resolve_left (Nat.succ_ne_zero n)
  obtain ⟨rem,rfl⟩ : ∃ m, rem = m+1 := ⟨rem - 1,by omega⟩
  obtain ⟨first,hf⟩ := isSome_iff_exists.mp (ha 0 (by omega))
  obtain ⟨rest,hq,hrs⟩ := exchanges_always w kind hw a u rem hf
  have hh : att+(n+1) = att+1+n := by omega
  rw [hh] at hse ⊢
  have hm := ih (inr hu) rem (att+1) (by omega) (fun k hk => by
    have := ha (k+1) (by omega)
    rwa [show att+(k+1) = att+1+k by omega] at this) hse
  rw [← hrs (by omega) hu] at hm
  exact hq ▸ mem_cons_of_mem _ hm

end

def ConfiguredAt (w : World) (cluster : ClusterState) (t : SocketAddr) : Prop :=
 ∃ e ∈ cluster.endpoints, e.draining = false ∧ w.parseIp e.address = some t.1 ∧ e.port.toNat = t.2

structure EligibleTarget (w : World) (cluster : ClusterState) (effective : List Backend)
  (t : SocketAddr) : Prop where
 configured : ConfiguredAt w cluster t
 effective : t ∈ effective.map Backend.socket

structure UpstreamExchange.Sound (w : World) (cluster : ClusterState) (effective : List Backend)
  (x : UpstreamExchange) : Prop where
 primary : EligibleTarget w cluster effective x.primary
 hedge : ∀ t, x.hedge = some t → EligibleTarget w cluster effective t
 recorded : x.recorded = x.producer
 reported : ∀ i, x.reported = some i → (effective[i]?).map Backend.socket = some x.producer

def clusterAttempts (h : ProxyHandler) (w : World) (r : HttpRequest) (route : Route)
  (cluster : ClusterState) : Attempts :=
 let backends := slowStart w cluster (clusterBackends w cluster)
 let rs := h.config.routes.find? route.name
 { route := route
   backends := backends
   effective := effectiveBackends w cluster (priorityFiltered backends) (priorityFiltered backends)
   algorithm := (sessionAffinity cluster r.headers).2
   ctx := ⟨r.clientAddr,(sessionAffinity cluster r.headers).1,requestZone w⟩
   retryOn := (rs.map RouteState.retryOn).getD []
   hedgeDelayMs := (rs.map RouteState.hedgeDelayMs).getD 0 }

def maxAttempts (h : ProxyHandler) (route : Route) : ℕ :=
 (((h.config.routes.find? route.name).map RouteState.retryMax).getD 0).toNat+1

/-- The kind of the cached balancer, whichever algorithm the request asks for. -/
def balancerKind (h : ProxyHandler) (w : World) (r : HttpRequest) (route : Route)
  (cluster : ClusterState) (cache : LbCache) : BalancerKind :=
 getOrCreateLb cache cluster.name (clusterAttempts h w r route cluster).algorithm

def TargetsEligible (h : ProxyHandler) (w : World) (r : HttpRequest) (route : Route)
  (cluster : ClusterState) (cache : LbCache) : Prop :=
 ∀ (o : Outcomes) (hedgeWins : Bool),
  let a := clusterAttempts h w r route cluster
  let kind := balancerKind h w r route cluster cache
  ∀ x ∈ exchanges (w.ending o) kind hedgeWins a (maxAttempts h route) 0, x.Sound w cluster a.effective

variable {cluster : ClusterState}

/-- The forwarding path sends exactly the requests of these exchanges, the mirrored copy apart. -/
lemma forwardUpstream_eq_exchanges {h : ProxyHandler} {w : World} {r : HttpRequest}
  {rt : Route} {cn : String} (hw : Bool) (hc : h.config.clusters.find? cn = some cluster)
  (hb : w.breakerAllows cluster.name = true) : ∃ mirrored, (forwardUpstream h w r rt cn).1 =
    (exchanges w kind hw (clusterAttempts h w r rt cluster)
     (maxAttempts h rt) 0).flatMap (·.events rt) ++ mirrored ∧
   (mirrored = [] ∨ mirrored = mirrorEvents h w rt) := by
 have hl := attemptLoop_eq_exchanges w kind hw (clusterAttempts h w r rt cluster)
  (maxAttempts h rt) 0 (badGateway ("127.0.0.1",0)) false
 rw [forwardUpstream,hc]
 dsimp only
 rw [if_neg (by rw [hb]; exact Bool.noConfusion)]
 split
 · rename_i evs reply ho
   refine ⟨[],?_,inl rfl⟩
   rw [append_nil]
   exact (congrArg Prod.fst ho).symm.trans hl
 · rename_i evs fin ho
   refine ⟨(replyUpstream h w rt fin).1,
    congrArg (· ++ _) ((congrArg Prod.fst ho).symm.trans hl),?_⟩
   unfold replyUpstream
   split_ifs
   · exact inl rfl
   · exact inr rfl

def Event.kind? : Event → Option ForwardKind
 | .forward _ kind _ => some kind
 | _ => none

/-- What one attempt may send; only the first one is hedged. -/
def attemptKinds (attempt : ℕ) : List ForwardKind :=
 if attempt = 0 then [.attempt 0,.hedge] else [.attempt attempt]

lemma kinds_events (rt : Route) {x : UpstreamExchange} (h : x.attempt ≠ 0 → x.hedge = none) :
  (x.events rt).filterMap Event.kind? <+ attemptKinds x.attempt := by
 obtain ⟨att,pri,hedge,_,_,_⟩ := x
 rcases eq_or_ne att 0 with rfl | hn
 · cases hedge <;> simp [UpstreamExchange.events,Event.kind?,attemptKinds]
 · obtain rfl : hedge = none := h hn
   simp [UpstreamExchange.events,Event.kind?,attemptKinds,hn]

lemma kinds_exchanges (w : World) (kind : BalancerKind) (hw : Bool) (a : Attempts) (rt : Route)
  (rem att : ℕ) :
  ((exchanges w kind hw a rem att).flatMap (·.events rt)).filterMap Event.kind? <+
   (range' att rem).flatMap attemptKinds := by
 induction rem generalizing att with
 | zero => exact nil_sublist _
 | succ rem ih =>
  rw [range'_succ,flatMap_cons]
  rcases exchanges_succ w kind hw a rem att with hn | ⟨idx,-,rest,hr,hq⟩
  · rw [hn]
    exact nil_sublist _
  have ht : (rest.flatMap (·.events rt)).filterMap Event.kind? <+
    (range' (att+1) rem).flatMap attemptKinds := by
   rcases hr with rfl | ⟨-,rfl⟩
   · exact nil_sublist _
   · exact ih (att+1)
  rcases hq with hq | hq
  · rw [hq]
    exact ht.trans (sublist_append_right ..)
  · rw [hq,flatMap_cons,filterMap_append]
    exact (kinds_events rt fun hn => if_neg fun h => hn h.1).append ht

lemma kinds_mirrorEvents (h : ProxyHandler) (w : World) (rt : Route) :
  (mirrorEvents h w rt).filterMap Event.kind? <+ [.mirror] := by
 unfold mirrorEvents
 split
 · exact nil_sublist _
 · split_ifs
   · split
     · exact nil_sublist _
     · rename_i cl _
       cases cl.endpoints.find? fun e => e.healthy && !e.draining <;> simp [Event.kind?]
   · exact nil_sublist _

/-- The requests that are sent for one client request are, in this order and each at most once, the
first attempt, its hedge, the retries and the mirrored copy. -/
theorem requests_sent_in_order (h : ProxyHandler) (w : World) (r : HttpRequest) (route : Route)
  (clusterName : String) : (forwardUpstream h w r route clusterName).1.filterMap Event.kind? <+
   (range (maxAttempts h route)).flatMap attemptKinds ++ [.mirror] := by
 cases hc : h.config.clusters.find? clusterName with
 | none => simp [forwardUpstream,hc]
 | some cluster =>
  cases hb : w.breakerAllows cluster.name with
  | false => simp [forwardUpstream,hc,hb]
  | true =>
   obtain ⟨mirrored,hm,hr⟩ := forwardUpstream_eq_exchanges .roundRobin false hc hb
   have hk : mirrored.filterMap Event.kind? <+ [.mirror] := by
    rcases hr with rfl | rfl
    · exact nil_sublist _
    · exact kinds_mirrorEvents h w route
   rw [hm,filterMap_append,range_eq_range']
   exact (kinds_exchanges w .roundRobin false _ route _ 0).append hk

lemma effective_subset (h : ProxyHandler) (w : World) (r : HttpRequest) (rt : Route)
  (cl : ClusterState) :
  (clusterAttempts h w r rt cl).effective ⊆ (clusterAttempts h w r rt cl).backends := by
 intro b hb
 apply (priorityFiltered_sublist (slowStart w cl (clusterBackends w cl))).subset
 change b ∈ effectiveBackends _ _ _ _ at hb
 unfold effectiveBackends at hb
 dsimp only at hb
 split_ifs at hb
 · exact hb
 · exact hb
 · exact mem_of_mem_filter hb

lemma getElem?_backendIndex (hu : a.effective ⊆ a.backends) (idx : Fin a.effective.length) :
  ∃ b, a.backends[backendIndex a (a.effective.get idx) idx]? = some b ∧
   b.socket = (a.effective.get idx).socket := by
 unfold backendIndex
 cases hf : a.backends.findIdx? fun b =>
   b.addr = (a.effective.get idx).addr && b.port = (a.effective.get idx).port with
 | none =>
  have hm : a.effective.get idx ∈ a.backends := hu (get_mem ..)
  rw [findIdx?_eq_none_iff] at hf
  have := hf _ hm
  simp at this
 | some i =>
  obtain ⟨hl,ha,-⟩ := findIdx?_eq_some_iff_getElem.mp hf
  rw [Bool.and_eq_true,decide_eq_true_eq,decide_eq_true_eq] at ha
  exact ⟨_,getElem?_eq_getElem hl,Prod.ext ha.1 ha.2⟩

lemma attemptTarget_eq (hu : a.effective ⊆ a.backends) (idx : Fin a.effective.length) :
  attemptTarget a idx = (a.effective.get idx).socket := by
 obtain ⟨b,hg,ho⟩ := getElem?_backendIndex hu idx
 simp only [attemptTarget,hg,getD_some,ho]

def WrittenAt (w : World) (cluster : ClusterState) (t : SocketAddr) : Prop :=
 ∃ e ∈ cluster.endpoints, e.draining = false ∧ (w.parseIp e.address).isSome = true ∧
  e.port.toNat < 65536 ∧ (toBackend w e).socket = t

lemma configuredAt_iff {w : World} {t : SocketAddr} (ho : t.2 < 65536) :
  ConfiguredAt w cluster t ↔ WrittenAt w cluster t := by
 constructor
 · rintro ⟨e,he,hr,ha,hep⟩
   refine ⟨e,he,hr,by rw [ha]; rfl,by omega,?_⟩
   have hm : e.port.toNat % 65536 = t.2 := by omega
   simp only [Backend.socket,toBackend,ha,hm,getD_some]
 · rintro ⟨e,he,hr,hp,hep,rfl⟩
   obtain ⟨addr,ha⟩ := isSome_iff_exists.mp hp
   refine ⟨e,he,hr,?_,(Nat.mod_eq_of_lt hep).symm⟩
   simp only [Backend.socket,toBackend,ha,getD_some]

lemma candidate_port_lt {h : ProxyHandler} {w : World} {r : HttpRequest} {rt : Route}
  {b : Backend} (hb : b ∈ (clusterAttempts h w r rt cluster).effective) : b.port < 65536 := by
 have ha : b ∈ slowStart w cluster (clusterBackends w cluster) :=
  effective_subset h w r rt cluster hb
 rw [slowStart_eq_map] at ha
 obtain ⟨b',hb',rfl⟩ := mem_map.mp ha
 obtain ⟨e,-,rfl⟩ := mem_map.mp hb'
 have hp : ((toBackend w e).slowStarted w cluster).port = e.port.toNat % 65536 :=
  congrArg Prod.snd ((toBackend w e).slowStarted_frame w cluster).2.2
 rw [hp]
 exact Nat.mod_lt _ (by omega)

/-- The address is written in an endpoint, the hedge goes to no other, and the two indices agree. -/
structure HarmlessChoice (w : World) (cluster : ClusterState) (kind : BalancerKind) (a : Attempts)
  (n : ℕ) (idx : Fin a.effective.length) : Prop where
 written : WrittenAt w cluster (a.effective.get idx).socket
 successor : n = 0 → 0 < a.hedgeDelayMs → 1 < a.effective.length →
  ∀ b, a.backends[(backendIndex a (a.effective.get idx) idx+1) % a.backends.length]? = some b →
   b.socket = (a.effective.get idx).socket
 slot : ∀ i, reportedSlot kind (backendIndex a (a.effective.get idx) idx) = some i →
  (a.effective[i]?).map Backend.socket = some (a.effective.get idx).socket

section
variable {w : World} {cl : ClusterState} {kind : BalancerKind} {a : Attempts}

lemma sound_of_harmless (hu : a.effective ⊆ a.backends) {n : ℕ}
  {idx : Fin a.effective.length} (ho : (a.effective.get idx).port < 65536)
  (hh : HarmlessChoice w cl kind a n idx) (o : Outcomes) (hw : Bool) :
  (exchangeOf (w.ending o) kind hw a n idx).Sound w cl a.effective := by
 have hp := attemptTarget_eq hu idx
 have hl : EligibleTarget w cl a.effective (a.effective.get idx).socket :=
  ⟨(configuredAt_iff ho).mpr hh.written,mem_map_of_mem (get_mem ..)⟩
 have hhe : ∀ t, hedgeTarget (w.ending o) a n (backendIndex a (a.effective.get idx) idx) =
   some t → t = (a.effective.get idx).socket := by
  intro t ht
  unfold hedgeTarget at ht
  split_ifs at ht with hedges
  obtain ⟨b,hb,rfl⟩ := map_eq_some_iff.mp ht
  exact hh.successor hedges.1 hedges.2.1 hedges.2.2.1 b hb
 have hr : (exchangeOf (w.ending o) kind hw a n idx).producer =
   (a.effective.get idx).socket := by
  simp only [exchangeOf,hp]
  cases ht : hedgeTarget (w.ending o) a n (backendIndex a (a.effective.get idx) idx) with
  | none => exact ite_self _
  | some t =>
   rw [hhe t ht]
   exact ite_self _
 constructor
 · change EligibleTarget w cl a.effective (attemptTarget a idx)
   rwa [hp]
 · intro t ht
   rwa [hhe t ht]
 · rw [hr]
   exact hp
 · intro i hi
   rw [hr]
   exact hh.slot i hi

/-- A hedge that answers first is sound only if it went to the backend of the first request. -/
lemma harmless_of_sound (hu : a.effective ⊆ a.backends) {n : ℕ}
  {idx : Fin a.effective.length} (hpo : (a.effective.get idx).port < 65536) {o : Outcomes}
  (hse : o.hedgeSent = true) (ho : (exchangeOf (w.ending o) kind true a n idx).Sound w cl a.effective) :
  HarmlessChoice w cl kind a n idx := by
 have hr := attemptTarget_eq hu idx
 have hp : (exchangeOf (w.ending o) kind true a n idx).producer = (a.effective.get idx).socket := by
  rw [← ho.recorded]
  exact hr
 constructor
 · have hc := ho.primary.configured
   change ConfiguredAt w cl (attemptTarget a idx) at hc
   rw [hr] at hc
   exact (configuredAt_iff hpo).mp hc
 · intro hf hde hm b hb
   have hedged : hedgeTarget (w.ending o) a n (backendIndex a (a.effective.get idx) idx) =
     some b.socket := by
    rw [hedgeTarget,if_pos ⟨hf,hde,hm,hse⟩,hb]
    rfl
   change (hedgeTarget (w.ending o) a n _).getD _ = _ at hp
   rwa [hedged] at hp
 · intro i hi
   rw [ho.reported i hi,hp]

end

theorem targets_eligible_iff (h : ProxyHandler) (w : World) (r : HttpRequest) (route : Route)
  (cluster : ClusterState) (cache : LbCache) : TargetsEligible h w r route cluster cache ↔
   ∀ n < maxAttempts h route, ∀ idx, Chosen w (clusterAttempts h w r route cluster) n idx →
    HarmlessChoice w cluster (balancerKind h w r route cluster cache)
     (clusterAttempts h w r route cluster) n idx := by
 have hsu := effective_subset h w r route cluster
 have hp := fun idx => candidate_port_lt (h := h) (w := w) (r := r)
  (get_mem (clusterAttempts h w r route cluster).effective idx)
 constructor
 · intro hl n hn idx hc
   -- every attempt before this one ends in a way that is retried
   obtain ⟨u,hu⟩ : ∃ u, n = 0 ∨ RetriedOn w (clusterAttempts h w r route cluster) u := by
    rcases hc.retried with hz | hre
    · exact ⟨.failed,inl hz⟩
    · obtain ⟨u,hu⟩ := exists_retriedOn hre
      exact ⟨u,inr hu⟩
   have hm := exchangeOf_mem_always w (balancerKind h w r route cluster cache) true
    (clusterAttempts h w r route cluster) n hu (maxAttempts h route) 0 hn
    (fun k hk => by rw [Nat.zero_add]; exact hc.earlier k hk)
    (by rw [Nat.zero_add]; exact hc.selected)
   rw [Nat.zero_add] at hm
   exact harmless_of_sound hsu (hp idx) rfl (hl (.always u) true _ hm)
 · intro hh o hedgeWins a kind x hx
   obtain ⟨n,hn,idx,hr,ha,hse,rfl⟩ := mem_exchanges _ _ _ _ _ _ hx
   simp only [Nat.zero_add] at ha hse ⊢
   exact sound_of_harmless hsu (hp idx) (hh n hn idx ⟨hr,ha,hse⟩) o hedgeWins

def handlerOf (route : Proto.RouteConfig) : ProxyHandler :=
 { guardedHandler with
   config :=
    { guardedHandler.config with
      routes := (∅ : KeyedMap String RouteState).set "guarded" (routeFromProto route) } }

def retriedHandler : ProxyHandler := handlerOf
  { name := "guarded"
    retry := some { maxRetries := 2, retryOn := ["connect-failure"] } }

def ailingCluster : ClusterState := clusterFromProto
  { name := "web"
    endpoints :=
     [{ ip := "10.0.0.1", port := 80, healthy := true },
      { ip := "10.0.0.2", port := 80, healthy := true },
      { ip := "10.0.0.3", port := 80, healthy := false }] }

def secondWorld : World :=
 { openWorld with select := fun _ _ _ bs => if h : 1 < bs.length then some ⟨1,h⟩ else none }

def leastConnCache : LbCache := (∅ : LbCache).set "web" .leastConn

/-- Three attempts at two candidates out of three endpoints, with a balancer that counts. -/
theorem retried_targets_eligible :
  TargetsEligible retriedHandler secondWorld {} guardedRoute ailingCluster leastConnCache := by
 refine (targets_eligible_iff _ _ _ _ _ _).mpr fun n _ idx _ => ?_
 have hslots : ∀ j : Fin 2, reportedSlot .leastConn j = some j.val := by decide
 match idx with
 | ⟨0, _⟩ =>
  refine ⟨⟨_, mem_cons_self, rfl, rfl, by decide, rfl⟩, fun _ hd => ?_, fun i hi => ?_⟩
  · exact absurd hd (by decide)
  · obtain rfl : 0 = i := Option.some.inj ((hslots 0).symm.trans hi)
    rfl
 | ⟨1, _⟩ =>
  refine ⟨⟨_, mem_cons_of_mem _ mem_cons_self, rfl, rfl, by decide, rfl⟩, fun _ hd => ?_,
   fun i hi => ?_⟩
  · exact absurd hd (by decide)
  · obtain rfl : 1 = i := Option.some.inj ((hslots 1).symm.trans hi)
    rfl

def hedgedHandler : ProxyHandler := handlerOf { name := "guarded", hedgeDelayMs := 50 }

/-- The hedge goes to the unhealthy endpoint, which follows the selected one in the cluster. -/
theorem hedged_to_unhealthy :
  ¬ TargetsEligible hedgedHandler secondWorld {} guardedRoute ailingCluster ∅ := by
 intro hl
 have ho := hl (.always .failed) false
  ⟨0,("10.0.0.2",80),some ("10.0.0.3",80),("10.0.0.2",80),("10.0.0.2",80),none⟩
  (by decide +kernel)
 have hc := (ho.hedge ("10.0.0.3",80) rfl).effective
 exact absurd hc (by decide +kernel)

end NovaEdge.Dataplane
