import NovaEdge.ClusterBuilder

/-! The controller's snapshot builder, for listeners of TCP, of UDP and of TLS passthrough. -/
namespace NovaEdge.Snapshot
open V1alpha1 List
open Config (Gateway)

structure L4TCPConfig where
 (connectTimeoutMs idleTimeoutMs : Int64 := 0)
 bufferSize : Int32 := 0
 drainTimeoutMs : Int64 := 0

structure L4UDPConfig where
 sessionTimeoutMs : Int64 := 0
 bufferSize : Int32 := 0

structure L4TLSRoute where
 (hostname backendName : String := "")
 backends : List LabelledEndpoint := []

structure L4Listener where
 name : String := ""
 port : Int32 := 0
 protocol : Config.Protocol := .unspecified
 backendName : String := ""
 backends : List LabelledEndpoint := []
 tcpConfig : Option L4TCPConfig := none
 udpConfig : Option L4UDPConfig := none
 tlsRoutes : List L4TLSRoute := []

abbrev L4Backend := String × List LabelledEndpoint

def routeBackend (endpoints : String → Option (List LabelledEndpoint)) (gwNs : String)
  (route : ProxyRoute) : Option L4Backend :=
 route.rules.findSome? fun rule => rule.backendRefs.findSome? fun ref =>
  (endpoints (objectKey (ref.ns.getD gwNs) ref.name)).map fun eps => (ref.name,eps)

/-- Of the routes in the namespace of the gateway, whether or not they name the gateway. -/
def findL4BackendForListener (endpoints : String → Option (List LabelledEndpoint))
  (routes : List ProxyRoute) (gwNs : String) : L4Backend :=
 ((routes.filter fun r => r.ns = gwNs).findSome? (routeBackend endpoints gwNs)).getD ("",[])

section
variable (gw : Gateway) (lis : Config.Listener) (backend : L4Backend)

def l4Name : String := gw.ns ++ "-" ++ gw.name ++ "-" ++ lis.name

def buildTCPListener : Option L4Listener :=
 if backend.1 = "" then none
 else some { name := l4Name gw lis, port := lis.port, protocol := .tcp
             backendName := backend.1, backends := backend.2
             tcpConfig := some { connectTimeoutMs := 5000, idleTimeoutMs := 300000
                                 bufferSize := 32768, drainTimeoutMs := 30000 } }

/-- All hostnames of the listener lead to the one backend. -/
def buildTLSPassthroughListener : Option L4Listener :=
 let tlsRoutes := if backend.1 = "" then []
  else lis.hostnames.map fun hostname => ⟨hostname,backend.1,backend.2⟩
 if tlsRoutes.isEmpty then none
 else some { name := l4Name gw lis, port := lis.port, protocol := .tls, tlsRoutes := tlsRoutes }

def buildUDPListener : Option L4Listener :=
 if backend.1 = "" then none
 else some { name := l4Name gw lis, port := lis.port, protocol := .udp
             backendName := backend.1, backends := backend.2
             udpConfig := some { sessionTimeoutMs := 30000, bufferSize := 65535 } }

def buildL4Listener : Option L4Listener :=
 match lis.protocol with
 | .tcp => buildTCPListener gw lis backend
 | .tls => buildTLSPassthroughListener gw lis backend
 | .udp => buildUDPListener gw lis backend
 | .unspecified | .http | .https | .http3 => none

end

def l4ListenersFor (gateways : List Gateway) (backend : String → L4Backend) :
  List L4Listener :=
 gateways.flatMap fun gw => gw.listeners.filterMap fun lis =>
  buildL4Listener gw lis (backend gw.ns)

def buildL4Listeners (gateways : List Gateway)
  (endpoints : String → Option (List LabelledEndpoint)) (routes : List ProxyRoute) :
  List L4Listener :=
 l4ListenersFor gateways (findL4BackendForListener endpoints routes)

def IsL4 (lis : Config.Listener) : Prop :=
 lis.protocol = .tcp ∨ lis.protocol = .udp ∨ lis.protocol = .tls ∧ lis.hostnames ≠ []

def SameService (lis lis' : Config.Listener) : Prop :=
 lis.port = lis'.port ∧ lis.protocol = lis'.protocol ∧
  (lis.protocol = .tls → lis.hostnames = lis'.hostnames)

lemma buildL4Listener_of_name_eq (gw : Gateway) (lis : Config.Listener)
  {bac : L4Backend} (h : bac.1 = "") : buildL4Listener gw lis bac = none := by
 unfold buildL4Listener
 split <;> simp [buildTCPListener,buildTLSPassthroughListener,buildUDPListener,h]

lemma exists_buildL4Listener_iff {gw : Gateway} {lis : Config.Listener} {bac : L4Backend} :
  (∃ m, buildL4Listener gw lis bac = some m) ↔ IsL4 lis ∧ bac.1 ≠ "" := by
 cases hp : lis.protocol <;>
  simp [buildL4Listener,hp,IsL4,buildTCPListener,buildTLSPassthroughListener,
   buildUDPListener,and_comm]

def L4Listener.backend (m : L4Listener) : L4Backend :=
 match m.tlsRoutes with
 | [] => (m.backendName,m.backends)
 | r::_ => (r.backendName,r.backends)

attribute [local simp] L4Listener.backend

section
variable {gw gw' : Gateway} {lis lis' : Config.Listener} {bac bac' : L4Backend}
 {m m' : L4Listener}

variable (h : buildL4Listener gw lis bac = some m)
include h

lemma shown_of_buildL4Listener :
  m.name = l4Name gw lis ∧ m.port = lis.port ∧ m.protocol = lis.protocol ∧ m.backend = bac ∧
   m.tlsRoutes.map L4TLSRoute.hostname = if lis.protocol = .tls then lis.hostnames else [] := by
 cases hp : lis.protocol with
 | tcp =>
  simp only [buildL4Listener,hp,buildTCPListener,Option.ite_none_left_eq_some,
   Option.some.injEq] at h
  simp [← h.2]
 | udp =>
  simp only [buildL4Listener,hp,buildUDPListener,Option.ite_none_left_eq_some,
   Option.some.injEq] at h
  simp [← h.2]
 | tls =>
  simp only [buildL4Listener,hp,buildTLSPassthroughListener,Option.ite_none_left_eq_some,
   Option.some.injEq] at h
  obtain ⟨hr,rfl⟩ := h
  have hn : bac.1 ≠ "" := fun h => by simp [h] at hr
  cases hh : lis.hostnames with
  | nil => simp [hh] at hr
  | cons host hosts => simp [hn,Function.comp_def]
 | _ => simp [buildL4Listener,hp] at h

lemma eq_iff_of_buildL4Listener (h' : buildL4Listener gw' lis' bac' = some m')
  (hn : l4Name gw lis = l4Name gw' lis') : m = m' ↔ SameService lis lis' ∧ bac = bac' := by
 obtain ⟨-,ho,hr,hb,hh⟩ := shown_of_buildL4Listener h
 obtain ⟨-,ho',hp',hb',hh'⟩ := shown_of_buildL4Listener h'
 constructor
 · rintro rfl
   have ha : lis.protocol = lis'.protocol := hr.symm.trans hp'
   refine ⟨⟨ho.symm.trans ho',ha,fun ht => ?_⟩,hb.symm.trans hb'⟩
   rw [if_pos ht] at hh
   rw [if_pos (ha ▸ ht)] at hh'
   exact hh.symm.trans hh'
 · rintro ⟨⟨ho,hr,hh⟩,rfl⟩
   have hu : buildL4Listener gw lis bac = buildL4Listener gw' lis' bac := by
    cases hp : lis'.protocol with
    | tls =>
     have ht : lis.protocol = .tls := hr.trans hp
     simp only [buildL4Listener,hp,ht,buildTLSPassthroughListener,hn,ho,hh ht]
    | _ => simp only [buildL4Listener,hp,hr,buildTCPListener,buildUDPListener,hn,ho]
   exact mem_unique h (hu.trans h')

end

attribute [local simp] findL4BackendForListener

section
variable {eps : String → Option (List LabelledEndpoint)} {rts : List ProxyRoute}
 {rt : ProxyRoute} {ns : String}

lemma findL4BackendForListener_cases (eps : String → Option (List LabelledEndpoint))
  (rts : List ProxyRoute) (ns : String) :
  (findL4BackendForListener eps rts ns = ("",[]) ∧
   ∀ r ∈ rts, r.ns = ns → routeBackend eps ns r = none) ∨
  ∃ r ∈ rts, r.ns = ns ∧ routeBackend eps ns r = some (findL4BackendForListener eps rts ns) := by
 cases hf : (rts.filter fun r => r.ns = ns).findSome? (routeBackend eps ns) with
 | none =>
  refine .inl ⟨by simp [hf],fun r hr hn => ?_⟩
  exact findSome?_eq_none_iff.mp hf r (mem_filter.mpr ⟨hr,decide_eq_true hn⟩)
 | some backend =>
  obtain ⟨r,hr,hb⟩ := exists_of_findSome?_eq_some hf
  obtain ⟨hr,hn⟩ := mem_filter.mp hr
  refine .inr ⟨r,hr,of_decide_eq_true hn,?_⟩
  simp [hf,hb]

lemma findL4BackendForListener_cons {bac : L4Backend} (h : routeBackend eps rt.ns rt = some bac) :
  findL4BackendForListener eps (rt::rts) rt.ns = bac := by
 simp [h]

lemma findL4BackendForListener_cons_of_ne (h : rt.ns ≠ ns) :
  findL4BackendForListener eps (rt::rts) ns = findL4BackendForListener eps rts ns := by
 simp [h]

end

def Interchangeable (a b : L4Backend) : Prop := a.1 = "" ∧ b.1 = "" ∨ a = b

lemma Interchangeable.buildL4Listener_eq {a b : L4Backend} (h : Interchangeable a b)
  (gw : Gateway) (lis : Config.Listener) :
  buildL4Listener gw lis a = buildL4Listener gw lis b := by
 rcases h with ⟨ha,hb⟩ | rfl
 · rw [buildL4Listener_of_name_eq gw lis ha,buildL4Listener_of_name_eq gw lis hb]
 · rfl

section
variable {gws : List Gateway} {bac bac' : String → L4Backend}

lemma mem_l4ListenersFor {m : L4Listener} : m ∈ l4ListenersFor gws bac ↔
  ∃ gw ∈ gws, ∃ lis ∈ gw.listeners, buildL4Listener gw lis (bac gw.ns) = some m := by
 simp [l4ListenersFor]

lemma l4ListenersFor_congr (h : ∀ gw ∈ gws, ∀ lis ∈ gw.listeners,
      buildL4Listener gw lis (bac gw.ns) = buildL4Listener gw lis (bac' gw.ns)) :
  l4ListenersFor gws bac = l4ListenersFor gws bac' :=
 flatMap_congr fun gw hg => filterMap_congr fun lis hl => h gw hg lis hl

lemma l4ListenersFor_perm_of_forall_ne {ns : String} (hn : ∀ oth ≠ ns, bac oth = bac' oth)
  (h : (l4ListenersFor gws bac).Perm (l4ListenersFor gws bac')) :
  (l4ListenersFor (gws.filter fun gw => gw.ns = ns) bac).Perm
   (l4ListenersFor (gws.filter fun gw => gw.ns = ns) bac') := by
 have hp : ∀ bac, (l4ListenersFor (gws.filter fun gw => gw.ns = ns) bac ++
   l4ListenersFor (gws.filter fun gw => !decide (gw.ns = ns)) bac).Perm
   (l4ListenersFor gws bac) := by
  intro bac
  unfold l4ListenersFor
  rw [← flatMap_append]
  exact (filter_append_perm _ gws).flatMap_right _
 have hr : l4ListenersFor (gws.filter fun gw => !decide (gw.ns = ns)) bac =
   l4ListenersFor (gws.filter fun gw => !decide (gw.ns = ns)) bac' := by
  refine l4ListenersFor_congr fun gw hg lis _ => ?_
  rw [hn gw.ns (by simpa using (mem_filter.mp hg).2)]
 have ha := (hp bac).trans (h.trans (hp bac').symm)
 rw [hr] at ha
 exact (perm_append_right_iff _).mp ha

lemma interchangeable_of_perm {gw : Gateway} {lis : Config.Listener} (hg : gw ∈ gws)
  (hl : lis ∈ gw.listeners) (h4 : IsL4 lis) (hne : ∀ oth ≠ gw.ns, bac oth = bac' oth)
  (h : (l4ListenersFor gws bac).Perm (l4ListenersFor gws bac')) :
  Interchangeable (bac gw.ns) (bac' gw.ns) := by
 -- What the other namespaces contribute cancels, whatever it is.
 have hh := l4ListenersFor_perm_of_forall_ne hne h
 have hme : gw ∈ gws.filter fun oth => oth.ns = gw.ns := mem_filter.mpr ⟨hg,by simp⟩
 by_cases hn : (bac gw.ns).1 = ""
 · refine .inl ⟨hn,?_⟩
   by_contra hn'
   obtain ⟨m,hm⟩ := exists_buildL4Listener_iff.mpr ⟨h4,hn'⟩
   obtain ⟨gw',hg',lis',-,hm'⟩ := mem_l4ListenersFor.mp
    (hh.mem_iff.mpr (mem_l4ListenersFor.mpr ⟨gw,hme,lis,hl,hm⟩))
   have hns : gw'.ns = gw.ns := by simpa using (mem_filter.mp hg').2
   rw [hns,buildL4Listener_of_name_eq gw' lis' hn] at hm'
   contradiction
 · obtain ⟨m,hm⟩ := exists_buildL4Listener_iff.mpr ⟨h4,hn⟩
   obtain ⟨gw',hg',lis',-,hm'⟩ := mem_l4ListenersFor.mp
    (hh.mem_iff.mp (mem_l4ListenersFor.mpr ⟨gw,hme,lis,hl,hm⟩))
   have hns : gw'.ns = gw.ns := by simpa using (mem_filter.mp hg').2
   rw [hns] at hm'
   obtain ⟨-,-,-,hb,-⟩ := shown_of_buildL4Listener hm
   obtain ⟨-,-,-,hb',-⟩ := shown_of_buildL4Listener hm'
   exact .inr (hb.symm.trans hb')

end

end NovaEdge.Snapshot
