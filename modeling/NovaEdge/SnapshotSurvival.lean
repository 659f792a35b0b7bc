import NovaEdge.SnapshotOrder

/-! The secrets that a build fetches, and what an object whose secret cannot be loaded leaves of
the snapshot. The reconciler of a gateway validates the same references. -/
namespace NovaEdge.Snapshot
open V1alpha1 SortOrder List LoadResult

def secretKey (ns name : String) : List String := if name = "" then [] else [objectKey ns name]

def secretRefNS (ns defaultNs : String) : String := if ns = "" then defaultNs else ns

def SecretReference.keys (defaultNs : String) (ref : SecretReference) : List String :=
 secretKey (secretRefNS ref.ns defaultNs) ref.name

/-- The client CA is fetched too, although no message of the snapshot holds it. -/
def listenerSecretRefs (gwNs : String) (lis : Listener) : List String :=
 ((lis.tls.bind TLSConfig.secretRef).toList ++ lis.tlsCertificates.values.filterMap
  TLSConfig.secretRef ++ (lis.clientAuth.bind ClientAuthConfig.caCertRef).toList).flatMap
   (SecretReference.keys gwNs)

def gatewaySecretRefs (gw : ProxyGateway) : List String :=
 gw.listeners.flatMap (listenerSecretRefs gw.ns)

def backendSecretRefs (b : ProxyBackend) : List String := (b.tls.toList.flatMap fun tls =>
  tls.caCertSecretRef.toList ++ tls.clientCertSecretRef.toList).flatMap (secretKey b.ns)

def policySecretRefs (p : ProxyPolicy) : List String :=
 ((p.basicAuth.toList.map BasicAuthPolicyConfig.secretRef) ++ p.oidc.toList.flatMap fun spec =>
  [spec.clientSecretRef,spec.sessionSecretRef]).flatMap (secretKey p.ns)

def collectReferencedSecrets (objs : ClusterObjects) : List String :=
 objs.gateways.flatMap gatewaySecretRefs ++ objs.backends.flatMap backendSecretRefs ++
  objs.policies.flatMap policySecretRefs

/-- The secrets that the client can get. None is without a name. -/
structure SecretStore where
 secrets : KeyedMap String (KeyedMap String Bytes) := ∅
 unnamed : ∀ ns, secrets.find? (objectKey ns "") = none := by intro ns; rfl

/-- A secret that the client does not get, for whatever reason, is not there. -/
def ClusterObjects.prefetch (objs : ClusterObjects) (store : SecretStore) : ClusterObjects :=
 { objs with
   secrets := store.secrets.deleteIf fun e => e.1 ∉ collectReferencedSecrets objs }

inductive GetResult
 | found (data : KeyedMap String Bytes)
 | notFound
 | failed

def validateListener (get : String → String → GetResult) (gwNs : String) (lis : Listener) :
  Option (List String) :=
 if lis.protocol = .https ∨ lis.protocol = .tls then
  let missing := "Listener " ++ lis.name ++ " requires TLS secret but none specified"
  match lis.tls with
  | none => some [missing]
  | some tls => tls.secretRef.map fun ref =>
   if ref.name = "" then [missing]
   else match get (secretRefNS ref.ns gwNs) ref.name with
    | .notFound => ["TLS secret " ++ ref.name ++ " not found for listener " ++ lis.name]
    | .failed => []
    | .found data =>
     (if data.find? "tls.crt" = none then ["TLS secret " ++ ref.name ++ " missing tls.crt"]
      else []) ++
     (if data.find? "tls.key" = none then ["TLS secret " ++ ref.name ++ " missing tls.key"]
      else [])
 else some []

structure ReadyCondition where
 status : Bool
 (reason message : String)

def readyCondition (validationErrors : List String) : ReadyCondition :=
 if validationErrors = [] then ⟨true,"Valid","Gateway configuration is valid"⟩
 else ⟨false,"ValidationFailed",
  "Validation errors: [" ++ " ".intercalate validationErrors ++ "]"⟩

def validateAndUpdateStatus (get : String → String → GetResult) (gw : ProxyGateway) :
  Option ReadyCondition :=
 (gw.listeners.mapM (validateListener get gw.ns)).map fun errors => readyCondition errors.flatten

variable {gw : ProxyGateway} {tls : TLSConfig} {p : ProxyPolicy}

section
variable {bc bc' : BuildContext} {keys : List String}

structure SameSecrets (bc bc' : BuildContext) (keys : List String) : Prop where
 find? : ∀ k ∈ keys, bc.secrets.find? k = bc'.secrets.find? k
 unnamed : ∀ ns, bc.secrets.find? (objectKey ns "") = none ∧
  bc'.secrets.find? (objectKey ns "") = none

lemma SameSecrets.mono {key' : List String} (h : SameSecrets bc bc' keys)
  (hy : key' ⊆ keys) : SameSecrets bc bc' key' :=
 ⟨fun k hk => h.find? k (hy hk),h.unnamed⟩

variable {ns : String}

lemma SameSecrets.getSecret_eq {name : String} (h : SameSecrets bc bc' keys)
  (hk : secretKey ns name ⊆ keys) : bc.getSecret ns name = bc'.getSecret ns name := by
 by_cases hn : name = ""
 · subst hn
   obtain ⟨ho,hn'⟩ := h.unnamed ns
   exact ho.trans hn'.symm
 · refine h.find? (objectKey ns name) (hk ?_)
   simp [secretKey,hn]

lemma SameSecrets.loadTLSConfig_eq (h : SameSecrets bc bc' keys)
  (hk : ∀ ref ∈ tls.secretRef, SecretReference.keys ns ref ⊆ keys) :
  loadTLSConfig bc ns tls = loadTLSConfig bc' ns tls := by
 unfold loadTLSConfig
 cases hr : tls.secretRef with
 | none => rfl
 | some ref =>
  have hse := h.getSecret_eq (hk ref hr)
  simp only [secretRefNS] at hse
  simp only [hse]

/-- All certificates of a listener are read from secrets that are collected for it. -/
lemma SameSecrets.listener_loads {lis : Listener}
  (h : SameSecrets bc bc' (listenerSecretRefs ns lis))
  (ht : tls ∈ lis.tls ∨ tls ∈ lis.tlsCertificates.values) :
  loadTLSConfig bc ns tls = loadTLSConfig bc' ns tls := by
 refine h.loadTLSConfig_eq fun ref hr k hk => mem_flatMap.mpr ⟨ref,?_,hk⟩
 simp only [mem_append,Option.mem_toList,bind_eq_some_iff,mem_filterMap]
 rcases ht with hde | hc
 · exact .inl (.inl ⟨tls,hde,hr⟩)
 · exact .inl (.inr ⟨tls,hc,hr⟩)

lemma SameSecrets.buildListener_eq {lis : Listener}
  (h : SameSecrets bc bc' (listenerSecretRefs ns lis)) :
  buildListener bc ns lis = buildListener bc' ns lis := by
 have hce : loadCertificates bc ns lis.tlsCertificates =
   loadCertificates bc' ns lis.tlsCertificates := by
  refine foldl_ext _ _ _ fun acc p hp => ?_
  have hv : p.2 ∈ lis.tlsCertificates.values := by
   rw [KeyedMap.values_eq_map_pairs]
   exact mem_map_of_mem hp
  rw [h.listener_loads (.inr hv)]
 have hc : convertListener bc ns lis = convertListener bc' ns lis := by
  funext tls
  rw [convertListener,hce]
  rfl
 unfold buildListener
 rw [hc]
 cases ht : lis.tls with
 | none => rfl
 | some tls => simp only [h.listener_loads (.inl ht)]

lemma SameSecrets.buildGateway_eq
  (h : SameSecrets bc bc' (gatewaySecretRefs gw)) : buildGateway bc gw = buildGateway bc' gw := by
 have hl : gw.listeners.filterMap (buildListener bc gw.ns) =
   gw.listeners.filterMap (buildListener bc' gw.ns) := by
  refine filterMap_congr fun lis hli => SameSecrets.buildListener_eq (h.mono ?_)
  exact fun k hk => mem_flatMap.mpr ⟨lis,hli,hk⟩
 rw [buildGateway,hl]
 rfl

lemma SameSecrets.buildCluster_eq {b : ProxyBackend} (lib : BuilderLibrary)
  (h : SameSecrets bc bc' (backendSecretRefs b)) :
  buildCluster lib bc b = buildCluster lib bc' b := by
 have ht : b.tls.map (convertBackendTLS bc b.ns) = b.tls.map (convertBackendTLS bc' b.ns) := by
  cases hb : b.tls with
  | none => rfl
  | some tls =>
   cases hr : tls.caCertSecretRef with
   | none => simp [convertBackendTLS,hr]
   | some name =>
    have hse : bc.getSecret b.ns name = bc'.getSecret b.ns name := by
     refine h.getSecret_eq fun k hk => mem_flatMap.mpr ⟨name,?_,hk⟩
     simp [hb,hr]
    simp [convertBackendTLS,hr,hse]
 rw [buildCluster,ht]
 rfl

lemma SameSecrets.buildPolicy_eq (lib : GoLibrary) (h : SameSecrets bc bc' (policySecretRefs p)) :
  buildPolicy lib bc p = buildPolicy lib bc' p := by
 have hb : p.basicAuth.bind (buildBasicAuthConfig lib bc p.ns) =
   p.basicAuth.bind (buildBasicAuthConfig lib bc' p.ns) := by
  cases hp : p.basicAuth with
  | none => rfl
  | some spec =>
   have hse : bc.getSecret p.ns spec.secretRef = bc'.getSecret p.ns spec.secretRef := by
    refine h.getSecret_eq fun k hk => mem_flatMap.mpr ⟨spec.secretRef,?_,hk⟩
    simp [hp]
   simp [buildBasicAuthConfig,loadSecretValue,loadSecretBytes,hse]
 have ho : p.oidc.bind (buildOIDCConfig lib bc p.ns) =
   p.oidc.bind (buildOIDCConfig lib bc' p.ns) := by
  cases hp : p.oidc with
  | none => rfl
  | some spec =>
   have hse : ∀ name ∈ [spec.clientSecretRef,spec.sessionSecretRef],
     bc.getSecret p.ns name = bc'.getSecret p.ns name := by
    intro name hn
    refine h.getSecret_eq fun k hk => mem_flatMap.mpr ⟨name,?_,hk⟩
    simpa [hp] using Or.inr hn
   simp [buildOIDCConfig,loadSecretValue,loadSecretBytes,hse]
 rw [buildPolicy,hb,ho]
 rfl

end

def SecretStore.context (store : SecretStore) : BuildContext := { secrets := store.secrets }

def SecretLoads (bc : BuildContext) (ns : String) (tls : TLSConfig) : Prop :=
 ∃ ref data, tls.secretRef = some ref ∧ bc.getSecret (secretRefNS ref.ns ns) ref.name = some data ∧
  data.find? "tls.crt" ≠ none ∧ data.find? "tls.key" ≠ none

/-- A skipped listener's certificates for further hosts need not. -/
def RefsSet (store : SecretStore) (objs : ClusterObjects) : Prop :=
 ∀ gw ∈ objs.gateways, ∀ lis ∈ gw.listeners, (∀ tls ∈ lis.tls, tls.secretRef ≠ none) ∧
  ((∀ tls ∈ lis.tls, SecretLoads store.context gw.ns tls) →
   ∀ tls ∈ lis.tlsCertificates.values, tls.secretRef ≠ none)

variable {bc : BuildContext} {ns : String}

lemma panics_loadTLSConfig_iff :
  (loadTLSConfig bc ns tls).panics = true ↔ tls.secretRef = none := by
 unfold loadTLSConfig
 cases tls.secretRef with
 | none => simp [panics]
 | some ref =>
  simp only [reduceCtorEq,iff_false]
  split
  · simp [panics]
  · split
    · simp [panics]
    · split <;> simp [panics]

lemma isSome_loaded?_iff :
  (loadTLSConfig bc ns tls).loaded?.isSome = true ↔ SecretLoads bc ns tls := by
 unfold loadTLSConfig SecretLoads secretRefNS
 cases tls.secretRef with
 | none => simp [loaded?]
 | some ref =>
  cases hg : bc.getSecret (if ref.ns = "" then ns else ref.ns) ref.name with
  | none => simp [hg,loaded?]
  | some data =>
   cases hc : data.find? "tls.crt" with
   | none => simp [hg,hc,loaded?]
   | some cert => cases hk : data.find? "tls.key" <;>
     simp [hg,hc,hk,loaded?]

variable {lis : Listener}

lemma isSome_buildListener_iff :
  (buildListener bc ns lis).isSome = true ↔ ∀ tls ∈ lis.tls, SecretLoads bc ns tls := by
 unfold buildListener
 cases lis.tls with
 | none => simp
 | some tls => simp [isSome_loaded?_iff]

lemma listenerPanics_iff :
  listenerPanics bc ns lis = true ↔ (∃ tls ∈ lis.tls, tls.secretRef = none) ∨
   (∀ tls ∈ lis.tls, SecretLoads bc ns tls) ∧
    ∃ tls ∈ lis.tlsCertificates.values, tls.secretRef = none := by
 have hde : (lis.tls.any fun tls => (loadTLSConfig bc ns tls).panics) = true ↔
   ∃ tls ∈ lis.tls, tls.secretRef = none := by
  cases lis.tls with
  | none => simp
  | some tls => simp [panics_loadTLSConfig_iff]
 rw [listenerPanics,Bool.or_eq_true,Bool.and_eq_true,hde,isSome_buildListener_iff,any_eq_true]
 simp only [panics_loadTLSConfig_iff]

section
variable {objs : ClusterObjects} {sto sto' : SecretStore}

lemma find?_prefetch {k : String} (hk : k ∈ collectReferencedSecrets objs) :
  (objs.prefetch sto).secrets.find? k = sto.secrets.find? k := by
 change (sto.secrets.deleteIf _).find? k = _
 rw [KeyedMap.find?_deleteIf]
 cases sto.secrets.find? k <;> simp [hk]

lemma find?_prefetch_unnamed (ns : String) :
  (objs.prefetch sto).secrets.find? (objectKey ns "") = none := by
 change (sto.secrets.deleteIf _).find? _ = _
 rw [KeyedMap.find?_deleteIf,sto.unnamed ns]
 rfl

lemma sameSecrets_prefetch {keys : List String} (hr : keys ⊆ collectReferencedSecrets objs)
  (ha : ∀ k ∈ keys, sto.secrets.find? k = sto'.secrets.find? k) :
  SameSecrets (objs.prefetch sto).toBuildContext (objs.prefetch sto').toBuildContext keys :=
 ⟨fun k hk => by rw [find?_prefetch (hr hk),ha k hk,find?_prefetch (hr hk)],
  fun ns => ⟨find?_prefetch_unnamed ns,find?_prefetch_unnamed ns⟩⟩

lemma sameSecrets_context {keys : List String} (hr : keys ⊆ collectReferencedSecrets objs) :
  SameSecrets (objs.prefetch sto).toBuildContext sto.context keys :=
 ⟨fun _ hk => find?_prefetch (hr hk),fun ns => ⟨find?_prefetch_unnamed ns,sto.unnamed ns⟩⟩

lemma gatewaySecretRefs_subset (hg : gw ∈ objs.gateways) :
  gatewaySecretRefs gw ⊆ collectReferencedSecrets objs := by
 intro k hk
 simp only [collectReferencedSecrets,mem_append,mem_flatMap]
 exact .inl (.inl ⟨gw,hg,hk⟩)

lemma backendSecretRefs_subset {b : ProxyBackend} (hb : b ∈ objs.backends) :
  backendSecretRefs b ⊆ collectReferencedSecrets objs := by
 intro k hk
 simp only [collectReferencedSecrets,mem_append,mem_flatMap]
 exact .inl (.inr ⟨b,hb,hk⟩)

lemma policySecretRefs_subset (hp : p ∈ objs.policies) :
  policySecretRefs p ⊆ collectReferencedSecrets objs := by
 intro k hk
 simp only [collectReferencedSecrets,mem_append,mem_flatMap]
 exact .inr ⟨p,hp,hk⟩

lemma secretLoads_prefetch_iff (hg : gw ∈ objs.gateways) {lis : Listener}
  (hl : lis ∈ gw.listeners) (ht : tls ∈ lis.tls) :
  SecretLoads (objs.prefetch sto).toBuildContext gw.ns tls ↔ SecretLoads sto.context gw.ns tls := by
 have ha : SameSecrets (objs.prefetch sto).toBuildContext sto.context
   (listenerSecretRefs gw.ns lis) :=
  (sameSecrets_context (gatewaySecretRefs_subset hg)).mono fun k hk => mem_flatMap.mpr ⟨lis,hl,hk⟩
 rw [← isSome_loaded?_iff,← isSome_loaded?_iff,ha.listener_loads (.inl ht)]

lemma buildGateways_prefetch_ne_none_iff :
  buildGateways (objs.prefetch sto).toGatewayContext ≠ none ↔ RefsSet sto objs := by
 rw [ne_eq,buildGateways_eq_none_iff]
 simp only [not_exists,not_and,listenerPanics_iff,not_or]
 refine forall₂_congr fun gw hg => forall₂_congr fun lis hl => and_congr_right' ?_
 refine imp_congr_left ?_
 exact forall₂_congr fun tls ht => secretLoads_prefetch_iff hg hl ht

end

/-- Validation fails only on a TLS section without a reference. -/
lemma isSome_validateListener (get : String → String → GetResult) (ns : String)
  (h : ∀ tls ∈ lis.tls, tls.secretRef ≠ none) : (validateListener get ns lis).isSome = true := by
 unfold validateListener
 split_ifs
 · cases ht : lis.tls with
   | none => rfl
   | some tls => simpa [isSome_iff_ne_none] using h tls ht
 · rfl

lemma isSome_validateAndUpdateStatus {get : String → String → GetResult}
  (h : ∀ lis ∈ gw.listeners, ∀ tls ∈ lis.tls, tls.secretRef ≠ none) :
  (validateAndUpdateStatus get gw).isSome = true := by
 have ha : ∀ lns : List Listener, (∀ lis ∈ lns, ∀ tls ∈ lis.tls,
   tls.secretRef ≠ none) → (lns.mapM (validateListener get gw.ns)).isSome = true := by
  intro lns hre
  induction lns with
  | nil => rfl
  | cons lis lns ih =>
   obtain ⟨hl,hrs⟩ := forall_mem_cons.mp hre
   obtain ⟨errs,her⟩ := isSome_iff_exists.mp (isSome_validateListener get gw.ns hl)
   obtain ⟨rest,hr⟩ := isSome_iff_exists.mp (ih hrs)
   simp [mapM_cons,her,hr]
 rw [validateAndUpdateStatus,Option.isSome_map]
 exact ha gw.listeners h

section
variable {α β : Type*}

/-- Of the objects that are to be kept, the two lists have the same entries. -/
def KeepsEntries (key : α → String × String) (key' : β → String × String) (kept : α → Prop)
  (objects : List α) (l l' : List β) : Prop :=
 ∀ o ∈ objects, kept o → ∀ m, key' m = key o → (m ∈ l ↔ m ∈ l')

/-- Two entries of one object, which are the same if the object is to be kept. -/
def SameObject (key : α → String × String) (key' : β → String × String) (kept : α → Prop)
  (objects : List α) (m m' : β) : Prop :=
 ∃ o ∈ objects, key' m = key o ∧ key' m' = key o ∧ (kept o → m = m')

variable {key : α → String × String} {key' : β → String × String} {kept : α → Prop}
 {obj : List α} {l l' : List β}

lemma SameObject.symm {m m' : β} (h : SameObject key key' kept obj m m') :
  SameObject key key' kept obj m' m := by
 obtain ⟨o,ho,hy,hk',hke⟩ := h
 exact ⟨o,ho,hk',hy,fun hk => (hke hk).symm⟩

lemma mem_of_forall₂_sameObject (hn : (obj.map key).Nodup)
  (h : Forall₂ (SameObject key key' kept obj) l l') {o : α} (ho : o ∈ obj)
  (hke : kept o) {m : β} (hk : key' m = key o) (hm : m ∈ l) : m ∈ l' := by
 induction h with
 | nil => simp at hm
 | @cons a b l l' ha hr ih =>
  rcases mem_cons.mp hm with rfl | hm
  · obtain ⟨o',ho',hk',-,hq⟩ := ha
    obtain rfl : o = o' := inj_on_of_nodup_map hn ho ho' (hk.symm.trans hk')
    rw [← hq hke]
    exact mem_cons_self
  · exact mem_cons_of_mem b (ih hm)

lemma keepsEntries_of_forall₂ (hn : (obj.map key).Nodup)
  (h : Forall₂ (SameObject key key' kept obj) l l') : KeepsEntries key key' kept obj l l' := by
 intro o ho hke m hk
 have hf : Forall₂ (SameObject key key' kept obj) l' l :=
  h.flip.imp fun _ _ ha => SameObject.symm ha
 exact ⟨mem_of_forall₂_sameObject hn h ho hke hk,mem_of_forall₂_sameObject hn hf ho hke hk⟩

lemma exists_entries {R R' : α → β → Prop} {part : List α} {bui : List β}
  (hb : Forall₂ R part bui) (hu : part ⊆ obj) (h : ∀ o ∈ obj, ∀ m, R o m → key' m = key o ∧
   ∃ m', R' o m' ∧ key' m' = key o ∧ (kept o → m = m')) : ∃ built', Forall₂ R' part built' ∧
   Forall₂ (SameObject key key' kept obj) bui built' := by
 induction hb with
 | nil => exact ⟨[],.nil,.nil⟩
 | @cons o m objs bui hm hr ih =>
  obtain ⟨ho,hob⟩ := cons_subset.mp hu
  obtain ⟨hk,m',hm',hk',hke⟩ := h o ho m hm
  obtain ⟨built',hb',ha⟩ := ih hob
  exact ⟨m'::built',.cons hm' hb',.cons ⟨o,ho,hk,hk',hke⟩ ha⟩

variable (key key') in
lemma exists_rebuilt {R R' : α → β → Prop} {bui sor : List β} (hb : Forall₂ R obj bui)
  (ho : SortedByName (fun m => (key' m).2) bui sor) (h : ∀ o ∈ obj, ∀ m, R o m → key' m = key o ∧
   ∃ m', R' o m' ∧ key' m' = key o ∧ (kept o → m = m')) :
  ∃ built' sorted', Forall₂ R' obj built' ∧ SortedByName (fun m => (key' m).2) built' sorted' ∧
   Forall₂ (SameObject key key' kept obj) sor sorted' := by
 obtain ⟨built',hb',ha⟩ := exists_entries hb (Subset.refl _) h
 obtain ⟨hpe,hp⟩ := ho
 obtain ⟨sorted',hs',hp'⟩ := perm_comp_forall₂ hpe ha
 have hn : sor.map (fun m => (key' m).2) = sorted'.map fun m => (key' m).2 := by
  rw [← forall₂_eq_eq_eq,forall₂_map_left_iff,forall₂_map_right_iff]
  refine hs'.imp ?_
  intro m m' hm
  obtain ⟨o,-,hk,hk',-⟩ := hm
  rw [hk,hk']
 refine ⟨built',sorted',hb',⟨hp',?_⟩,hs'⟩
 rw [← pairwise_map (f := fun m => (key' m).2) (R := (· ≤ ·)),← hn,pairwise_map]
 exact hp

end

section
variable (lib : BuilderLibrary) (objs : ClusterObjects)

def SecretStore.AgreesOn (store store' : SecretStore) (keys : List String) : Prop :=
 ∀ k ∈ keys, store.secrets.find? k = store'.secrets.find? k

/-- An object whose own secrets are the same has the same entries. -/
structure Isolated (store store' : SecretStore) (c c' : SnapshotContent) : Prop where
 gateways : KeepsEntries (fun gw : ProxyGateway => (gw.ns,gw.name)) (fun m => (m.ns,m.name))
  (fun gw => store.AgreesOn store' (gatewaySecretRefs gw)) objs.gateways c.gateways c'.gateways
 clusters : KeepsEntries (fun b : ProxyBackend => (b.ns,b.name)) (fun m => (m.ns,m.name))
  (fun b => store.AgreesOn store' (backendSecretRefs b)) objs.backends c.clusters c'.clusters
 policies : KeepsEntries (fun p : ProxyPolicy => (p.ns,p.name)) (fun m => (m.ns,m.name))
  (fun p => store.AgreesOn store' (policySecretRefs p)) objs.policies c.policies c'.policies
 l4Listeners : ∀ m : L4Listener, (∀ gw ∈ objs.gateways, ∀ lis ∈ gw.listeners,
  m.name = gw.ns ++ "-" ++ gw.name ++ "-" ++ lis.name →
   store.AgreesOn store' (gatewaySecretRefs gw)) → (m ∈ c.l4Listeners ↔ m ∈ c'.l4Listeners)
 routes : c'.routes = c.routes
 endpoints : c'.endpoints = c.endpoints
 internalServices : c'.internalServices = c.internalServices
 meshAuthzPolicies : c'.meshAuthzPolicies = c.meshAuthzPolicies
 wanLinks : c'.wanLinks = c.wanLinks
 wanPolicies : c'.wanPolicies = c.wanPolicies

/-- Both come to an end, and a second fetch changes only what it concerns. -/
structure Survives (store : SecretStore) : Prop where
 builds : ∃ c, IsContent lib (objs.prefetch store) c
 validates : ∀ get, ∀ gw ∈ objs.gateways, (validateAndUpdateStatus get gw).isSome = true
 isolates : ∀ store', (∃ c', IsContent lib (objs.prefetch store') c') →
  ∀ c, IsContent lib (objs.prefetch store) c →
   ∃ c', IsContent lib (objs.prefetch store') c' ∧ Isolated objs store store' c c'

variable {lib objs} {sto sto' : SecretStore}

lemma buildGateway_prefetch_eq (hg : gw ∈ objs.gateways)
  (h : sto.AgreesOn sto' (gatewaySecretRefs gw)) :
  buildGateway (objs.prefetch sto).toBuildContext gw =
   buildGateway (objs.prefetch sto').toBuildContext gw :=
 (sameSecrets_prefetch (gatewaySecretRefs_subset hg) h).buildGateway_eq

variable {α : Type*}

lemma nodup_keys {l : List α} {ns name : α → String}
  (h : (l.map fun o => objectKey (ns o) (name o)).Nodup) :
  (l.map fun o => (ns o,name o)).Nodup := by
 refine Nodup.of_map (fun k => objectKey k.1 k.2) ?_
 rwa [map_map]

variable {β : Type*}

lemma forall₂_build (f : α → β) (l : List α) : Forall₂ (fun o m => f o = m) l (l.map f) := by
 rw [forall₂_map_right_iff,forall₂_same]
 exact fun _ _ => rfl

lemma eq_map_of_forall₂ {f : α → β} {l : List α} {blt : List β}
  (h : Forall₂ (fun o m => f o = m) l blt) : blt = l.map f := by
 rw [← forall₂_eq_eq_eq,forall₂_map_right_iff]
 exact h.flip.imp fun _ _ => Eq.symm

lemma exists_isolated {l : List α} (f f' : α → β) {ns name : α → String} (ns' nam' : β → String)
  {kept : α → Prop} {sor : List β} (hn : (l.map fun o => objectKey (ns o) (name o)).Nodup)
  (hk : ∀ o, (ns' (f o),nam' (f o)) = (ns o,name o))
  (hk' : ∀ o, (ns' (f' o),nam' (f' o)) = (ns o,name o))
  (hke : ∀ o ∈ l, kept o → f o = f' o) (hso : SortedByName nam' (l.map f) sor) :
  ∃ sorted', SortedByName nam' (l.map f') sorted' ∧
   KeepsEntries (fun o => (ns o,name o)) (fun m => (ns' m,nam' m)) kept l sor sorted' := by
 have hen : ∀ o ∈ l, ∀ m, f o = m → (ns' m,nam' m) = (ns o,name o) ∧
   ∃ m', f' o = m' ∧ (ns' m',nam' m') = (ns o,name o) ∧ (kept o → m = m') := by
  intro o ho m hm
  subst hm
  exact ⟨hk o,f' o,rfl,hk' o,hke o ho⟩
 obtain ⟨blt',sorted',hb',hs',ha⟩ := exists_rebuilt
  (fun o => (ns o,name o)) (fun m => (ns' m,nam' m)) (forall₂_build f l) hso hen
 obtain rfl := eq_map_of_forall₂ hb'
 exact ⟨sorted',hs',keepsEntries_of_forall₂ (nodup_keys hn) ha⟩

lemma SecretStore.AgreesOn.symm {keys : List String} (h : sto.AgreesOn sto' keys) :
  sto'.AgreesOn sto keys := fun k hk => (h k hk).symm

lemma exists_isPolicyMessage (hp : p ∈ objs.policies) {m : PolicyMessage}
  (h : IsPolicyMessage lib (objs.prefetch sto) p m) : (m.ns,m.name) = (p.ns,p.name) ∧
   ∃ m', IsPolicyMessage lib (objs.prefetch sto') p m' ∧ (m'.ns,m'.name) = (p.ns,p.name) ∧
    (sto.AgreesOn sto' (policySecretRefs p) → m = m') := by
 obtain ⟨txs,hpe,rfl⟩ := h
 refine ⟨rfl,policyMessage lib (objs.prefetch sto') p txs,⟨txs,hpe,rfl⟩,rfl,?_⟩
 intro ha
 have hsa := sameSecrets_prefetch (policySecretRefs_subset hp) ha
 rw [policyMessage,hsa.buildPolicy_eq]
 rfl

lemma exists_of_mem_buildL4Listeners {bc : BuildContext} {gws : List ProxyGateway}
  {eps : String → Option (List LabelledEndpoint)} {rts : List ProxyRoute}
  {m : L4Listener} (h : m ∈ buildL4Listeners (gws.map (buildGateway bc)) eps rts) :
  ∃ gw ∈ gws, (∃ lis ∈ gw.listeners, m.name = gw.ns ++ "-" ++ gw.name ++ "-" ++ lis.name) ∧
   m ∈ buildL4Listeners [buildGateway bc gw] eps rts := by
 obtain ⟨msg,hms,hm⟩ := mem_flatMap.mp h
 obtain ⟨gw,hg,rfl⟩ := mem_map.mp hms
 obtain ⟨lis,hl,hb⟩ := mem_filterMap.mp hm
 obtain ⟨src,hr,hc⟩ := mem_filterMap.mp hl
 refine ⟨gw,hg,⟨src,hr,?_⟩,by simpa [buildL4Listeners,l4ListenersFor] using hm⟩
 rw [(shown_of_buildL4Listener hb).1,buildListener_eq_some hc]
 rfl

lemma mem_buildL4Listeners_of_agrees {eps : String → Option (List LabelledEndpoint)}
  {m : L4Listener} (ha : ∀ gw ∈ objs.gateways, ∀ lis ∈ gw.listeners,
   m.name = gw.ns ++ "-" ++ gw.name ++ "-" ++ lis.name →
    sto.AgreesOn sto' (gatewaySecretRefs gw))
  (h : m ∈ buildL4Listeners (objs.gateways.map (buildGateway (objs.prefetch sto).toBuildContext))
   eps objs.routes) :
  m ∈ buildL4Listeners (objs.gateways.map (buildGateway (objs.prefetch sto').toBuildContext))
   eps objs.routes := by
 obtain ⟨gw,hg,⟨lis,hl,hn⟩,hm⟩ := exists_of_mem_buildL4Listeners h
 rw [buildGateway_prefetch_eq hg (ha gw hg lis hl hn)] at hm
 simp only [buildL4Listeners,l4ListenersFor,flatMap_cons,flatMap_nil,append_nil] at hm
 exact mem_flatMap.mpr ⟨_,mem_map_of_mem hg,hm⟩

/-- Other secrets leave the rest of the snapshot as it is. -/
lemma IsContent.exists_isolated {c : SnapshotContent} (h : IsContent lib (objs.prefetch sto) c)
  (hb' : buildGateways (objs.prefetch sto').toGatewayContext ≠ none) :
  ∃ c', IsContent lib (objs.prefetch sto') c' ∧ Isolated objs sto sto' c c' := by
 obtain ⟨msgs',hm'⟩ := ne_none_iff_exists'.mp hb'
 obtain rfl := eq_of_buildGateways hm'
 obtain ⟨msgs,hm,ho⟩ := h.gateways
 obtain rfl := eq_of_buildGateways hm
 obtain ⟨gws,hg,hk⟩ := Snapshot.exists_isolated (buildGateway (objs.prefetch sto).toBuildContext)
  (buildGateway (objs.prefetch sto').toBuildContext) Config.Gateway.ns Config.Gateway.name
  objs.gateways_nodup (fun _ => rfl) (fun _ => rfl)
  (fun gw hw => buildGateway_prefetch_eq hw) ho
 obtain ⟨cls,hc,hke⟩ := Snapshot.exists_isolated
  (buildCluster lib (objs.prefetch sto).toBuildContext)
  (buildCluster lib (objs.prefetch sto').toBuildContext) Config.Cluster.ns Config.Cluster.name
  objs.backends_nodup (fun _ => rfl) (fun _ => rfl) (fun b hb ha =>
   (sameSecrets_prefetch (backendSecretRefs_subset hb) ha).buildCluster_eq lib) h.clusters
 obtain ⟨blt,hpo,hpl⟩ := h.policies
 obtain ⟨blt',pols,hp',ho',hsa⟩ := exists_rebuilt
  (fun p : ProxyPolicy => (p.ns,p.name)) (fun m : PolicyMessage => (m.ns,m.name)) hpo
  hpl fun p hp m => exists_isPolicyMessage hp
 obtain ⟨msgs,hm,h4⟩ := h.l4Listeners
 obtain rfl := eq_of_buildGateways hm
 obtain ⟨l4,hl'⟩ := exists_sortedBy L4Listener.name (buildL4Listeners
  (objs.gateways.map (buildGateway (objs.prefetch sto').toBuildContext)) c.endpoints
  objs.routes)
 refine ⟨{ c with gateways := gws, clusters := cls, policies := pols
                  l4Listeners := l4 },?_,?_⟩
 · exact { h with
    gateways := ⟨_,hm',hg⟩
    clusters := hc
    policies := ⟨blt',hp',ho'⟩
    l4Listeners := ⟨_,hm',hl'⟩ }
 · refine ⟨hk,hke,
    keepsEntries_of_forall₂ (nodup_keys objs.policies_nodup) hsa,?_,rfl,rfl,rfl,rfl,rfl,
    rfl⟩
   intro m ha
   rw [h4.1.mem_iff,hl'.1.mem_iff]
   exact ⟨mem_buildL4Listeners_of_agrees ha,mem_buildL4Listeners_of_agrees
    fun gw hw lis hl hn => (ha gw hw lis hl hn).symm⟩

lemma exists_isContent_prefetch_iff :
  (∃ c, IsContent lib (objs.prefetch sto) c) ↔ RefsSet sto objs := by
 rw [← buildGateways_prefetch_ne_none_iff]
 constructor
 · rintro ⟨c,hc⟩
   obtain ⟨gws,hb,-⟩ := hc.gateways
   rw [hb]
   exact some_ne_none _
 · intro h
   obtain ⟨gws,hb⟩ := ne_none_iff_exists'.mp h
   obtain ⟨c,hc⟩ := exists_isSortedContent hb
   obtain ⟨l4,svcs,hf⟩ := hc.exists_isContent
   exact ⟨_,hf⟩

end

theorem survives_iff (lib : BuilderLibrary) (objs : ClusterObjects) (store : SecretStore) :
  Survives lib objs store ↔ RefsSet store objs := by
 constructor
 · intro h
   exact exists_isContent_prefetch_iff.mp h.builds
 · intro h
   refine ⟨exists_isContent_prefetch_iff.mpr h,?_,?_⟩
   · intro get gw hg
     exact isSome_validateAndUpdateStatus fun lis hl => (h gw hg lis hl).1
   · intro store' hb' c hc
     have hr' := exists_isContent_prefetch_iff.mp hb'
     exact hc.exists_isolated (buildGateways_prefetch_ne_none_iff.mpr hr')

def acmeObjects : ClusterObjects :=
 { ofRoutes [] nodup_nil with
   gateways := [{ name := "plain", ns := "shop"
                  listeners := [{ name := "web", port := 80, port_valid := httpPort_valid
                                  protocol := .http }] },
    { name := "secure", ns := "shop"
      listeners := [{ name := "web", port := 443, port_valid := httpsPort_valid
                      protocol := .https, tls := some {} }] }]
   gateways_nodup := by decide }

/-- Also not for the gateway without TLS, and the validation does not end either. -/
theorem acme_listener_stops_every_build :
  (∀ lib store, ¬ ∃ c, IsContent lib (acmeObjects.prefetch store) c) ∧
   ∀ get, (acmeObjects.gateways.map (validateAndUpdateStatus get)).map Option.isSome =
    [true,false] := by
 constructor
 · intro lib store hb
   obtain ⟨hr,-⟩ := exists_isContent_prefetch_iff.mp hb _
    (mem_cons_of_mem _ mem_cons_self) _ mem_cons_self
   exact hr {} rfl rfl
 · intro get
   rfl

end NovaEdge.Snapshot
