import NovaEdge.MeshAuthorization

/-! The SPIFFE identities of agents: what is built from the names of a node can be read back, and
two identities coincide only if the names in them do. -/
namespace NovaEdge.Mesh
open List String

def buildSPIFFEID (trustDomain nodeName : String) (fedCfg : Option FederationConfig) : String :=
 match fedCfg.filter (·.isActive) with
 | some fed => "spiffe://" ++ fed.federationID ++ "/cluster/" ++ fed.clusterName ++ "/agent/" ++ nodeName
 | none => "spiffe://" ++ trustDomain ++ "/agent/" ++ nodeName

def isHostChar (c : Char) : Bool :=
 c.isAlphanum || ['-','.','_','~','!','$','&','\'','(',')','*','+',',',';','='].contains c

def isSegmentChar (c : Char) : Bool := isHostChar c || c = ':' || c = '@'

/-- A URL of a host name and a path of plain segments is parsed into these. -/
def MeshLibrary.ParsesPlainUrls (lib : MeshLibrary) : Prop :=
 ∀ (host : String) (segments : List String), host ≠ "" → (host.toList.all isHostChar) →
  (∀ s ∈ segments, s.toList.all isSegmentChar) →
   let path := "/" ++ intercalate "/" segments
   lib.parseUrl ("spiffe://" ++ host ++ path) = some ⟨"spiffe",host,path⟩

/-- Names of valid characters. -/
structure ValidNames (trustDomain nodeName : String) (fedCfg : Option FederationConfig) : Prop where
 trustDomain_ne : trustDomain ≠ ""
 trustDomain : trustDomain.toList.all isHostChar
 nodeName : nodeName.toList.all isSegmentChar
 federationID : ∀ fed ∈ fedCfg, fed.federationID.toList.all isHostChar
 clusterName : ∀ fed ∈ fedCfg, fed.clusterName.toList.all isSegmentChar

/-- Host, cluster and node of the identity that is built. -/
def identityNames (trustDomain nodeName : String) (fedCfg : Option FederationConfig) :
  String × Option String × String :=
 match fedCfg.filter (·.isActive) with
 | some fed => (fed.federationID,some fed.clusterName,nodeName)
 | none => (trustDomain,none,nodeName)

/-- What is read back of an identity. -/
def agentIdentity (id : String) : String × Option String × String → SourceIdentity
 | (host,cluster,node) =>
  { spiffeID := id
    trustDomain := host
    federationID := if cluster.isSome then host else ""
    clusterName := cluster.getD ""
    nodeName := node }

/-- Federation is active, and the identity is of an allowed cluster of it. -/
def TLSProvider.AllowsCluster (p : TLSProvider) (identity : SourceIdentity) : Prop :=
 ∃ fed ∈ p.fedCfg, fed.isActive = true ∧ identity.federationID = fed.federationID ∧
  identity.clusterName ∈ fed.allowedClusters

lemma slash_notMem {s : String} (h : s.toList.all isSegmentChar) : '/' ∉ s.toList :=
 fun hm => absurd (all_eq_true.mp h _ hm) (by decide)

lemma pathSegments_intercalate {seg : List String} (hne : seg ≠ [])
  (h : ∀ s ∈ seg, '/' ∉ s.toList) :
  pathSegments ("/" ++ intercalate "/" seg) = seg := by
 have hs : (['/'].intercalate (seg.map toList)).splitOn '/' = seg.map toList :=
  splitOn_intercalate '/' (by simpa using h) (by simpa using hne)
 simp [pathSegments,toList_intercalate,hs,Function.comp_def]

section
variable {lib : MeshLibrary} (hurl : lib.ParsesPlainUrls) {t n : String}
 {f : Option FederationConfig}
include hurl

/-- The path of an identity is joined from its segments. -/
lemma parseUrl_segments {host id : String} {seg : List String} (hh : host ≠ "")
  (hc : host.toList.all isHostChar) (hs : ∀ s ∈ seg, s.toList.all isSegmentChar)
  (hne : seg ≠ []) (hid : id = "spiffe://" ++ host ++ ("/" ++ intercalate "/" seg)) :
  ∃ path, lib.parseUrl id = some ⟨"spiffe",host,path⟩ ∧ pathSegments path = seg :=
 ⟨_,hid ▸ hurl host seg hh hc hs,pathSegments_intercalate hne fun s hm => slash_notMem (hs s hm)⟩

/-- What is built from valid names is read back. -/
lemma parse_build (h : ValidNames t n f) : parseSPIFFEID lib (buildSPIFFEID t n f) =
   agentIdentity (buildSPIFFEID t n f) (identityNames t n f) := by
 rw [parseSPIFFEID,buildSPIFFEID,identityNames]
 cases hf : f.filter (·.isActive) with
 | none =>
  have hs : ∀ s ∈ ["agent",n], s.toList.all isSegmentChar := by
   simp only [forall_mem_cons]
   exact ⟨by decide,h.nodeName,nofun⟩
  have hid : "spiffe://" ++ t ++ "/agent/" ++ n =
    "spiffe://" ++ t ++ ("/" ++ intercalate "/" ["agent",n]) :=
   toList_inj.mp (by simp)
  obtain ⟨path,hp,hq⟩ := parseUrl_segments hurl h.trustDomain_ne h.trustDomain hs (by simp) hid
  simp [agentIdentity,hp,hq,h.trustDomain_ne]
 | some fed =>
  obtain ⟨hm,ha⟩ := filter_eq_some_iff.mp hf
  have hn : fed.federationID ≠ "" ∧ fed.clusterName ≠ "" := by
   simpa [FederationConfig.isActive] using ha
  have hs : ∀ s ∈ ["cluster",fed.clusterName,"agent",n], s.toList.all isSegmentChar := by
   simp only [forall_mem_cons]
   exact ⟨by decide,h.clusterName fed hm,by decide,h.nodeName,nofun⟩
  have hid : "spiffe://" ++ fed.federationID ++ "/cluster/" ++ fed.clusterName ++ "/agent/" ++
    n = "spiffe://" ++ fed.federationID ++
     ("/" ++ intercalate "/" ["cluster",fed.clusterName,"agent",n]) :=
   toList_inj.mp (by simp)
  obtain ⟨path,hp,hq⟩ := parseUrl_segments hurl hn.1 (h.federationID fed hm) hs (by simp) hid
  simp [agentIdentity,hp,hq,hn]

omit hurl in
lemma clusterName_ne : ∀ c ∈ (identityNames t n f).2.1, c ≠ "" := by
 rw [identityNames]
 cases hf : f.filter (·.isActive) with
 | none => simp
 | some fed =>
  have ha := (filter_eq_some_iff.mp hf).2
  simp_all [FederationConfig.isActive]

/-- A cluster's name is not empty, so that the two formats differ. -/
lemma build_inj {t' n' : String} {f' : Option FederationConfig} (h : ValidNames t n f)
  (h' : ValidNames t' n' f') (he : buildSPIFFEID t n f = buildSPIFFEID t' n' f') :
  identityNames t n f = identityNames t' n' f' := by
 have hp := parse_build hurl h
 rw [he,parse_build hurl h'] at hp
 have hc := @clusterName_ne t n f
 have hc' := @clusterName_ne t' n' f'
 generalize identityNames t n f = x at hp hc ⊢
 generalize identityNames t' n' f' = y at hp hc' ⊢
 obtain ⟨host,_ | cluster,node⟩ := x <;> obtain ⟨host',_ | cluster',node'⟩ := y <;>
  simp_all [agentIdentity]

omit hurl in
lemma build_of_names {t' n' : String} {f' : Option FederationConfig} :
  identityNames t n f = identityNames t' n' f' → buildSPIFFEID t n f = buildSPIFFEID t' n' f' := by
 unfold identityNames buildSPIFFEID
 cases f.filter (·.isActive) <;> cases f'.filter (·.isActive) <;> simp +contextual

omit hurl in
lemma spiffeID_of_isFederated {id : String} (hfed : (parseSPIFFEID lib id).isFederated = true) :
  (parseSPIFFEID lib id).spiffeID = id := by
 revert hfed
 unfold parseSPIFFEID
 cases lib.parseUrl id with
 | none => simp [SourceIdentity.isFederated]
 | some u =>
  dsimp only
  split_ifs with hu
  · simp [SourceIdentity.isFederated]
  · split <;> simp

omit hurl in
lemma validate_federated_iff (p : TLSProvider) {id : String} (hne : id ≠ "")
  (hfed : (parseSPIFFEID lib id).isFederated = true) :
  p.validatePeerSPIFFEID lib id = true ↔ p.AllowsCluster (parseSPIFFEID lib id) := by
 have hid : (parseSPIFFEID lib id).spiffeID ≠ "" := by rwa [spiffeID_of_isFederated hfed]
 cases hf : p.fedCfg with
 | none => simp [TLSProvider.validatePeerSPIFFEID,TLSProvider.AllowsCluster,hne,hid,hfed,hf]
 | some fed =>
  cases ha : fed.isActive <;>
   simp [TLSProvider.validatePeerSPIFFEID,TLSProvider.AllowsCluster,
    FederationConfig.isClusterAllowed,hne,hid,hfed,hf,ha]

end

/-- An identity holds its host, its node and, under an active federation, its cluster, and nothing
else: the trust domain is not in it then. -/
theorem spiffe_identities_roundtrip {lib : MeshLibrary} (hurl : lib.ParsesPlainUrls) :
  (∀ t n f, ValidNames t n f → parseSPIFFEID lib (buildSPIFFEID t n f) =
     agentIdentity (buildSPIFFEID t n f) (identityNames t n f)) ∧
   (∀ t n f t' n' f', ValidNames t n f → ValidNames t' n' f' →
    (buildSPIFFEID t n f = buildSPIFFEID t' n' f' ↔ identityNames t n f = identityNames t' n' f')) ∧
   ∀ (p : TLSProvider) id, id ≠ "" → (parseSPIFFEID lib id).isFederated = true →
    (p.validatePeerSPIFFEID lib id = true ↔ p.AllowsCluster (parseSPIFFEID lib id)) :=
 ⟨fun _ _ _ h => parse_build hurl h,
  fun _ _ _ _ _ _ h h' => ⟨build_inj hurl h h',build_of_names⟩,
  fun p _ => validate_federated_iff p⟩

/-- URLs cut after the scheme and at the first slash. -/
def plainUrls : MeshLibrary where
 parseUrl text :=
  let rest := text.toList.drop 9
  some ⟨"spiffe",ofList (rest.takeWhile (· ≠ '/')),ofList (rest.dropWhile (· ≠ '/'))⟩
 pathMatch pattern s := some (pattern = s)
 equalFold a b := a = b

lemma plainUrls_parsesPlainUrls : plainUrls.ParsesPlainUrls := by
 intro host segments _ hc _
 have hn : ∀ c ∈ host.toList, (c ≠ '/' : Bool) = true := by
  intro c hm
  have hne : c ≠ '/' := fun he => absurd (he ▸ all_eq_true.mp hc c hm) (by decide)
  simpa using hne
 have hd : ("spiffe://" ++ host ++ ("/" ++ intercalate "/" segments)).toList.drop 9 =
   host.toList ++ '/' :: (intercalate "/" segments).toList := by simp
 simp only [plainUrls]
 rw [hd,takeWhile_append_of_pos hn,dropWhile_append_of_pos hn]
 simp [← toList_inj]

def sampleFederation : FederationConfig := ⟨"mesh.example","east",["west"]⟩

lemma sampleFederation_valid {trustDomain : String} (hne : trustDomain ≠ "")
  (h : trustDomain.toList.all isHostChar) :
  ValidNames trustDomain "agent" (some sampleFederation) where
 trustDomain_ne := hne
 trustDomain := h
 nodeName := by decide
 federationID := by simp +decide
 clusterName := by simp +decide

/-- The node is called as a keyword of the format. -/
theorem keyword_identity_roundtrip :
  (parseSPIFFEID plainUrls (buildSPIFFEID "a.example" "agent" (some sampleFederation))).nodeName =
   "agent" := by
 rw [(spiffe_identities_roundtrip plainUrls_parsesPlainUrls).1 _ _ _
  (sampleFederation_valid (by decide) (by decide))]
 decide

/-- Two trust domains of one active federation. -/
theorem trust_domains_one_identity :
  (ValidNames "a.example" "agent" (some sampleFederation) ∧
   ValidNames "b.example" "agent" (some sampleFederation)) ∧
   buildSPIFFEID "a.example" "agent" (some sampleFederation) =
    buildSPIFFEID "b.example" "agent" (some sampleFederation) :=
 ⟨⟨sampleFederation_valid (by decide) (by decide),sampleFederation_valid (by decide) (by decide)⟩,
  by decide⟩

end NovaEdge.Mesh
