import NovaEdge.UrlParsing
import NovaEdge.MeshAuthorization

/-! Mesh identities. The controller checks the requested node name against the peer's certificate
and signs a certificate with a SPIFFE URI for it, from which the controller itself and the agents
then read the node name back. -/
namespace NovaEdge.Mesh
open PercentEncoding UrlParsing List

structure Certificate where
 commonName : Bytes := []
 uris : List URL := []
 deriving DecidableEq

structure CertificateRequest where
 commonName : Bytes := []
 uris : List Bytes := []

structure TrustDomain where
 name : Bytes
 name_ne : name ≠ []
 name_unreserved : ∀ b ∈ name, isUnreserved b

inductive SigningError
 | notInitialized
 | undecodedPEM
 | unparsedRequest
 | requestSignature
 | uriMismatch (sans : List Bytes) (expected : Bytes)
 | commonNameMismatch (commonName nodeName : Bytes)
 | serialNumber
 | spiffeURI
 | signature
 | signedCertificate
 deriving DecidableEq

structure CertificateLibrary where
 authority : AuthorityParser
 decodeRequest : Bytes → Except SigningError CertificateRequest
 hostAccepted : Bytes → Bool

structure SigningOutcome where
 (serialNumber signature : Bool := true)

structure MeshCA where
 trustDomain : TrustDomain
 initialized : Bool := true

def spiffeID (td : TrustDomain) (nodeName : Bytes) : Bytes :=
 ascii "spiffe" ++ ascii "://" ++ td.name ++ (ascii "/agent/" ++ nodeName)

def validateCSRIdentity (csr : CertificateRequest) (nodeName : Bytes) (td : TrustDomain) :
  Except SigningError Unit :=
 let expectedSPIFFE := spiffeID td nodeName
 if expectedSPIFFE ∈ csr.uris then .ok ()
 else if csr.uris = [] ∧ csr.commonName = nodeName then .ok ()
 else if csr.uris ≠ [] then .error (.uriMismatch csr.uris expectedSPIFFE)
 else .error (.commonNameMismatch csr.commonName nodeName)

/-- The certificate holds the printed URI, which whoever reads the certificate parses again. -/
def MeshCA.issue (lib : CertificateLibrary) (csr : CertificateRequest) (spiffeURI : URL) :
  Except SigningError Certificate :=
 match parse lib.authority spiffeURI.string with
 | some uri =>
  if lib.hostAccepted uri.host then .ok { commonName := csr.commonName, uris := [uri] }
  else .error .signedCertificate
 | none => .error .signedCertificate

def MeshCA.signCSR (ca : MeshCA) (lib : CertificateLibrary) (made : SigningOutcome)
  (csrPEM nodeName : Bytes) : Except SigningError Certificate :=
 if ¬ca.initialized then .error .notInitialized
 else match lib.decodeRequest csrPEM with
 | .error e => .error e
 | .ok csr => match validateCSRIdentity csr nodeName ca.trustDomain with
  | .error e => .error e
  | .ok () =>
   if ¬made.serialNumber then .error .serialNumber
   else match parse lib.authority (spiffeID ca.trustDomain nodeName) with
   | none => .error .spiffeURI
   | some spiffeURI =>
    if ¬made.signature then .error .signature else MeshCA.issue lib csr spiffeURI

inductive PeerContext
 | noPeer
 | noTLS
 | tls (peerCertificates : List Certificate)

inductive IdentityError
 | spiffeMismatch (requestedNode : Bytes)
 | commonNameMismatch (requestedNode commonName : Bytes)
 | unrecognized
 deriving DecidableEq

def agentNode (uri : URL) : Option Bytes :=
 if uri.scheme = ascii "spiffe" then
  match uri.path.splitOn slash with
  | _::part::node::_ => if part = ascii "agent" then some node else none
  | _ => none
 else none

/-- Skipped without a client certificate. All SPIFFE URIs are tried before the common name. -/
def validatePeerNodeName (peer : PeerContext) (requestedNode : Bytes) : Except IdentityError Unit :=
 match peer with
 | .tls (peerCert::_) =>
  let nodes := peerCert.uris.filterMap agentNode
  if requestedNode ∈ nodes then .ok ()
  else if nodes ≠ [] then .error (.spiffeMismatch requestedNode)
  else if peerCert.commonName ≠ [] then
   if peerCert.commonName = requestedNode then .ok ()
   else .error (.commonNameMismatch requestedNode peerCert.commonName)
  else .error .unrecognized
 | _ => .ok ()

inductive RequestError
 | permissionDenied (e : IdentityError)
 | unavailable
 | csrRequired
 | nodeNameRequired
 | internal (e : SigningError)
 deriving DecidableEq

def requestMeshCertificate (meshCA : Option MeshCA) (lib : CertificateLibrary)
  (made : SigningOutcome) (peer : PeerContext) (csr nodeName : Bytes) :
  Except RequestError Certificate :=
 match validatePeerNodeName peer nodeName with
 | .error e => .error (.permissionDenied e)
 | .ok () => match meshCA with
  | none => .error .unavailable
  | some ca =>
   if csr = [] then .error .csrRequired
   else if nodeName = [] then .error .nodeNameRequired
   else (ca.signCSR lib made csr nodeName).mapError .internal

def text (s : Bytes) : String := String.ofList (s.map fun b => Char.ofNat b.toNat)

def urlLibrary (lib : MeshLibrary) (authority : AuthorityParser) : MeshLibrary :=
 { lib with
   parseUrl := fun rawURL => (parse authority (ascii rawURL)).map fun u =>
    { scheme := text u.scheme, host := text u.host, path := text u.path } }

def Certificate.presented (c : Certificate) : ConnectionState :=
 [c.uris.map fun uri => { scheme := text uri.scheme, text := text uri.string }]

def Certificate.identity (c : Certificate) (lib : MeshLibrary) (authority : AuthorityParser) :
  SourceIdentity :=
 parseSPIFFEID (urlLibrary lib authority) (peerSPIFFEID (some c.presented))

def Certificate.Authenticates (c : Certificate) (nodeName : Bytes) : Prop :=
 validatePeerNodeName (.tls [c]) nodeName = .ok ()

instance (c : Certificate) (nodeName : Bytes) : Decidable (c.Authenticates nodeName) :=
 inferInstanceAs (Decidable (_ = _))

/-- Controller and agents read this node name, and no other, from a certificate. -/
def Certificate.Identifies (c : Certificate) (lib : MeshLibrary) (authority : AuthorityParser)
  (nodeName : Bytes) : Prop :=
 (∀ node, c.Authenticates node ↔ node = nodeName) ∧
  (c.identity lib authority).nodeName = text nodeName

def PlainName (nodeName : Bytes) : Prop :=
 ∀ b ∈ nodeName, b ≠ slash ∧ b ≠ question ∧ b ≠ numberSign ∧ b ≠ percent

inductive Obtains (ca : MeshCA) (lib : CertificateLibrary) (allowed : Bytes → Prop)
  (held : Certificate) : Bytes → Certificate → Prop
 | first {made : SigningOutcome} {chain : List Certificate} {csr nodeName : Bytes}
   {c : Certificate} (hname : allowed nodeName)
   (hrequest : requestMeshCertificate (some ca) lib made (.tls (held::chain)) csr nodeName =
    .ok c) : Obtains ca lib allowed held nodeName c
 | next {made : SigningOutcome} {chain : List Certificate} {csr nodeName nodeName' : Bytes}
   {c c' : Certificate} (hobtained : Obtains ca lib allowed held nodeName c)
   (hname : allowed nodeName')
   (hrequest : requestMeshCertificate (some ca) lib made (.tls (c::chain)) csr nodeName' =
    .ok c') : Obtains ca lib allowed held nodeName' c'

lemma text_toList (s : Bytes) : (text s).toList = s.map fun b => Char.ofNat b.toNat :=
 String.toList_ofList

lemma toNat_ofNat_byte : ∀ b : UInt8, (Char.ofNat b.toNat).toNat = b.toNat :=
 forall_byte (by decide +kernel)

@[simp] lemma ascii_text (s : Bytes) : ascii (text s) = s := by
 rw [ascii,text_toList,map_map]
 conv_rhs => rw [← map_id s]
 refine map_congr_left fun b _ => ?_
 simp [toNat_ofNat_byte]

lemma ofNat_toNat_eq_slash : ∀ b : UInt8, Char.ofNat b.toNat = '/' ↔ b = slash :=
 forall_byte (by decide +kernel)

lemma splitOn_eq_takeWhile_cons {α : Type*} [DecidableEq α] (sep : α) (s : List α) :
  ∃ rest, s.splitOn sep = s.takeWhile (· ≠ sep)::rest := by
 induction s with
 | nil => exact ⟨[],by simp⟩
 | cons b s ih =>
  obtain ⟨rest,hr⟩ := ih
  rw [splitOn_cons_eq_if_modifyHead]
  by_cases hb : b = sep
  · exact ⟨s.splitOn sep,by simp [hb]⟩
  · exact ⟨rest,by simp [hb,hr]⟩

def pathPart (nodeName : Bytes) : Bytes := nodeName.takeWhile staysInPath

section
variable {td : TrustDomain} {auth : AuthorityParser} {nn : Bytes} {u uri : URL}

structure AgentURI (td : TrustDomain) (decoded : Bytes) (u : URL) : Prop where
 withAuthority : u.WithAuthority
 scheme_eq : u.scheme = ascii "spiffe"
 host_eq : u.host = td.name
 path_eq : u.path = ascii "/agent/" ++ decoded

lemma TrustDomain.isAuthority (td : TrustDomain) : IsAuthority (ascii "spiffe") td.name :=
 ⟨by decide,all_eq_true.mp (by decide),td.name_unreserved⟩

lemma isPath_agent {name : Bytes} (h : ∀ b ∈ name, b ≠ question ∧ b ≠ numberSign) :
  IsPath (ascii "/agent/" ++ name) where
 clean b hb := by
  rcases mem_append.mp hb with hb | hb
  · exact ne_of_all_staysInPath (by decide) b hb
  · exact h b hb
 absolute := rfl

lemma exists_agentURI (hp : parse auth (spiffeID td nn) = some u) :
  ∃ dec, unescape (pathPart nn) = some dec ∧ AgentURI td dec u := by
 have hsp : spiffeID td nn = ascii "spiffe" ++ ascii "://" ++ td.name ++
   (ascii "/agent/" ++ pathPart nn ++ nn.dropWhile staysInPath) := by
  rw [spiffeID,pathPart,append_assoc (ascii "/agent/"),takeWhile_append_dropWhile]
 rw [hsp] at hp
 obtain ⟨hu,hc,hh,ht⟩ := eq_of_parse_authority auth td.isAuthority
  (isPath_agent fun _ => ne_of_mem_takeWhile) (isSuffix_dropWhile nn) hp
 rw [unescape_append_of_notMem (by decide)] at ht
 obtain ⟨dec,hde,hup⟩ := map_eq_some_iff.mp ht
 exact ⟨dec,hde,hu,hc,hh,hup.symm⟩

lemma AgentURI.text_scheme {dec : Bytes} (hu : AgentURI td dec u) : text u.scheme = "spiffe" := by
 rw [hu.scheme_eq]
 decide

lemma AgentURI.parse_string {dec : Bytes} (hu : AgentURI td dec u)
  (hp : parse auth u.string = some uri) : AgentURI td dec uri := by
 obtain ⟨hr,hc,hh,ht⟩ := hu.withAuthority.eq_of_parse_string auth hp
 exact ⟨hr,hc.trans hu.scheme_eq,hh.trans hu.host_eq,ht.trans hu.path_eq⟩

lemma suffix_of_plainName (hn : PlainName nn)
  (hp : parse auth (spiffeID td nn) = some u) : u.suffix = [] :=
 suffix_of_parse_authority_path auth td.isAuthority
  (isPath_agent fun b hb => ⟨(hn b hb).2.1,(hn b hb).2.2.1⟩) hp

lemma AgentURI.agentNode_eq {dec : Bytes} (hu : AgentURI td dec uri) :
  agentNode uri = some (dec.takeWhile (· ≠ slash)) := by
 obtain ⟨rest,hr⟩ := splitOn_eq_takeWhile_cons slash dec
 have hp : uri.path.splitOn slash = []::ascii "agent" :: dec.takeWhile (· ≠ slash)::rest := by
  have ht : uri.path = [] ++ slash::(ascii "agent" ++ slash::dec) := hu.path_eq
  rw [ht,splitOn_append_cons_self_of_not_mem (by decide),
   splitOn_append_cons_self_of_not_mem (by decide),hr]
 simp [agentNode,hu.scheme_eq,hp]

lemma pathSegments_text (dec : Bytes) : ∃ rest, pathSegments (text (ascii "/agent/" ++ dec)) =
      "agent" :: text (dec.takeWhile (· ≠ slash))::rest := by
 have hl : (ascii "/agent/").map (fun b => Char.ofNat b.toNat) = "/agent/".toList := by decide
 have hc : (text (ascii "/agent/" ++ dec)).toList =
   '/' :: ("agent".toList ++ '/' :: dec.map fun b => Char.ofNat b.toNat) := by
  rw [text_toList,map_append,hl]
  rfl
 obtain ⟨rest,hr⟩ := splitOn_eq_takeWhile_cons '/' (dec.map fun b => Char.ofNat b.toNat)
 have hn : (dec.map fun b => Char.ofNat b.toNat).takeWhile (· ≠ '/') =
   (dec.takeWhile (· ≠ slash)).map fun b => Char.ofNat b.toNat := by
  rw [takeWhile_map]
  congr 2
  funext b
  simp [ofNat_toNat_eq_slash]
 refine ⟨rest.map String.ofList,?_⟩
 unfold pathSegments
 rw [hc]
 change List.map String.ofList (List.splitOn '/' ("agent".toList ++ '/' :: _)) = _
 rw [splitOn_append_cons_self_of_not_mem (by decide),hr,hn]
 rfl

lemma AgentURI.nodeName_eq {dec spi : Bytes} (lib : MeshLibrary)
  (hu : AgentURI td dec uri) (hp : parse auth spi = some uri) :
  (parseSPIFFEID (urlLibrary lib auth) (text spi)).nodeName = text (dec.takeWhile (· ≠ slash)) := by
 obtain ⟨rest,hse⟩ := pathSegments_text dec
 have hh : text uri.host ≠ "" := by
  intro h
  apply td.name_ne
  rw [← hu.host_eq,← ascii_text uri.host,h]
  rfl
 simp only [parseSPIFFEID,urlLibrary,ascii_text,hp,Option.map_some,hu.text_scheme,
  hh,ne_eq,not_true_eq_false,or_self,if_false,hu.path_eq,hse]

end

section
variable {ca : MeshCA} {lib : CertificateLibrary} {made : SigningOutcome}
 {csr nn : Bytes} {c : Certificate}

lemma uri_of_issue {rq : CertificateRequest} {u : URL} (h : MeshCA.issue lib rq u = .ok c) :
  ∃ uri, parse lib.authority u.string = some uri ∧ c.uris = [uri] := by
 unfold MeshCA.issue at h
 split at h
 case h_1 uri hu =>
  split_ifs at h
  cases h
  exact ⟨uri,hu,rfl⟩
 case h_2 => cases h

lemma uri_of_signCSR (h : ca.signCSR lib made csr nn = .ok c) :
  ∃ u uri, parse lib.authority (spiffeID ca.trustDomain nn) = some u ∧
   parse lib.authority u.string = some uri ∧ c.uris = [uri] := by
 -- every branch but the last one is an error
 unfold MeshCA.signCSR at h
 split at h
 · cases h
 split at h
 · cases h
 split at h
 · cases h
 split at h
 · cases h
 split at h
 case h_1 => cases h
 case h_2 u hu =>
  split at h
  · cases h
  obtain ⟨uri,hui,hr⟩ := uri_of_issue h
  exact ⟨u,uri,hu,hui,hr⟩

lemma of_requestMeshCertificate {peer : PeerContext}
  (h : requestMeshCertificate (some ca) lib made peer csr nn = .ok c) :
  validatePeerNodeName peer nn = .ok () ∧ ca.signCSR lib made csr nn = .ok c := by
 unfold requestMeshCertificate at h
 cases hp : validatePeerNodeName peer nn with
 | error e => simp [hp] at h
 | ok =>
  simp only [hp] at h
  split_ifs at h
  cases hsi : ca.signCSR lib made csr nn with
  | error e => simp [hsi,Except.mapError] at h
  | ok c' =>
   obtain rfl : c' = c := by simpa [hsi,Except.mapError] using h
   exact ⟨rfl,rfl⟩

lemma authenticates_iff {uri : URL} {node : Bytes} (hu : c.uris = [uri])
  (hn : agentNode uri = some node) (req : Bytes) : c.Authenticates req ↔ req = node := by
 unfold Certificate.Authenticates validatePeerNodeName
 simp only [hu,filterMap_cons,hn,filterMap_nil,mem_singleton]
 by_cases h : req = node <;> simp [h]

lemma plainName_of_decoded {dec : Bytes} (hde : unescape (pathPart nn) = some dec)
  (ha : dec.takeWhile (· ≠ slash) = nn) : PlainName nn := by
 have hn : (pathPart nn).length ≤ nn.length := (takeWhile_sublist _).length_le
 have hf : (dec.takeWhile (· ≠ slash)).length ≤ dec.length :=
  (takeWhile_sublist _).length_le
 have hh := length_of_unescape hde
 rw [ha] at hf
 -- no step of the reading shortens the name, so none of them does anything
 have hr : pathPart nn = nn :=
  (takeWhile_sublist _).eq_of_length (by simp only [pathPart] at *; omega)
 have hp : percent ∉ nn := fun hm => by
  have := hh.2 (hr.symm ▸ hm)
  omega
 intro b hb
 have hl : b ≠ slash := by
  rw [← ha] at hb
  simpa using all_eq_true.mp all_takeWhile b hb
 have ht := ne_of_mem_takeWhile (hr.symm ▸ hb)
 exact ⟨hl,ht.1,ht.2,fun h => hp (h ▸ hb)⟩

lemma PlainName.decoded (h : PlainName nn) :
  unescape (pathPart nn) = some nn ∧ nn.takeWhile (· ≠ slash) = nn := by
 have hp : pathPart nn = nn := by
  rw [pathPart,takeWhile_eq_self_iff]
  intro b hb
  simp [staysInPath,(h b hb).2.1,(h b hb).2.2.1]
 have hl : nn.takeWhile (· ≠ slash) = nn := by
  rw [takeWhile_eq_self_iff]
  intro b hb
  simp [(h b hb).1]
 rw [hp]
 exact ⟨unescape_of_notMem fun hm => (h _ hm).2.2.2 rfl,hl⟩

lemma peerSPIFFEID_presented {uri : URL} (hu : c.uris = [uri]) (hc : text uri.scheme = "spiffe") :
  peerSPIFFEID (some c.presented) = text uri.string := by
 simp [peerSPIFFEID,Certificate.presented,hu,hc]

/-- A signed certificate identifies the requested node exactly if the name is a plain one. -/
lemma identifies_iff (al : MeshLibrary) (h : ca.signCSR lib made csr nn = .ok c) :
  c.Identifies al lib.authority nn ↔ PlainName nn := by
 obtain ⟨u,uri,hp,hr,hur⟩ := uri_of_signCSR h
 obtain ⟨decoded,hde,hu⟩ := exists_agentURI hp
 have hui := hu.parse_string hr
 have hn := authenticates_iff hur hui.agentNode_eq
 constructor
 · rintro ⟨hra,-⟩
   have hb : decoded.takeWhile (· ≠ slash) = nn := (hra _).mp ((hn _).mpr rfl)
   exact plainName_of_decoded hde hb
 · intro ha
   obtain ⟨hd',hb⟩ := ha.decoded
   obtain rfl : decoded = nn := mem_unique hde hd'
   rw [hb] at hn
   refine ⟨hn,?_⟩
   -- a plain name leaves nothing behind the path, so the text of the URI can be parsed again
   obtain ⟨uri',hr',hsu⟩ := hu.withAuthority.exists_parse_string lib.authority
    (suffix_of_plainName ha hp)
   obtain rfl : uri' = uri := mem_unique hr' hr
   obtain ⟨read,hrd,-⟩ := hui.withAuthority.exists_parse_string lib.authority hsu
   rw [Certificate.identity,peerSPIFFEID_presented hur hui.text_scheme,
    (hui.parse_string hrd).nodeName_eq al hrd,hb]

end

section
variable {ca : MeshCA} {lib : CertificateLibrary} {held : Certificate}

lemma authenticates_of_chain {c : Certificate} {cha : List Certificate} {nn : Bytes}
  (h : validatePeerNodeName (.tls (c::cha)) nn = .ok ()) : c.Authenticates nn := h

lemma Obtains.identifies (al : MeshLibrary) {nn : Bytes} {c : Certificate}
  (h : Obtains ca lib PlainName held nn c) :
  held.Authenticates nn ∧ c.Identifies al lib.authority nn := by
 induction h with
 | first hn hr =>
  obtain ⟨hp,hsi⟩ := of_requestMeshCertificate hr
  exact ⟨hp,(identifies_iff al hsi).mpr hn⟩
 | next ho hn hr ih =>
  obtain ⟨hh,ha,-⟩ := ih
  obtain ⟨hp,hsi⟩ := of_requestMeshCertificate hr
  -- the certificate presented stands for one name only
  obtain rfl := (ha _).mp (authenticates_of_chain hp)
  exact ⟨hh,(identifies_iff al hsi).mpr hn⟩

end

/-- Plain names are read as themselves, and lead to no certificate of another node. -/
theorem issued_identity_sound_iff (ca : MeshCA) (lib : CertificateLibrary)
  (agentLib : MeshLibrary) : (∀ (made : SigningOutcome) (csr nodeName : Bytes) (c : Certificate),
   ca.signCSR lib made csr nodeName = .ok c →
    (c.Identifies agentLib lib.authority nodeName ↔ PlainName nodeName)) ∧
  ∀ (held c : Certificate) (nodeName : Bytes), Obtains ca lib PlainName held nodeName c →
   held.Authenticates nodeName ∧ c.Identifies agentLib lib.authority nodeName :=
 ⟨fun _ _ _ _ hsi => identifies_iff agentLib hsi,fun _ _ _ ho => ho.identifies agentLib⟩

def commonNameLibrary : CertificateLibrary where
 authority :=
  { parse := fun host => if host.all isUnreserved then some host else none
    parse_name := fun _ h => if_pos (all_eq_true.mpr h) }
 decodeRequest := fun csr => .ok { commonName := csr }
 hostAccepted := fun _ => true

def clusterLocalCA : MeshCA where
 trustDomain := ⟨ascii "cluster.local",by decide,all_eq_true.mp (by decide)⟩

theorem plain_name_identified : Certificate.Identifies
      { commonName := ascii "node-b"
        uris := [{ scheme := ascii "spiffe", host := ascii "cluster.local"
                   path := ascii "/agent/node-b" }] }
      { parseUrl := fun _ => none, pathMatch := fun _ _ => none, equalFold := fun _ _ => false }
      commonNameLibrary.authority (ascii "node-b") := by
 have ha : (ascii "node-b").all fun b =>
   b ≠ slash && b ≠ question && b ≠ numberSign && b ≠ percent := by decide
 have hp : PlainName (ascii "node-b") := fun b hb => by
  simpa [and_assoc] using all_eq_true.mp ha b hb
 exact ((issued_identity_sound_iff clusterLocalCA commonNameLibrary _).1 {} (ascii "node-b")
  (ascii "node-b") _ (by decide +kernel)).mpr hp

/-- The common name `node-b/x` gives a certificate that is read as `node-b`. -/
theorem slash_in_name_gives_other_identity : ∃ c c' : Certificate,
   Obtains clusterLocalCA commonNameLibrary (fun _ => True) { commonName := ascii "node-b/x" }
    (ascii "node-b/x") c ∧
   c.Authenticates (ascii "node-b") ∧ ¬c.Authenticates (ascii "node-b/x") ∧
   Obtains clusterLocalCA commonNameLibrary (fun _ => True) { commonName := ascii "node-b/x" }
    (ascii "node-b") c' ∧
   c'.Authenticates (ascii "node-b") ∧
   ¬Certificate.Authenticates { commonName := ascii "node-b/x" } (ascii "node-b") := by
 have hf : requestMeshCertificate (some clusterLocalCA) commonNameLibrary {}
   (.tls [{ commonName := ascii "node-b/x" }]) (ascii "node-b/x") (ascii "node-b/x") =
    .ok { commonName := ascii "node-b/x"
          uris := [{ scheme := ascii "spiffe", host := ascii "cluster.local"
                     path := ascii "/agent/node-b/x" }] } := by decide +kernel
 have hn : requestMeshCertificate (some clusterLocalCA) commonNameLibrary {}
   (.tls [{ commonName := ascii "node-b/x"
            uris := [{ scheme := ascii "spiffe", host := ascii "cluster.local"
                       path := ascii "/agent/node-b/x" }] }])
   (ascii "node-b") (ascii "node-b") =
    .ok { commonName := ascii "node-b"
          uris := [{ scheme := ascii "spiffe", host := ascii "cluster.local"
                     path := ascii "/agent/node-b" }] } := by decide +kernel
 exact ⟨_,_,.first trivial hf,by decide +kernel,by decide +kernel,
  .next (.first trivial hf) trivial hn,by decide +kernel,by decide +kernel⟩

end NovaEdge.Mesh
