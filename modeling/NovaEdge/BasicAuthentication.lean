import NovaEdge.FailClosed
import NovaEdge.ProxyProtocol
import NovaEdge.RequestForwarding

/-! Basic authentication from the htpasswd text of a policy to the request that is sent upstream:
which passwords let a user through, and whether the credentials are passed on. -/
namespace NovaEdge.Dataplane
open List
open ProxyProtocol (fromUTF8?_utf8)

def isBcrypt (entry : String) : Bool :=
 startsWith entry "$2a$" || startsWith entry "$2b$" || startsWith entry "$2y$"

/-- bcrypt hashes any text, and the text verifies against its hash. -/
def BcryptVerifies (lib : AuthLibrary) : Prop :=
 ∀ pass, ∃ hash, lib.bcryptHash pass = some hash ∧ lib.bcryptVerify pass hash = some true

def storedHash (lib : AuthLibrary) (pass : String) : String :=
 if startsWith pass "$2b$" then pass else (lib.bcryptHash pass).getD pass

/-- Each user can send the passwords that verify, in a header that is accepted again. -/
structure CredentialsSendable (lib : AuthLibrary) (http : HeaderLibrary)
  (users : KeyedMap String String) : Prop where
 name : http.nameAccepted "authorization" = true
 value : ∀ user entry pass, users.find? user = some entry →
  lib.bcryptVerify pass (storedHash lib entry) = some true → ∃ bytes encoded,
   http.toStr bytes = some ("Basic " ++ encoded) ∧
   http.valueAccepted ("Basic " ++ encoded) = true ∧
   BasicAuth.credentials lib encoded = some (user,pass)

section
variable (lib : AuthLibrary) (http : HeaderLibrary) (eng : PolicyEngines)
 (ba : Proto.BasicAuthPolicyConfig) (name json : String)

def sentCredentials (req : Request) : Option (String × String) :=
 ((header "authorization" req).bind (textAfter "Basic ")).bind (BasicAuth.credentials lib)

def LetThrough (req : Request) (user pass : String) : Prop :=
 sentCredentials lib req = some (user,pass) ∧ runBasicAuth eng name json req = .continueWith req

/-- Requests as the handler reads them from a client whose headers can be sent on. -/
def ReadFrom (c : SentRequest) (req : Request) : Prop :=
 req.headers = headerTexts http c ∧ ∀ h ∈ headerTexts http c, http.accepts h = true

structure BasicAuthSound : Prop where
 verified : ∀ c req user pass entry, ReadFrom http c req → LetThrough lib eng name json req user pass →
  (parseHtpasswd lib ba.htpasswd).find? user = some entry → isBcrypt entry = true →
   lib.bcryptVerify pass entry = some true ∧ pass ≠ entry
 stripped : ba.stripAuthorization = true → ∀ c req user pass, ReadFrom http c req →
  LetThrough lib eng name json req user pass → ∀ body route added target,
   ∀ h ∈ (upstreamRequest http c body route added target).headers, named "authorization" h = false

lemma find?_new (rea : String) (use : KeyedMap String String) (user : String) :
  (BasicAuth.new lib rea use).users.find? user = (use.find? user).map (storedHash lib) := by
 have h := KeyedMap.find?_foldl_set_of_perm (fun _ => true) (storedHash lib)
  (Perm.refl use.pairs) ∅ user
 have hf : (use.find? user).filter (fun _ => true) = use.find? user := by cases use.find? user <;> rfl
 simpa [BasicAuth.new,storedHash,hf] using h

variable {lib http eng ba name json} {rl cors : String → JsonValue → Request → Option Response}
 (hjs : lib.fromStr json = some (policyConfigToJson (.basicAuth ba)))
 (hse : CredentialsSendable lib http (parseHtpasswd lib ba.htpasswd))
 (hbc : BcryptVerifies lib)

include hjs in
/-- A user is let through exactly with a password that verifies against the stored hash. -/
lemma letThrough_iff {req : Request} {user pass : String} :
  LetThrough lib (chainEngines lib rl cors) name json req user pass ↔
   sentCredentials lib req = some (user,pass) ∧ ∃ entry,
    (parseHtpasswd lib ba.htpasswd).find? user = some entry ∧
     lib.bcryptVerify pass (storedHash lib entry) = some true := by
 refine and_congr_right fun hc => ?_
 obtain ⟨encoded,he,hd⟩ := bind_eq_some_iff.mp hc
 rw [runBasicAuth,runEngine]
 simp only [chainEngines,hjs,ofAnswer_eq_continueWith_iff]
 rw [basicAuthEngine,BasicAuth.check,he]
 have hu : (basicAuthOf lib (policyConfigToJson (.basicAuth ba))).users.find? user =
   ((parseHtpasswd lib ba.htpasswd).find? user).map (storedHash lib) := find?_new ..
 simp only [hd,hu]
 cases (parseHtpasswd lib ba.htpasswd).find? user with
 | none => simp
 | some entry =>
  rcases hv : lib.bcryptVerify pass (storedHash lib entry) with _ | _ | _ <;> simp [hv]

lemma textAfter_append (sta s : String) : textAfter sta (sta ++ s) = some s := by
 have hp : startsWith (sta ++ s) sta = true := by simp [startsWith]
 rw [textAfter,if_pos hp]
 simp [← String.length_toList]

include hjs hse in
lemma exists_letThrough {user pass ent : String}
  (hf : (parseHtpasswd lib ba.htpasswd).find? user = some ent)
  (hv : lib.bcryptVerify pass (storedHash lib ent) = some true) : ∃ c req, ReadFrom http c req ∧
   LetThrough lib (chainEngines lib rl cors) name json req user pass := by
 obtain ⟨bytes,encoded,ht,ha,hc⟩ := hse.value user ent pass hf hv
 refine ⟨{ method := "GET", headers := [("authorization",bytes)] },
  ⟨"GET","/","",[("authorization","Basic " ++ encoded)],none,""⟩,?_,
  (letThrough_iff hjs).mpr ⟨?_,ent,hf,hv⟩⟩
 · simp [ReadFrom,headerTexts,ht,HeaderLibrary.accepts,hse.name,ha]
 · simp [sentCredentials,header,eqIgnoreAsciiCase,textAfter_append,hc]

include hbc in
lemma verify_storedHash {ent : String} (h : ¬ startsWith ent "$2b$" = true) :
  lib.bcryptVerify ent (storedHash lib ent) = some true := by
 obtain ⟨hash,hh,hv⟩ := hbc ent
 simpa [storedHash,h,hh] using hv

/-- The header that was checked is sent on. -/
lemma authorization_forwarded {c : SentRequest} {req : Request} {user pass : String}
  (hr : ReadFrom http c req) (hl : LetThrough lib eng name json req user pass) (body : Config.Bytes)
  (rt : Route) (add : List (String × String)) (tg : SocketAddr) :
  ∃ h ∈ (upstreamRequest http c body rt add tg).headers, named "authorization" h = true := by
 obtain ⟨encoded,he,-⟩ := bind_eq_some_iff.mp hl.1
 obtain ⟨value,hv,-⟩ := bind_eq_some_iff.mp he
 obtain ⟨h,hf,-⟩ := map_eq_some_iff.mp hv
 have hn : named "authorization" h = true := find?_some hf
 have hm : h ∈ headerTexts http c := hr.1 ▸ mem_of_find?_eq_some hf
 exact ⟨h,mem_append_left _ (mem_copied_iff.mpr
  ⟨hm,named_host_eq_false hn (by decide),hr.2 h hm⟩),hn⟩

end

/-- Only entries of the form `$2b$` are taken as hashes, and the credentials are always sent on. -/
theorem basic_auth_sound_iff {lib : AuthLibrary} {http : HeaderLibrary}
  (rateLimit cors : String → JsonValue → Request → Option Response)
  (ba : Proto.BasicAuthPolicyConfig) (name : String) {json : String}
  (hjson : lib.fromStr json = some (policyConfigToJson (.basicAuth ba)))
  (hsend : CredentialsSendable lib http (parseHtpasswd lib ba.htpasswd))
  (hbcrypt : BcryptVerifies lib) :
  BasicAuthSound lib http (chainEngines lib rateLimit cors) ba name json ↔
   ∀ user entry, (parseHtpasswd lib ba.htpasswd).find? user = some entry →
    (isBcrypt entry = true → startsWith entry "$2b$" = true ∧ lib.bcryptVerify entry entry ≠ some true) ∧
    (ba.stripAuthorization = true → startsWith entry "$2b$" = true ∧
     ∀ pass, lib.bcryptVerify pass entry ≠ some true) := by
 constructor
 · intro hs user entry hf
   -- without the form, the text of the entry itself is let through
   have h2 (hn : lib.bcryptVerify entry (storedHash lib entry) ≠ some true) :
     startsWith entry "$2b$" = true := by_contra fun h => hn (verify_storedHash hbcrypt h)
   have hl {pass : String} := @exists_letThrough _ _ _ name _ rateLimit cors hjson hsend _ pass _ hf
   constructor
   · intro hb
     have hn : lib.bcryptVerify entry (storedHash lib entry) ≠ some true := by
      intro hv
      obtain ⟨c,req,hr,hl⟩ := hl hv
      exact (hs.verified c req user entry entry hr hl hf hb).2 rfl
     refine ⟨h2 hn,?_⟩
     rwa [storedHash,if_pos (h2 hn)] at hn
   · intro ht
     have hn : ∀ pass, lib.bcryptVerify pass (storedHash lib entry) ≠ some true := by
      intro pass hv
      obtain ⟨c,req,hr,hl⟩ := hl hv
      obtain ⟨h,hm,ha⟩ := authorization_forwarded hr hl [] (defaultRoute "") [] ("",0)
      rw [hs.stripped ht c req user pass hr hl _ _ _ _ h hm] at ha
      contradiction
     refine ⟨h2 (hn entry),?_⟩
     rwa [storedHash,if_pos (h2 (hn entry))] at hn
 · intro h
   constructor
   · intro c req user pass entry hr hl hf hb
     obtain ⟨h2,hn⟩ := (h user entry hf).1 hb
     obtain ⟨-,entry',hf',hv⟩ := (letThrough_iff hjson).mp hl
     obtain rfl : entry = entry' := Option.some.inj (hf.symm.trans hf')
     rw [storedHash,if_pos h2] at hv
     exact ⟨hv,fun he => hn (he ▸ hv)⟩
   · intro ht c req user pass hr hl
     obtain ⟨-,entry,hf,hv⟩ := (letThrough_iff hjson).mp hl
     obtain ⟨h2,hn⟩ := (h user entry hf).2 ht
     rw [storedHash,if_pos h2] at hv
     exact absurd hv (hn pass)

/-- One user, whose entry one password verifies against, and that password as it is sent. -/
structure AmysPolicy where
 entry : String
 strip : Bool
 (password encoded : String)

namespace AmysPolicy
variable (p : AmysPolicy)

def config : Proto.BasicAuthPolicyConfig := ⟨"","amy:" ++ p.entry,p.strip⟩

def text : String :=
 "\x7b\"htpasswd\":\"amy:" ++ p.entry ++ "\",\"realm\":\"\",\"strip_authorization\":" ++
  toString p.strip ++ "\x7d"

/-- The hash is not computed but only marks its password. -/
def library : AuthLibrary :=
 { fixedLibrary p.text (policyConfigToJson (.basicAuth p.config)) with
   decodeStandard := fun s =>
    if s = p.encoded then some (utf8 ("amy:" ++ p.password).toList) else none
   fromUtf8 := fun bytes => (String.fromUTF8? bytes.toByteArray).elim (.error "") .ok
   bcryptHash := fun pass => some ("$2b$12$" ++ pass)
   bcryptVerify := fun pass hash => some (hash = "$2b$12$" ++ pass) }

abbrev engines : PolicyEngines := chainEngines p.library (fun _ _ _ => none) fun _ _ _ => none

lemma fromStr_text : p.library.fromStr p.text = some (policyConfigToJson (.basicAuth p.config)) := by
 simp [library,fixedLibrary,AuthLibrary.fromStr,Except.toOption]

lemma verifies : BcryptVerifies p.library := fun pass => ⟨"$2b$12$" ++ pass,rfl,by simp [library]⟩

end AmysPolicy

def textHeaders : HeaderLibrary :=
 ⟨fun bytes => String.fromUTF8? bytes.toByteArray,fun _ => true,fun _ => true⟩

lemma AmysPolicy.sendable {p : AmysPolicy}
  (h : parseHtpasswd p.library p.config.htpasswd = KeyedMap.set ∅ "amy" p.entry)
  (hs : storedHash p.library p.entry = "$2b$12$" ++ p.password) :
  CredentialsSendable p.library textHeaders (parseHtpasswd p.library p.config.htpasswd) := by
 refine ⟨rfl,fun user entry pass hf hv => ⟨utf8 ("Basic " ++ p.encoded).toList,p.encoded,?_,rfl,?_⟩⟩
 · exact (fromUTF8?_utf8 _).trans (congrArg some String.ofList_toList)
 rcases KeyedMap.find?_set_eq_some_iff.mp (h ▸ hf) with ⟨rfl,rfl⟩ | ⟨-,hf⟩
 · rw [hs] at hv
   obtain rfl : p.password = pass := by simpa [library] using hv
   simp [BasicAuth.credentials,library,fromUTF8?_utf8,Except.toOption,splitOnce]
 · simp at hf

def hashedPolicy : AmysPolicy := ⟨"$2b$12$secret",false,"secret","YW15OnNlY3JldA=="⟩

/-- The password lets the user through, and the text of the entry would not. -/
theorem hashed_user_sound :
  BasicAuthSound hashedPolicy.library textHeaders hashedPolicy.engines hashedPolicy.config "users"
    hashedPolicy.text ∧
   ∃ c req, ReadFrom textHeaders c req ∧ LetThrough hashedPolicy.library hashedPolicy.engines
    "users" hashedPolicy.text req "amy" "secret" := by
 have hu : parseHtpasswd hashedPolicy.library hashedPolicy.config.htpasswd =
   KeyedMap.set ∅ "amy" "$2b$12$secret" := AList.ext (by decide +kernel)
 have hs := AmysPolicy.sendable hu (by decide)
 refine ⟨(basic_auth_sound_iff _ _ hashedPolicy.config "users" hashedPolicy.fromStr_text hs
  hashedPolicy.verifies).mpr fun user entry hf => ?_,
  exists_letThrough hashedPolicy.fromStr_text hs (by rw [hu]; rfl) (by decide)⟩
 rcases KeyedMap.find?_set_eq_some_iff.mp (hu ▸ hf) with ⟨-,rfl⟩ | ⟨-,hf⟩
 · exact ⟨fun _ => by decide,nofun⟩
 · simp at hf

def olderPolicy : AmysPolicy :=
 ⟨"$2a$12$secret",true,"$2a$12$secret","YW15OiQyYSQxMiRzZWNyZXQ="⟩

/-- The text of a hash of another form is the password, and it reaches the upstream although the
header is to be stripped. -/
theorem hash_text_let_through :
  ∃ c req, ReadFrom textHeaders c req ∧ LetThrough olderPolicy.library olderPolicy.engines "users"
    olderPolicy.text req "amy" "$2a$12$secret" ∧
   olderPolicy.library.bcryptVerify "$2a$12$secret" "$2a$12$secret" = some false ∧
   ∃ h ∈ (upstreamRequest textHeaders c [] (defaultRoute "web") [] ("10.0.0.1",80)).headers,
    named "authorization" h = true := by
 have hu : parseHtpasswd olderPolicy.library olderPolicy.config.htpasswd =
   KeyedMap.set ∅ "amy" "$2a$12$secret" := AList.ext (by decide +kernel)
 have hv : olderPolicy.library.bcryptVerify "$2a$12$secret"
   (storedHash olderPolicy.library "$2a$12$secret") = some true :=
  verify_storedHash olderPolicy.verifies (by decide)
 have hf : (parseHtpasswd olderPolicy.library olderPolicy.config.htpasswd).find? "amy" =
   some "$2a$12$secret" := by
  rw [hu]
  rfl
 obtain ⟨c,req,hr,hl⟩ := exists_letThrough olderPolicy.fromStr_text
  (AmysPolicy.sendable hu (by decide)) hf hv
 exact ⟨c,req,hr,hl,by decide,authorization_forwarded hr hl _ _ _ _⟩

end NovaEdge.Dataplane
