import NovaEdge.FailClosed
import Mathlib.Data.Rat.Cast.Order

/-! What a token has to meet before the validator may accept it, with its times read as numbers
and not as the code's unsigned integers. -/
namespace NovaEdge.Dataplane
open List JsonValue

structure TokenParts where
 (head payload signature : String)

section
variable (lib : AuthLibrary) (config : JwtConfig) (token : String)

/-- A token of three parts, the second of which encodes the fields. -/
structure Carries (p : TokenParts) (fields : JsonObject) : Prop where
 parts : (token.toList.splitOn '.').map String.ofList = [p.head,p.payload,p.signature]
 payload : ∃ bytes text, lib.decodeUrlSafe p.payload = .ok bytes ∧ lib.fromUtf8 bytes = .ok text ∧
  lib.parseJson text = .ok (.obj fields)

def claimsOf (fields : JsonObject) : JwtClaims where
 sub := (fields.lookup "sub").bind asStr
 iss := (fields.lookup "iss").bind asStr
 aud := (fields.lookup "aud").bind asStr
 exp := (fields.lookup "exp").bind (jsonU64 lib)
 nbf := (fields.lookup "nbf").bind (jsonU64 lib)
 iat := (fields.lookup "iat").bind (jsonU64 lib)
 extra := (fields.filter fun f => f.1 ∉ registeredClaims).map fun f =>
  (f.1,f.2.asStr.getD (lib.render f.2))

/-- The checks of the code, one after the other. -/
structure PassesChecks (p : TokenParts) (fields : JsonObject) : Prop where
 alg : (headerAlg lib p.head).any (eqIgnoreAsciiCase · "none") = false
 signed : verifySignature lib config.secret (p.head ++ "." ++ p.payload) p.signature = .ok ()
 claims : checkClaims lib config (claimsOf lib fields) = .ok ()

/-- The audiences of a token, one or a list of them. -/
def audiencesOf : Option JsonValue → List String
 | some (.str aud) => [aud]
 | some (.arr items) => items.filterMap asStr
 | _ => []

/-- What acceptance is to mean, with `value` for the number that a text of JSON stands for. The
signature is an HMAC with SHA-256, which `hmacVerify` computes whatever the header says. -/
structure Acceptable (value : String → ℚ) (p : TokenParts) (fields : JsonObject) : Prop where
 alg : ∀ alg, headerAlg lib p.head = some alg → eqIgnoreAsciiCase alg "none" = false
 signed : ∃ secret sig, config.secret = some secret ∧ lib.decodeUrlSafe p.signature = .ok sig ∧
  lib.hmacVerify secret (p.head ++ "." ++ p.payload) sig = .ok true
 exp : ∀ t, fields.lookup "exp" = some (.num t) → lib.now < value t
 nbf : ∀ t, fields.lookup "nbf" = some (.num t) → value t ≤ lib.now
 issuer : ∀ iss, config.issuer = some iss → fields.lookup "iss" = some (.str iss)
 audience : config.audiences ≠ [] →
  ∃ aud ∈ config.audiences, aud ∈ audiencesOf (fields.lookup "aud")
 required : ∀ c ∈ config.requiredClaims, (fields.lookup c).isSome = true

def ValidatesSoundly (value : String → ℚ) : Prop :=
 ∀ claims, config.validate lib token = .ok claims →
  ∃ p fields, Carries lib token p fields ∧ Acceptable lib config value p fields

/-- Times that the code reads, or that are in order anyway; the second of expiry is too late. -/
structure TimesRead (value : String → ℚ) (fields : JsonObject) : Prop where
 exp : ∀ t, fields.lookup "exp" = some (.num t) →
  (∃ n, lib.asU64 t = some n ∧ n ≠ lib.now) ∨ lib.now < value t
 nbf : ∀ t, fields.lookup "nbf" = some (.num t) → (lib.asU64 t).isSome = true ∨ value t ≤ lib.now

variable {lib config token}

lemma bind_eq_ok_iff {ε α β : Type} {x : Except ε α} {f : α → Except ε β} {b : β} :
  x >>= f = .ok b ↔ ∃ a, x = .ok a ∧ f a = .ok b := by
 cases x <;> simp [bind,Except.bind]

lemma mapError_eq_ok_iff {ε ε' α : Type} {x : Except ε α} {f : ε → ε'} {a : α} :
  x.mapError f = .ok a ↔ x = .ok a := by
 cases x <;> simp [Except.mapError]

lemma parseJwtClaims_eq_ok_iff (text : String) (cls : JwtClaims) :
  parseJwtClaims lib text = .ok cls ↔
   ∃ fs, lib.parseJson text = .ok (.obj fs) ∧ claimsOf lib fs = cls := by
 unfold parseJwtClaims
 split <;> simp_all [claimsOf]

lemma Carries.unique {p p' : TokenParts} {fs fie' : JsonObject}
  (h : Carries lib token p fs) (h' : Carries lib token p' fie') : p = p' ∧ fs = fie' := by
 obtain ⟨hp,b,t,hb,ht,hj⟩ := h
 obtain ⟨hp',b',t',hb',ht',hj'⟩ := h'
 have he : p = p' := by
  cases p; cases p'
  simpa using hp.symm.trans hp'
 subst he
 obtain rfl : b = b' := by simpa using hb.symm.trans hb'
 obtain rfl : t = t' := by simpa using ht.symm.trans ht'
 exact ⟨rfl,by simpa using hj.symm.trans hj'⟩

lemma validate_eq_ok_iff (cls : JwtClaims) : config.validate lib token = .ok cls ↔
  ∃ p fs, Carries lib token p fs ∧ PassesChecks lib config p fs ∧ claimsOf lib fs = cls := by
 unfold JwtConfig.validate
 split
 · rename_i head pay signature hp
   have hu : ∀ {p fs}, Carries lib token p fs → p = ⟨head,pay,signature⟩ := by
    rintro ⟨_,_,_⟩ fs hc
    simpa using hc.parts.symm.trans hp
   split_ifs with ha
   · simp only [throw,throwThe,MonadExceptOf.throw,bind,Except.bind,reduceCtorEq,false_iff]
     rintro ⟨p,fs,hc,hk,-⟩
     obtain rfl := hu hc
     rw [hk.alg] at ha
     contradiction
   · simp only [bind_eq_ok_iff,mapError_eq_ok_iff,parseJwtClaims_eq_ok_iff]
     constructor
     · rintro ⟨_,hs,bytes,hb,text,ht,_,⟨fs,hj,rfl⟩,_,hk,he⟩
       exact ⟨⟨head,pay,signature⟩,fs,⟨hp,bytes,text,hb,ht,hj⟩,
        ⟨by simpa using ha,hs,hk⟩,Except.ok.inj he⟩
     · rintro ⟨p,fs,hc,hk,rfl⟩
       obtain rfl := hu hc
       obtain ⟨-,bytes,text,hb,ht,hj⟩ := hc
       exact ⟨(),hk.signed,bytes,hb,text,ht,_,⟨fs,hj,rfl⟩,(),hk.claims,rfl⟩
 · rename_i hn
   simp only [reduceCtorEq,false_iff]
   rintro ⟨p,fs,hc,-⟩
   exact hn _ _ _ hc.parts

lemma checkClaims_eq_ok {cls : JwtClaims} (h : checkClaims lib config cls = .ok ()) :
  (∀ n, cls.exp = some n → lib.now ≤ n) ∧ (∀ n, cls.nbf = some n → n ≤ lib.now) ∧
   (∀ iss, config.issuer = some iss → cls.iss = some iss) ∧
   (config.audiences ≠ [] → ∃ aud ∈ config.audiences, cls.aud = some aud) ∧
   ∀ c ∈ config.requiredClaims, cls.has c = true := by
 unfold checkClaims at h
 by_cases he : cls.exp.any (· < lib.now) = true
 · rw [if_pos he] at h
   cases h
 rw [if_neg he] at h
 by_cases hn : cls.nbf.any (lib.now < ·) = true
 · rw [if_pos hn] at h
   cases h
 rw [if_neg hn] at h
 by_cases hi : config.issuer.isSome ∧ cls.iss ≠ config.issuer
 · rw [if_pos hi] at h
   cases h
 rw [if_neg hi] at h
 obtain ⟨_,ha,hr⟩ := bind_eq_ok_iff.mp h
 refine ⟨fun n h => by simpa [h] using he,fun n h => by simpa [h] using hn,?_,?_,?_⟩
 · intro iss h
   rw [h] at hi
   simpa using hi
 · intro hne
   unfold checkAudience at ha
   split at ha
   · rename_i aud _
     split_ifs at ha with hm
     exact ⟨aud,hm.resolve_left hne,by assumption⟩
   · simp [hne] at ha
 · intro c hc
   split at hr
   · cases hr
   · rename_i hf
     simpa using find?_eq_none.mp hf c hc

lemma asStr_eq_some_iff {o : Option JsonValue} {s : String} :
  o.bind asStr = some s ↔ o = some (.str s) := by
 rcases o with _ | v
 · simp
 · cases v <;> simp [asStr]

lemma isSome_lookup_of_has {fs : JsonObject} {c : String}
  (h : (claimsOf lib fs).has c = true) : (fs.lookup c).isSome = true := by
 have hb : ∀ {α : Type} {o : Option JsonValue} {f : JsonValue → Option α},
   (o.bind f).isSome = true → o.isSome = true := by
  rintro α (_ | v) f hs
  · cases hs
  · rfl
 unfold JwtClaims.has at h
 split at h
 iterate 6 exact hb h
 simp only [claimsOf,any_map,any_eq_true,mem_filter,Function.comp_apply, decide_eq_true_eq] at h
 obtain ⟨f,⟨hf,-⟩,hc⟩ := h
 by_contra hn
 rw [not_isSome_iff_eq_none,lookup_eq_none_iff] at hn
 exact absurd hc.symm (by simpa using hn f hf)

lemma PassesChecks.acceptable {val : String → ℚ}
  (hva : ∀ t n, lib.asU64 t = some n → val t = n) {p : TokenParts} {fie : JsonObject}
  (h : PassesChecks lib config p fie) (ht : TimesRead lib val fie) :
  Acceptable lib config val p fie := by
 obtain ⟨he,hn,hi,ha,hr⟩ := checkClaims_eq_ok h.claims
 refine ⟨?_,?_,?_,?_,fun iss h => asStr_eq_some_iff.mp (hi iss h),?_,
  fun c hc => isSome_lookup_of_has (hr c hc)⟩
 · intro alg ha
   simpa [ha] using h.alg
 · have hs := h.signed
   unfold verifySignature at hs
   split at hs
   · cases hs
   · rename_i secret hse
     simp only [bind_eq_ok_iff,mapError_eq_ok_iff] at hs
     obtain ⟨sig,hd,valid,hv,ho⟩ := hs
     cases valid with
     | false => cases ho
     | true => exact ⟨secret,sig,hse,hd,hv⟩
 · intro t hl
   rcases ht.exp t hl with ⟨n,hu,hne⟩ | hlt
   · have hle := he n (by simp [claimsOf,hl,jsonU64,hu])
     rw [hva t n hu]
     exact_mod_cast lt_of_le_of_ne hle hne.symm
   · exact hlt
 · intro t hl
   rcases ht.nbf t hl with hu | hle
   · obtain ⟨n,hu⟩ := isSome_iff_exists.mp hu
     rw [hva t n hu]
     exact_mod_cast hn n (by simp [claimsOf,hl,jsonU64,hu])
   · exact hle
 · intro hne
   obtain ⟨aud,hm,h⟩ := ha hne
   exact ⟨aud,hm,by simp [asStr_eq_some_iff.mp h,audiencesOf]⟩

end

/-- Acceptance means what it should exactly if the times of a token that passes the checks are
numbers that the code reads, the expiry not the present second. -/
theorem validates_soundly_iff (lib : AuthLibrary) (config : JwtConfig) (token : String)
  {value : String → ℚ} (hl : ∀ t n, lib.asU64 t = some n → value t = n) :
  ValidatesSoundly lib config token value ↔
   ∀ p fields, Carries lib token p fields → PassesChecks lib config p fields →
    TimesRead lib value fields := by
 constructor
 · intro h p fields hc hk
   obtain ⟨p',fields',hc',ha⟩ := h _ ((validate_eq_ok_iff _).mpr ⟨p,fields,hc,hk,rfl⟩)
   obtain ⟨rfl,rfl⟩ := hc.unique hc'
   exact ⟨fun t ht => .inr (ha.exp t ht),fun t ht => .inr (ha.nbf t ht)⟩
 · intro h claims hv
   obtain ⟨p,fields,hc,hk,rfl⟩ := (validate_eq_ok_iff claims).mp hv
   exact ⟨p,fields,hc,hk.acceptable hl (h p fields hc hk)⟩

def gatewayTokens : JwtConfig := ⟨some "secret",none,[],[]⟩

def headerText : String := "\x7b\"alg\":\"HS256\"\x7d"

def asciiBytes (s : String) : List UInt8 := s.toList.map fun c => c.val.toUInt8

/-- A token with an expiry, the payload as it is sent. -/
structure ExpiryToken where
 (exp payload : String)

def ExpiryToken.text (t : ExpiryToken) : String := "\x7b\"exp\":" ++ t.exp ++ "\x7d"

def ExpiryToken.token (t : ExpiryToken) : String := "eyJhbGciOiJIUzI1NiJ9." ++ t.payload ++ ".c2ln"

/-- The signature is right, and it is second 100. -/
def ExpiryToken.library (t : ExpiryToken) : AuthLibrary :=
 { fixedLibrary t.text (.obj [("exp",.num t.exp)]) with
   decodeUrlSafe := fun s =>
    if s = "eyJhbGciOiJIUzI1NiJ9" then .ok (asciiBytes headerText)
    else if s = t.payload then .ok (asciiBytes t.text)
    else if s = "c2ln" then .ok (asciiBytes "sig")
    else .error "invalid symbol"
   fromSlice := fun bytes =>
    if bytes = asciiBytes headerText then some (.obj [("alg",.str "HS256")]) else none
   fromUtf8 := fun bytes => if bytes = asciiBytes t.text then .ok t.text else .error "not a text"
   hmacVerify := fun secret _ sig => .ok (secret = "secret" && sig = asciiBytes "sig")
   asU64 := fun s => if s = "101" then some 101 else none
   now := 100 }

def validToken : ExpiryToken := ⟨"101","eyJleHAiOjEwMX0"⟩

def expiredToken : ExpiryToken := ⟨"99.5","eyJleHAiOjk5LjV9"⟩

def expiryValue (t : String) : ℚ := if t = "101" then 101 else 199 / 2

lemma Carries.fields_eq {t : ExpiryToken} {token : String} {p : TokenParts} {fs : JsonObject}
  (h : Carries t.library token p fs) : fs = [("exp",.num t.exp)] := by
 obtain ⟨-,bytes,text,-,-,hj⟩ := h
 change (if text = t.text then Except.ok _ else .error _) = _ at hj
 split_ifs at hj
 exact (obj.inj (Except.ok.inj hj)).symm

theorem unexpired_token_sound :
  ValidatesSoundly validToken.library gatewayTokens validToken.token expiryValue := by
 refine (validates_soundly_iff validToken.library gatewayTokens validToken.token ?_).mpr ?_
 · intro t n h
   simp only [ExpiryToken.library] at h
   split_ifs at h with ht
   rw [expiryValue,if_pos ht,← Option.some.inj h]
   rfl
 · intro p fs hc _
   rw [hc.fields_eq]
   refine ⟨fun t ht => .inl ⟨101,?_,by decide⟩,fun t ht => by cases ht⟩
   cases ht
   rfl

/-- A token that expired half a second ago, with the time as a decimal fraction. -/
theorem expired_token_accepted :
  gatewayTokens.validate expiredToken.library expiredToken.token =
    .ok (claimsOf expiredToken.library [("exp",.num "99.5")]) ∧
   ¬ ValidatesSoundly expiredToken.library gatewayTokens expiredToken.token expiryValue := by
 have hv : gatewayTokens.validate expiredToken.library expiredToken.token =
   .ok (claimsOf expiredToken.library [("exp",.num "99.5")]) :=
  (validate_eq_ok_iff _).mpr ⟨⟨"eyJhbGciOiJIUzI1NiJ9","eyJleHAiOjk5LjV9","c2ln"⟩,
   [("exp",.num "99.5")],⟨by decide,asciiBytes expiredToken.text,expiredToken.text,rfl,rfl,rfl⟩,
   ⟨rfl,rfl,rfl⟩,rfl⟩
 refine ⟨hv,fun h => ?_⟩
 obtain ⟨p,fs,hc,ha⟩ := h _ hv
 rw [hc.fields_eq] at ha
 have hl := ha.exp "99.5" rfl
 rw [expiryValue,if_neg (by decide)] at hl
 norm_num [ExpiryToken.library] at hl

end NovaEdge.Dataplane
