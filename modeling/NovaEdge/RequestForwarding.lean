import NovaEdge.ProtocolPaths

/-! What the upstream receives: the body that the entry points collect, the headers that are copied
and added, and whether they still describe the request that the client sent. -/
namespace NovaEdge.Dataplane
open List

open Config (Bytes)

structure HeaderLibrary where
 toStr : Bytes → Option String
 (nameAccepted valueAccepted : String → Bool)

/-- The chunks of the body that arrive, and the rest if the stream fails before its end. -/
structure SentRequest where
 method : String
 path : String := "/"
 query : Option String := none
 headers : List (String × Bytes) := []
 arrived : List Bytes := []
 lost : Option Bytes := none

def SentRequest.body (c : SentRequest) : Bytes := c.arrived.flatten ++ c.lost.getD []

def parseU64 (s : String) : Option ℕ :=
 let digits := match s.toList with
  | '+' :: rest => rest
  | digits => digits
 if digits ≠ [] ∧ digits.all Char.isDigit = true then
  let n := digits.foldl (fun n c => 10*n+(c.toNat - '0'.toNat)) 0
  if n < 2 ^ 64 then some n else none
 else none

section
variable (http : HeaderLibrary)

/-- The header list of the handler: a value that is no text becomes empty. -/
def headerTexts (c : SentRequest) : List (String × String) :=
 c.headers.map fun h => (h.1,(http.toStr h.2).getD "")

/-- A failing stream ends the receive loop of HTTP/3 like a finished one. -/
def readBody (c : SentRequest) : Entry → Option Bytes
 | .http1 =>
  if c.lost.isSome ∨ maxBodySize < c.arrived.flatten.length then none else some c.arrived.flatten
 | .http3 => readH3Body c.arrived []

def bodylessMethods : List String := ["GET","HEAD","DELETE","OPTIONS"]

def forwardedBody (entry : Entry) (c : SentRequest) : Option Bytes :=
 match entry with
 | .http1 =>
  if isWebsocket (headerTexts http c) then none
  else if c.method ∈ bodylessMethods then some []
  else if (((headerTexts http c).find? fun h => eqIgnoreAsciiCase h.1 "content-length").bind
    fun h => parseU64 h.2).any fun n => maxBodySize < n then none
  else readBody c .http1
 | .http3 => readBody c .http3

variable {c : SentRequest} {ent : Entry}

lemma arrived_of_readBody {body : Bytes} (hr : readBody c ent = some body) :
  body = c.arrived.flatten := by
 cases ent with
 | http1 =>
  rw [readBody] at hr
  split_ifs at hr
  exact (Option.some.inj hr).symm
 | http3 =>
  rw [readBody,readH3Body_eq _ _ (Nat.zero_le _)] at hr
  split_ifs at hr
  exact (Option.some.inj hr).symm

structure ServedAs (entry : Entry) (c : SentRequest) (w : World) (r : HttpRequest) : Prop where
 method : r.method = c.method
 path : r.path = c.path
 query : r.query = c.query
 headers : r.headers = headerTexts http c
 parse : w.parseU64 = parseU64
 body : w.body = readBody c entry

variable {http}

variable {w : World} {r : HttpRequest}

lemma serve_of_forwardedBody (hse : ServedAs http ent c w r) {body : Bytes}
  (hb : forwardedBody http ent c = some body) (lib : TextLibrary) (eng : PolicyEngines)
  (h : ProxyHandler) : serve lib eng ent h w r = handleRequestInner lib eng h w r := by
 cases ent with
 | http1 =>
  rw [serve,handleRequest,contentLength,hse.headers,hse.method,hse.parse,hse.body]
  simp only [forwardedBody,bodylessMethods] at hb
  split_ifs at hb ⊢ <;> simp_all
 | http3 =>
  have hr : readBody c .http3 = some body := hb
  rw [serve,handleH3Request,hse.body,hr]

lemma serve_of_forwardedBody_none (hse : ServedAs http ent c w r)
  (hp : isWebsocket (headerTexts http c) = false)
  (hb : forwardedBody http ent c = none) (lib : TextLibrary) (eng : PolicyEngines)
  (h : ProxyHandler) : serve lib eng ent h w r = ([],.text 413 "Payload Too Large") := by
 cases ent with
 | http1 =>
  rw [serve,handleRequest,contentLength,hse.headers,hse.method,hse.parse,hse.body]
  simp only [forwardedBody,bodylessMethods] at hb
  split_ifs at hb ⊢ <;> simp_all
 | http3 =>
  have hr : readBody c .http3 = none := hb
  rw [serve,handleH3Request,hse.body,hr]

end

/-- The headers that come from the client and those that the proxy sets are kept apart. -/
structure UpstreamRequest where
 (method uri : String)
 (copied own : List (String × String))
 body : Bytes

def UpstreamRequest.headers (u : UpstreamRequest) : List (String × String) := u.copied ++ u.own

def named (name : String) (h : String × String) : Bool := eqIgnoreAsciiCase h.1 name

def HeaderLibrary.accepts (http : HeaderLibrary) (h : String × String) : Bool :=
 http.nameAccepted h.1 && http.valueAccepted h.2

def socketText (t : SocketAddr) : String :=
 if t.1.toList.contains ':' then "[" ++ t.1 ++ "]:" ++ toString t.2 else t.1 ++ ":" ++ toString t.2

def upstreamRequest (http : HeaderLibrary) (c : SentRequest) (body : Bytes) (route : Route)
  (added : List (String × String)) (target : SocketAddr) : UpstreamRequest where
 method := c.method
 uri := "http://" ++ socketText target ++ route.rewritePath.getD c.path ++ querySuffix c.query
 copied := (headerTexts http c).filter fun h => !named "host" h && http.accepts h
 own := ("Host",socketText target)::added.filter http.accepts
 body := body

/-- The hedged request, to which the route's headers are not added. -/
def hedgeRequest (http : HeaderLibrary) (c : SentRequest) (body : Bytes) (route : Route)
  (target : SocketAddr) : UpstreamRequest :=
 { upstreamRequest http c body route [] target with own := [("Host",socketText target)] }

def decimalLength (value : String) : Option ℕ :=
 if value.toList.all Char.isDigit then parseU64 value else none

structure Framed (headers : List (String × String)) (body : Bytes) : Prop where
 length : ∀ h ∈ headers, named "content-length" h = true → decimalLength h.2 = some body.length
 coding : ∀ h ∈ headers, named "transfer-encoding" h = true →
  eqIgnoreAsciiCase h.2 "chunked" = true ∧ ∀ h' ∈ headers, named "content-length" h' = false

def hopByHopNames : List String :=
 ["connection","keep-alive","proxy-authenticate","proxy-authorization","proxy-connection",
  "te","trailer","transfer-encoding","upgrade"]

def connectionOptions (headers : List (String × String)) : List String :=
 (headers.filter (named "connection")).flatMap fun h =>
  (h.2.toList.splitOn ',').map fun part => String.ofList (trimChars part)

def isHopByHop (headers : List (String × String)) (name : String) : Bool :=
 (hopByHopNames ++ connectionOptions headers).any (eqIgnoreAsciiCase name)

structure FaithfulTo (http : HeaderLibrary) (c : SentRequest) (u : UpstreamRequest) : Prop where
 body : u.body = c.body
 framed : Framed u.headers c.body
 hops : ∀ h ∈ u.copied, isHopByHop (headerTexts http c) h.1 = false

/-- In an attempt or as a hedge, if the body is within the limit. -/
def ForwardedFaithfully (http : HeaderLibrary) (entry : Entry) (c : SentRequest) (route : Route) :
  Prop :=
 c.body.length ≤ maxBodySize → ∀ body, forwardedBody http entry c = some body →
  ∀ target, FaithfulTo http c (hedgeRequest http c body route target) ∧
   ∀ added, added.Perm route.addHeaders.pairs →
    FaithfulTo http c (upstreamRequest http c body route added target)

structure Forwardable (http : HeaderLibrary) (entry : Entry) (c : SentRequest) (route : Route) :
  Prop where
 carried : entry = .http1 → c.method ∈ bodylessMethods → c.body = []
 whole : entry = .http3 → c.lost.getD [] = []
 lengths : ∀ h ∈ headerTexts http c ++ route.addHeaders.pairs, http.accepts h = true →
  named "content-length" h = true → decimalLength h.2 = some c.body.length
 codings : ∀ h ∈ route.addHeaders.pairs, http.accepts h = true →
  named "transfer-encoding" h = true → eqIgnoreAsciiCase h.2 "chunked" = true ∧
   ∀ h' ∈ headerTexts http c ++ route.addHeaders.pairs, http.accepts h' = true →
    named "content-length" h' = false
 hops : ∀ h ∈ headerTexts http c, http.accepts h = true → named "host" h = false →
  isHopByHop (headerTexts http c) h.1 = false

lemma named_host_eq_false {name : String} {h : String × String} (hn : named name h = true)
  (hm : eqIgnoreAsciiCase name "host" = false) : named "host" h = false := by
 rw [← hm]
 simp only [named,eqIgnoreAsciiCase,beq_iff_eq] at hn ⊢
 rw [hn]

lemma isHopByHop_of_named {hea : List (String × String)} {h : String × String}
  (hn : named "transfer-encoding" h = true) : isHopByHop hea h.1 = true := by
 refine any_eq_true.mpr ⟨"transfer-encoding",mem_append_left _ ?_,hn⟩
 simp [hopByHopNames]

section
variable {http : HeaderLibrary} {c : SentRequest} {rt : Route} {body : Bytes}
 {add : List (String × String)} {tgt : SocketAddr}

lemma mem_copied_iff {h : String × String} : h ∈ (upstreamRequest http c body rt add tgt).copied ↔
      h ∈ headerTexts http c ∧ named "host" h = false ∧ http.accepts h = true := by
 simp [upstreamRequest,mem_filter]

lemma mem_headers_iff (had : add.Perm rt.addHeaders.pairs) {h : String × String}
  (hh : named "host" h = false) :
  h ∈ (upstreamRequest http c body rt add tgt).headers ↔
   h ∈ headerTexts http c ++ rt.addHeaders.pairs ∧ http.accepts h = true := by
 have ho : h ∈ (upstreamRequest http c body rt add tgt).own ↔
   h ∈ rt.addHeaders.pairs ∧ http.accepts h = true := by
  have hn : h ≠ ("Host",socketText tgt) := by
   rintro rfl
   have hsa : eqIgnoreAsciiCase "Host" "host" = true := by decide
   exact absurd hh (by rw [named,hsa]; exact Bool.noConfusion)
  simp only [upstreamRequest,mem_cons,hn,false_or,mem_filter,had.mem_iff]
 rw [UpstreamRequest.headers,mem_append,ho,mem_copied_iff,mem_append]
 constructor
 · rintro (⟨hm,-,ha⟩ | ⟨hm,ha⟩)
   · exact ⟨Or.inl hm,ha⟩
   · exact ⟨Or.inr hm,ha⟩
 · rintro ⟨hm | hm,ha⟩
   · exact Or.inl ⟨hm,hh,ha⟩
   · exact Or.inr ⟨hm,ha⟩

lemma faithfulTo_hedge (hf : FaithfulTo http c (upstreamRequest http c body rt add tgt)) :
  FaithfulTo http c (hedgeRequest http c body rt tgt) := by
 have hu : (hedgeRequest http c body rt tgt).headers ⊆
   (upstreamRequest http c body rt add tgt).headers := by
  intro h hm
  rcases mem_append.mp hm with hc | ho
  · exact mem_append_left _ hc
  · rw [mem_singleton.mp ho]
    exact mem_append_right _ mem_cons_self
 refine ⟨hf.body,⟨?_,?_⟩,hf.hops⟩
 · intro h hm
   exact hf.framed.length h (hu hm)
 · intro h hm hco
   obtain ⟨hh,ha⟩ := hf.framed.coding h (hu hm) hco
   exact ⟨hh,fun h' hm' => ha h' (hu hm')⟩

lemma framed_of_forwardable {ent : Entry} (hf : Forwardable http ent c rt)
  (had : add.Perm rt.addHeaders.pairs) :
  Framed (upstreamRequest http c body rt add tgt).headers c.body := by
 have hle {h : String × String} (hn : named "content-length" h = true) :=
  @mem_headers_iff http c rt body add tgt had h (named_host_eq_false hn (by decide))
 constructor
 · intro h hm hn
   obtain ⟨ho,ha⟩ := (hle hn).mp hm
   exact hf.lengths h ho ha hn
 · intro h hm hn
   have hh := named_host_eq_false hn (by decide)
   obtain ⟨ho,ha⟩ := (mem_headers_iff had hh).mp hm
   -- the client's own announcement would be for its connection only
   have hr : h ∈ rt.addHeaders.pairs := by
    rcases mem_append.mp ho with hc | hr
    · have := hf.hops h hc ha hh
      rw [isHopByHop_of_named hn] at this
      cases this
    · exact hr
   obtain ⟨hch,hal⟩ := hf.codings h hr ha hn
   refine ⟨hch,fun h' hm' => ?_⟩
   by_contra hl
   rw [Bool.not_eq_false] at hl
   obtain ⟨hs',ha'⟩ := (hle hl).mp hm'
   exact absurd (hl.symm.trans (hal h' hs' ha')) Bool.noConfusion

end

lemma forwardedBody_eq_body_iff {http : HeaderLibrary} {ent : Entry} {c : SentRequest}
  {body : Bytes} (hb : forwardedBody http ent c = some body) :
  body = c.body ↔ (ent = .http1 → c.method ∈ bodylessMethods → c.body = []) ∧
   (ent = .http3 → c.lost.getD [] = []) := by
 cases ent with
 | http3 =>
  rw [arrived_of_readBody (show readBody c .http3 = some body from hb),SentRequest.body,
   self_eq_append_right]
  exact ⟨fun ho => ⟨fun h => (nomatch h),fun _ => ho⟩,fun h => h.2 rfl⟩
 | http1 =>
  simp only [forwardedBody] at hb
  split_ifs at hb with hu hm hl
  · rw [← Option.some.inj hb]
    exact ⟨fun hem => ⟨fun _ _ => hem.symm,fun h => (nomatch h)⟩,fun h => (h.1 rfl hm).symm⟩
  · have hw : body = c.body := by
     rw [readBody] at hb
     split_ifs at hb with hf
     rw [not_or,Bool.not_eq_true,Option.isSome_eq_false_iff,isNone_iff_eq_none] at hf
     rw [← Option.some.inj hb,SentRequest.body,hf.1]
     exact (append_nil _).symm
    exact ⟨fun _ => ⟨fun _ h => absurd h hm,fun h => (nomatch h)⟩,fun _ => hw⟩

theorem forwarded_faithfully_iff (http : HeaderLibrary) (entry : Entry) (c : SentRequest)
  (route : Route) : ForwardedFaithfully http entry c route ↔
   (c.body.length ≤ maxBodySize → (forwardedBody http entry c).isSome = true →
    Forwardable http entry c route) := by
 constructor
 · intro hfa hsi ho
   obtain ⟨body,hb⟩ := isSome_iff_exists.mp ho
   obtain ⟨-,ht⟩ := hfa hsi body hb ("",0)
   have hp := List.Perm.refl route.addHeaders.pairs
   obtain ⟨hsa,hr,hhp⟩ := ht _ hp
   obtain ⟨hc,hw⟩ := (forwardedBody_eq_body_iff hb).mp hsa
   have hle {h : String × String} (hn : named "content-length" h = true) :=
    @mem_headers_iff http c route body _ ("",0) hp h (named_host_eq_false hn (by decide))
   refine ⟨hc,hw,?_,?_,?_⟩
   · intro h hm ha hn
     exact hr.length h ((hle hn).mpr ⟨hm,ha⟩) hn
   · intro h hm ha hn
     have hse := (@mem_headers_iff http c route body _ ("",0) hp h
      (named_host_eq_false hn (by decide))).mpr ⟨mem_append_right _ hm,ha⟩
     obtain ⟨hch,hal⟩ := hr.coding h hse hn
     refine ⟨hch,fun h' hm' ha' => ?_⟩
     by_contra hl
     rw [Bool.not_eq_false] at hl
     have hno := hal h' ((hle hl).mpr ⟨hm',ha'⟩)
     exact absurd (hl.symm.trans hno) Bool.noConfusion
   · intro h hm ha hh
     exact hhp h (mem_copied_iff.mpr ⟨hm,hh,ha⟩)
 · intro hfo hsi body hb target
   have hf := hfo hsi (by rw [hb]; rfl)
   have ht : ∀ added, added.Perm route.addHeaders.pairs →
     FaithfulTo http c (upstreamRequest http c body route added target) := by
    intro added had
    refine ⟨?_,framed_of_forwardable hf had,?_⟩
    · exact (forwardedBody_eq_body_iff hb).mpr ⟨hf.carried,hf.whole⟩
    · intro h hm
      obtain ⟨hcl,hh,ha⟩ := mem_copied_iff.mp hm
      exact hf.hops h hcl ha hh
   exact ⟨faithfulTo_hedge (ht _ (List.Perm.refl _)),ht⟩

def visibleHeaders : HeaderLibrary where
 toStr := fun bytes =>
  if bytes.all fun b => (32 ≤ b && b < 127) || b == 9 then
   some (String.ofList (bytes.map fun b => Char.ofNat b.toNat))
  else none
 nameAccepted := fun name => name ≠ ""
 valueAccepted := fun value => value.toList.all fun c => (' ' ≤ c && c < '\x7f') || c == '\t'

def postedForm : SentRequest where
 method := "POST"
 headers := [("host","example".toUTF8.toList),("content-length","2".toUTF8.toList)]
 arrived := [[104,105]]

theorem posted_form_forwarded :
  ForwardedFaithfully visibleHeaders .http1 postedForm guardedRoute := by
 refine (forwarded_faithfully_iff _ _ _ _).mpr fun _ _ => ⟨?_,?_,?_,?_,?_⟩
 · decide
 · exact fun h => nomatch h
 · decide +kernel
 · exact fun h hm => absurd hm not_mem_nil
 · decide +kernel

def bodyInGet : SentRequest := { postedForm with method := "GET" }

/-- The upstream is told to expect two bytes and gets none. -/
theorem body_of_get_dropped :
  ¬ ForwardedFaithfully visibleHeaders .http1 bodyInGet guardedRoute := by
 intro hf
 have hh := (hf (by decide) [] (by decide +kernel) ("10.0.0.1",80)).1
 have hl : ([] : Bytes) = [104,105] := hh.body
 exact absurd hl (cons_ne_nil _ _).symm

end NovaEdge.Dataplane
