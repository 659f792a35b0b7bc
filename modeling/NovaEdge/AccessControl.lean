import NovaEdge.MiddlewarePipeline
import NovaEdge.DataplaneRouter

/-! The engines behind the authentication and access-control policies of the chain: basic
authentication, JWT, IP filter and firewall, from the parsed configuration to the answer. -/
namespace NovaEdge
open JsonValue String

/-- A missing field, or a field of what is not an object, reads as null. -/
def JsonValue.index (v : JsonValue) (k : String) : JsonValue :=
 match v with
 | .obj fields => (fields.lookup k).getD .null
 | _ => .null

def JsonValue.asStr : JsonValue → Option String
 | .str s => some s
 | _ => none

def JsonValue.asBool : JsonValue → Option Bool
 | .bool b => some b
 | _ => none

def JsonValue.asArray : JsonValue → Option (List JsonValue)
 | .arr items => some items
 | _ => none

/-- The texts of an array; its other items are dropped, and what is not an array has none. -/
def JsonValue.strings (v : JsonValue) : List String := (v.asArray.getD []).filterMap asStr

namespace Dataplane
open Config (Bytes)

inductive IpAddr
 | v4 (bits : BitVec 32)
 | v6 (bits : BitVec 128)
 deriving DecidableEq

def pathTraversal : String := "\\.\\.[\\\\/]"

/-- What the engines take from their libraries; a set of patterns tells the first that matches. -/
structure AuthLibrary where
 parseJson : String → Except String JsonValue
 fromSlice : Bytes → Option JsonValue
 render : JsonValue → String
 asU64 : String → Option ℕ
 isWhitespace : Char → Bool
 decodeStandard : String → Option Bytes
 decodeUrlSafe : String → Except String Bytes
 fromUtf8 : Bytes → Except String String
 fromUtf8Lossy : Bytes → String
 bcryptHash : String → Option String
 bcryptVerify : String → String → Option Bool
 hmacVerify : String → String → Bytes → Except String Bool
 now : ℕ
 parseIp : String → Option IpAddr
 parseU8 : String → Option ℕ
 regexSet : List String → Option (String → Option ℕ)
 parseIp_loopback : parseIp "127.0.0.1" = some (.v4 0x7F000001)
 regexSet_traversal : ∀ set, regexSet ["(?i)" ++ pathTraversal] = some set → set "" = none

def AuthLibrary.fromStr (lib : AuthLibrary) (s : String) : Option JsonValue :=
 (lib.parseJson s).toOption

def header (name : String) (req : Request) : Option String :=
 (req.headers.find? fun h => eqIgnoreAsciiCase h.1 name).map Prod.snd

def textAfter (start s : String) : Option String :=
 if startsWith s start then some (ofList (s.toList.drop start.length)) else none

inductive AuthResult
 | authenticated (user : String) (claims : List (String × String))
 | denied (status : ℕ) (message : String)

section
variable (lib : AuthLibrary)

def trim (s : List Char) : List Char :=
 ((s.dropWhile lib.isWhitespace).reverse.dropWhile lib.isWhitespace).reverse

def parseHtpasswd (htpasswd : String) : KeyedMap String String :=
 (htpasswd.toList.splitOn '\n').foldl (fun users line =>
  let line := trim lib line
  if line = [] ∨ line.head? = some '#' then users
  else match splitOnce ':' line with
   | some (user,pass) => users.set (ofList user) (ofList pass)
   | none => users) ∅

structure BasicAuth where
 realm : String
 users : KeyedMap String String

/-- Passwords that are not bcrypt hashes yet are hashed; one that cannot be hashed stays. -/
def BasicAuth.new (realm : String) (users : KeyedMap String String) : BasicAuth where
 realm := realm
 users := users.pairs.foldl (fun acc (user,pass) => acc.set user
  (if startsWith pass "$2b$" then pass else (lib.bcryptHash pass).getD pass)) ∅

def BasicAuth.credentials (encoded : String) : Option (String × String) := do
 let decoded ← lib.decodeStandard encoded
 let creds ← (lib.fromUtf8 decoded).toOption
 let (user,pass) ← splitOnce ':' creds.toList
 return (ofList user,ofList pass)

def BasicAuth.check (auth : BasicAuth) (req : Request) : AuthResult :=
 match (header "authorization" req).bind (textAfter "Basic ") with
 | none => .denied 401 "Authentication required"
 | some encoded =>
  match BasicAuth.credentials lib encoded with
  | none => .denied 401 "Invalid credentials"
  | some (user,pass) =>
   match auth.users.find? user with
   | some hash =>
    if (lib.bcryptVerify pass hash).getD false then .authenticated user []
    else .denied 401 "Invalid credentials"
   | none => .denied 401 "Invalid credentials"

def basicAuthOf (config : JsonValue) : BasicAuth :=
 BasicAuth.new lib ((config.index "realm").asStr.getD "Restricted")
  (match (config.index "htpasswd").asStr with
   | some htpasswd => parseHtpasswd lib htpasswd
   | none => ∅)

def basicAuthEngine (_name : String) (config : JsonValue) (req : Request) : Option Response :=
 match (basicAuthOf lib config).check lib req with
 | .authenticated _ _ => none
 | .denied status message => some ⟨status,[("Content-Type","text/plain"),
   ("WWW-Authenticate","Basic realm=\"" ++ (basicAuthOf lib config).realm ++ "\"")],message⟩

structure JwtConfig where
 (secret issuer : Option String)
 (audiences requiredClaims : List String)

structure JwtClaims where
 (sub iss aud : Option String)
 (exp nbf iat : Option ℕ)
 extra : List (String × String)

def jsonU64 : JsonValue → Option ℕ
 | .num text => lib.asU64 text
 | _ => none

def registeredClaims : List String := ["sub","iss","aud","exp","nbf","iat"]

def parseJwtClaims (json : String) : Except String JwtClaims :=
 match lib.parseJson json with
 | .error e => .error ("invalid JSON payload: " ++ e)
 | .ok (.obj fields) => .ok
  { sub := (fields.lookup "sub").bind asStr
    iss := (fields.lookup "iss").bind asStr
    aud := (fields.lookup "aud").bind asStr
    exp := (fields.lookup "exp").bind (jsonU64 lib)
    nbf := (fields.lookup "nbf").bind (jsonU64 lib)
    iat := (fields.lookup "iat").bind (jsonU64 lib)
    extra := (fields.filter fun f => f.1 ∉ registeredClaims).map fun f =>
     (f.1,f.2.asStr.getD (lib.render f.2)) }
 | .ok _ => .error "JWT payload is not a JSON object"

def JwtClaims.has (claims : JwtClaims) : String → Bool
 | "sub" => claims.sub.isSome
 | "iss" => claims.iss.isSome
 | "aud" => claims.aud.isSome
 | "exp" => claims.exp.isSome
 | "nbf" => claims.nbf.isSome
 | "iat" => claims.iat.isSome
 | other => claims.extra.any fun c => c.1 = other

def headerAlg (part : String) : Option String := do
 let bytes ← (lib.decodeUrlSafe part).toOption
 let json ← lib.fromSlice bytes
 (json.index "alg").asStr

def verifySignature (secret : Option String) (signingInput signature : String) :
  Except String Unit :=
 match secret with
 | none => .error "no signing secret configured — rejecting token"
 | some secret => do
  let sig ← (lib.decodeUrlSafe signature).mapError ("signature base64 decode error: " ++ ·)
  let valid ← (lib.hmacVerify secret signingInput sig).mapError ("HMAC key error: " ++ ·)
  if valid then .ok () else .error "invalid signature"

def checkAudience (audiences : List String) : Option String → Except String Unit
 | some aud => if audiences = [] ∨ aud ∈ audiences then .ok () else .error "invalid audience"
 | none => if audiences = [] then .ok () else .error "missing audience"

def checkClaims (config : JwtConfig) (claims : JwtClaims) : Except String Unit := do
 if claims.exp.any (· < lib.now) then throw "token expired"
 if claims.nbf.any (lib.now < ·) then throw "token not yet valid"
 if config.issuer.isSome ∧ claims.iss ≠ config.issuer then throw "invalid issuer"
 checkAudience config.audiences claims.aud
 match config.requiredClaims.find? fun c => !claims.has c with
 | some claim => throw ("missing required claim: " ++ claim)
 | none => return ()

def JwtConfig.validate (config : JwtConfig) (token : String) : Except String JwtClaims :=
 match (token.toList.splitOn '.').map ofList with
 | [head,payload,signature] => do
  if (headerAlg lib head).any (eqIgnoreAsciiCase · "none") then
   throw "algorithm 'none' is not permitted"
  verifySignature lib config.secret (head ++ "." ++ payload) signature
  let bytes ← (lib.decodeUrlSafe payload).mapError ("base64 decode error: " ++ ·)
  let text ← (lib.fromUtf8 bytes).mapError ("UTF-8 error: " ++ ·)
  let claims ← parseJwtClaims lib text
  checkClaims lib config claims
  return claims
 | _ => .error "invalid JWT format"

def JwtConfig.check (config : JwtConfig) (req : Request) : AuthResult :=
 match (header "authorization" req).bind (textAfter "Bearer ") with
 | none => .denied 401 "Bearer token required"
 | some token =>
  match config.validate lib token with
  | .ok claims => .authenticated (claims.sub.getD "") claims.extra
  | .error e => .denied 401 e

def jwtConfigOf (config : JsonValue) : JwtConfig where
 secret := (config.index "secret").asStr
 issuer := (config.index "issuer").asStr
 audiences := (config.index "audiences").strings
 requiredClaims := (config.index "required_claims").strings

def jwtEngine (_name : String) (config : JsonValue) (req : Request) : Option Response :=
 match (jwtConfigOf config).check lib req with
 | .authenticated _ _ => none
 | .denied status message => some ⟨status,[("Content-Type","text/plain")],message⟩

structure CidrRange where
 addr : IpAddr
 prefixLen : ℕ

def IpAddr.width : IpAddr → ℕ
 | .v4 _ => 32
 | .v6 _ => 128

def CidrRange.parse (s : String) : Option CidrRange :=
 match splitOnce '/' s.toList with
 | some (addr,len) => do
  let addr ← lib.parseIp (ofList addr)
  let len ← lib.parseU8 (ofList len)
  if addr.width < len then none else some ⟨addr,len⟩
 | none => (lib.parseIp s).map fun addr => ⟨addr,addr.width⟩

def maskOf (w len : ℕ) : BitVec w :=
 if w ≤ len then BitVec.allOnes w else BitVec.allOnes w <<< (w - len)

def CidrRange.contains (range : CidrRange) (ip : IpAddr) : Bool :=
 match range.addr, ip with
 | .v4 net, .v4 ip => range.prefixLen = 0 ||
   net &&& maskOf 32 range.prefixLen = ip &&& maskOf 32 range.prefixLen
 | .v6 net, .v6 ip => range.prefixLen = 0 ||
   net &&& maskOf 128 range.prefixLen = ip &&& maskOf 128 range.prefixLen
 | _, _ => false

structure IpFilter where
 (allowlist denylist : List CidrRange)
 trustXff : Bool
 xffDepth : ℕ

def IpFilter.extractIp (filter : IpFilter) (req : Request) : String :=
 if filter.trustXff then
  match header "x-forwarded-for" req with
  | some xff =>
   let ips := (xff.toList.splitOn ',').map fun s => ofList (trim lib s)
   (ips[ips.length - filter.xffDepth]?).getD req.clientIp
  | none => req.clientIp
 else req.clientIp

/-- The deny list takes precedence, and an empty allow list restricts nothing. -/
def IpFilter.permits (filter : IpFilter) (ip : IpAddr) : Bool :=
 !(filter.denylist.any fun r => r.contains ip) &&
  (filter.allowlist.isEmpty || filter.allowlist.any fun r => r.contains ip)

def IpFilter.check (filter : IpFilter) (req : Request) : Bool :=
 (lib.parseIp (filter.extractIp lib req)).any filter.permits

def ipFilterAction (config : JsonValue) : String := (config.index "action").asStr.getD "allow"

def ipFilterRanges (config : JsonValue) : List CidrRange :=
 (config.index "cidrs").strings.filterMap (CidrRange.parse lib)

def ipFilterOf (config : JsonValue) : IpFilter where
 allowlist := if ipFilterAction config = "deny" then [] else ipFilterRanges lib config
 denylist := if ipFilterAction config = "deny" then ipFilterRanges lib config else []
 trustXff := (config.index "source_header").asStr.getD "" ≠ ""
 xffDepth := 1

def ipFilterEngine (_name : String) (config : JsonValue) (req : Request) : Option Response :=
 if (ipFilterOf lib config).check lib req then none else some (Response.withStatus 403 "Forbidden")

inductive WafMode
 | block
 | detect

inductive WafTarget
 | uri
 | queryString
 | headers
 | body
 | userAgent
 deriving DecidableEq

structure WafRule where
 id : ℕ
 description : String
 target : WafTarget
 pattern : String

def defaultRules : List WafRule := [ ⟨941100,"XSS Attack: Script Tag",.queryString,"<\\s*script"⟩,
 ⟨941110,"XSS Attack: Event Handler",.queryString,"on\\w+\\s*="⟩,
 ⟨942100,"SQL Injection: Common Keywords",.queryString,"union\\s+select"⟩,
 ⟨942110,"SQL Injection: OR/AND Bypass",.queryString,"'\\s*or\\s+'[^']*'\\s*=\\s*'"⟩,
 ⟨930100,"Path Traversal",.uri,pathTraversal⟩,
 ⟨913100,"Scanner/Bot Detection",.userAgent,"sqlmap"⟩,
 ⟨913110,"Scanner/Bot Detection: Nikto",.userAgent,"nikto"⟩,
 ⟨932100,"Command Injection: Shell Metacharacters",.queryString,"[;|`]\\s*\\w+"⟩,
 ⟨944100,"Log4Shell: JNDI Injection",.headers,"\\$\\\x7bjndi:"⟩,
 ⟨944110,"Log4Shell: JNDI Injection in Query",.queryString,"\\$\\\x7bjndi:"⟩,
 ⟨934100,"XXE: External Entity Declaration",.body,"<!ENTITY"⟩,
 ⟨930110,"Path Traversal in Query String",.queryString,pathTraversal⟩,
 ⟨934110,"SSRF: Internal Network Address",.queryString,"(?:https?://)?(?:127\\.|10\\." ++
  "|172\\.(?:1[6-9]|2\\d|3[01])\\.|192\\.168\\.|0\\.0\\.0\\.0|localhost|\\[::1\\])"⟩]

/-- The firewall's single decoding. An escape that is none loses two bytes. -/
def urlDecodeSingle : List UInt8 → List Char
 | 37::h::l::rest => match hexVal h, hexVal l with
  | some hi, some lo => Char.ofNat ((hi <<< 4) ||| lo).toNat::urlDecodeSingle rest
  | _, _ => '%' :: urlDecodeSingle rest
 | 37::_ => ['%']
 | b::rest => (if b = 43 then ' ' else Char.ofNat b.toNat)::urlDecodeSingle rest
 | [] => []

def urlDecodePasses : ℕ → String → String
 | 0, s => s
 | n+1, s =>
  let decoded := ofList (urlDecodeSingle s.toUTF8.toList)
  if decoded = s then s else urlDecodePasses n decoded

def urlDecode (s : String) : String := urlDecodePasses 3 s

def wafMatch (rules : List WafRule) (target : WafTarget) (text : String) : Option WafRule := do
 let rules := rules.filter fun r => r.pattern ≠ "" ∧ r.target = target
 if rules = [] then none else
 let set ← lib.regexSet (rules.map fun r => "(?i)" ++ r.pattern)
 let idx ← set text
 rules[idx]?

def wafFind (rules : List WafRule) (req : Request) : Option WafRule :=
 (wafMatch lib rules .uri (urlDecode req.path)).or <|
 ((splitOnce '?' req.path.toList).bind fun q =>
  wafMatch lib rules .queryString (urlDecode (ofList q.2))).or <|
 (req.headers.findSome? fun h => wafMatch lib rules .headers h.2).or <|
 ((header "user-agent" req).bind (wafMatch lib rules .userAgent)).or <|
 req.body.bind fun body => wafMatch lib rules .body (lib.fromUtf8Lossy body)

def wafMode (config : JsonValue) : WafMode :=
 if (config.index "mode").asStr.getD "prevention" = "detection" then .detect else .block

/-- Detected requests pass, as everything does when the firewall is disabled. -/
def wafEngine (_name : String) (config : JsonValue) (req : Request) : Option Response :=
 if (config.index "enabled").asBool.getD true = false then none
 else match wafMode config, wafFind lib defaultRules req with
  | .block, some _ => some (Response.withStatus 403 "Forbidden")
  | _, _ => none

end

/-- The engines of the chain. The decisions of the rate limiter and of CORS stay parameters. -/
def chainEngines (lib : AuthLibrary)
  (rateLimit cors : String → JsonValue → Request → Option Response) : PolicyEngines where
 fromStr := lib.fromStr
 rateLimit := rateLimit
 basicAuth := basicAuthEngine lib
 jwt := jwtEngine lib
 cors := cors
 ipFilter := ipFilterEngine lib
 waf := wafEngine lib

end Dataplane

end NovaEdge
