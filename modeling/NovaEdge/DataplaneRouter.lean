import NovaEdge.DataplaneConfig
import NovaEdge.PercentEncoding

/-! Route matching of the HTTP proxy and the compilation of the route table into it. -/
namespace NovaEdge.Dataplane

structure TextLibrary where
 regexNew : String → Option (String → Bool)
 fromUtf8Lossy : List UInt8 → String

def noRegex : TextLibrary := ⟨fun _ => none,fun _ => ""⟩

inductive HostMatch
 | exact (host : String)
 | wildcard (pattern : String)

inductive PathMatch
 | exact (path : String)
 | pathPrefix (path : String)
 | regex (isMatch : String → Bool)

inductive HeaderMatchValue
 | exact (value : String)
 | present

structure HeaderMatch where
 name : String
 value : HeaderMatchValue

structure QueryParamMatch where
 (name value : String)

structure Route where
 name : String
 hostnames : List HostMatch
 paths : List PathMatch
 methods : List String
 headers : List HeaderMatch
 queryParams : List QueryParamMatch
 backendRefs : List (String × UInt32)
 priority : Int32
 rewritePath : Option String
 addHeaders : KeyedMap String String
 middlewareRefs : List String
 rrCounter : UInt64

structure RouteRequest where
 host : String := ""
 path : String := "/"
 method : String := "GET"
 headers : List (String × String) := []
 query : Option String := none

def eqIgnoreAsciiCase (a b : String) : Bool :=
 a.toList.map Char.toLower == b.toList.map Char.toLower

def startsWith (s p : String) : Bool := p.toList.isPrefixOf s.toList

def endsWith (s p : String) : Bool := p.toList.isSuffixOf s.toList

def stripWildcard (pattern : String) : Option String :=
 match pattern.toList with
 | '*' :: '.' :: rest => some (String.ofList rest)
 | _ => none

def matchHost (h : HostMatch) (host : String) : Bool :=
 match h with
 | .exact h => eqIgnoreAsciiCase h host
 | .wildcard pattern => match stripWildcard pattern with
  | some suffix => endsWith host suffix && suffix.utf8ByteSize+1 < host.utf8ByteSize
  | none => eqIgnoreAsciiCase pattern host

def matchPath (p : PathMatch) (path : String) : Bool :=
 match p with
 | .exact p => p == path
 | .pathPrefix p => startsWith path p
 | .regex isMatch => isMatch path

def matchHeader (h : HeaderMatch) (headers : List (String × String)) : Bool :=
 headers.any fun (name,value) => eqIgnoreAsciiCase name h.name &&
  match h.value with
  | .exact v => v == value
  | .present => true

abbrev hexVal := PercentEncoding.hexValue

def percentDecodeBytes : List UInt8 → List UInt8
 | 37::h::l::rest => match hexVal h, hexVal l with
  | some hi, some lo => ((hi <<< 4) ||| lo)::percentDecodeBytes rest
  | _, _ => 37::percentDecodeBytes (h::l::rest)
 | b::rest => (if b = 43 then 32 else b)::percentDecodeBytes rest
 | [] => []
termination_by bs => bs.length

def splitOnce (sep : Char) (s : List Char) : Option (List Char × List Char) :=
 match s.span (· ≠ sep) with
 | (k,_::v) => some (k,v)
 | (_,[]) => none

section
variable (lib : TextLibrary)

def percentDecode (s : List Char) : String :=
 lib.fromUtf8Lossy (percentDecodeBytes (String.ofList s).toUTF8.toList)

def matchQueryParam (name value queryStr : String) : Bool :=
 (queryStr.toList.splitOn '&').any fun pair => match splitOnce '=' pair with
  | some (k,v) => percentDecode lib k == name && percentDecode lib v == value
  | none => false

def matchesRoute (route : Route) (r : RouteRequest) : Bool :=
 (route.hostnames.isEmpty || route.hostnames.any fun h => matchHost h r.host) &&
 (route.paths.isEmpty || route.paths.any fun p => matchPath p r.path) &&
 (route.methods.isEmpty || route.methods.any fun m => eqIgnoreAsciiCase m r.method) &&
 (route.headers.all fun h => matchHeader h r.headers) &&
 route.queryParams.all fun q => matchQueryParam lib q.name q.value (r.query.getD "")

structure Router where
 routes : List Route := []
 defaultBackend : Option String := none

def Router.setRoutes (router : Router) (routes : List Route) : Router :=
 { router with routes := routes.insertionSort fun a b => b.priority ≤ a.priority }

def Router.matchRequestWithQuery (router : Router) (r : RouteRequest) : Option Route :=
 router.routes.find? fun route => matchesRoute lib route r

def compileHost (h : String) : HostMatch :=
 if startsWith h "*." then .wildcard h else .exact h

def compilePaths (rs : RouteState) : List PathMatch :=
 (if rs.pathExact = "" then [] else [.exact rs.pathExact]) ++
 (if rs.pathPrefix = "" then [] else [.pathPrefix rs.pathPrefix]) ++
 if rs.pathRegex = "" then [] else ((lib.regexNew rs.pathRegex).map .regex).toList

def compileRoute (rs : RouteState) : Route where
 name := rs.name
 hostnames := rs.hostnames.map compileHost
 paths := compilePaths lib rs
 methods := rs.methods
 headers := []
 queryParams := []
 backendRefs := rs.backendRefs
 priority := rs.priority
 rewritePath := rs.rewritePath
 addHeaders := rs.addHeaders
 middlewareRefs := rs.middlewareRefs
 rrCounter := 0

/-- The route table is a hash map: its entries come in the order of the map's iteration. -/
def rebuildRouter (router : Router) (cfg : RuntimeConfig) : Router :=
 router.setRoutes (cfg.routes.values.map (compileRoute lib))

lemma mem_rebuildRouter {rou : Router} {cfg : RuntimeConfig} {rt : Route} :
  rt ∈ (rebuildRouter lib rou cfg).routes ↔ ∃ rs ∈ cfg.routes.values, compileRoute lib rs = rt := by
 simp [rebuildRouter,Router.setRoutes]

lemma isSome_matchRequestWithQuery_iff (rr : Router) (r : RouteRequest) :
  (rr.matchRequestWithQuery lib r).isSome ↔ ∃ rt ∈ rr.routes, matchesRoute lib rt r := by
 simp [Router.matchRequestWithQuery]

end

def walkWeights : List (String × UInt32) → UInt32 → Option String
 | [], _ => none
 | (name,weight)::rest, remaining =>
  if remaining < weight then some name else walkWeights rest (remaining - weight)

/-- The selected cluster and the new counter; the counter moves only in the weighted case. -/
def Route.selectBackend (route : Route) : Option String × UInt64 :=
 match route.backendRefs with
 | [] => (none,route.rrCounter)
 | [(name,_)] => (some name,route.rrCounter)
 | (first,w)::rest =>
  let total := ((first,w)::rest).foldl (fun acc b => acc+b.2) (0 : UInt32)
  if total = 0 then (some first,route.rrCounter)
  else
   let slot := route.rrCounter % total.toUInt64
   (some ((walkWeights ((first,w)::rest) slot.toUInt32).getD first),route.rrCounter+1)

end NovaEdge.Dataplane
