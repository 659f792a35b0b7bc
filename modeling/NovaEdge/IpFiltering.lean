import NovaEdge.FailClosed
import NovaEdge.LeastConnections

/-! Address ranges: the two tests of the dataplane against the bits that an address shares with a
network, and what the filter of a route lets through. -/
namespace NovaEdge.Dataplane
open List BitVec

def SharePrefix (len : ℕ) : IpAddr → IpAddr → Prop
 | .v4 a, .v4 b => ∀ i < len, a.getMsbD i = b.getMsbD i
 | .v6 a, .v6 b => ∀ i < len, a.getMsbD i = b.getMsbD i
 | _, _ => False

lemma getMsbD_maskOf (w len i : ℕ) : (maskOf w len).getMsbD i = decide (i < w ∧ i < len) := by
 unfold maskOf
 split_ifs with h
 · simp only [getMsbD_allOnes,decide_eq_decide]
   omega
 · simp only [getMsbD_shiftLeft,getMsbD_allOnes,decide_eq_decide]
   omega

lemma and_maskOf_eq_iff {w : ℕ} (len : ℕ) (a b : BitVec w) :
  a &&& maskOf w len = b &&& maskOf w len ↔ ∀ i < len, a.getMsbD i = b.getMsbD i := by
 constructor
 · intro h i hi
   by_cases hw : i < w
   · simpa [getMsbD_maskOf,hw,hi] using congrArg (getMsbD · i) h
   · rw [getMsbD_of_ge a i (not_lt.mp hw),getMsbD_of_ge b i (not_lt.mp hw)]
 · intro h
   refine eq_of_getMsbD_eq fun i hw => ?_
   by_cases hi : i < len
   · simp [getMsbD_maskOf,hi,h i hi]
   · simp [getMsbD_maskOf,hi]

attribute [local simp] SharePrefix

lemma contains_iff (ran : CidrRange) (ip : IpAddr) :
  ran.contains ip = true ↔ SharePrefix ran.prefixLen ran.addr ip := by
 obtain ⟨net,len⟩ := ran
 have h : ∀ {w} (a b : BitVec w), (len = 0 ∨ a &&& maskOf w len = b &&& maskOf w len) ↔
   ∀ i < len, a.getMsbD i = b.getMsbD i := by
  intro w a b
  rw [and_maskOf_eq_iff,or_iff_right_iff_imp]
  rintro rfl i hi
  omega
 cases net <;> cases ip <;> simp [CidrRange.contains,h]

/-- A shift by the whole width is an overflow; unchecked, the amount is taken modulo the width. -/
def shlMax (overflowChecks : Bool) (w n : ℕ) : Except Panic (BitVec w) :=
 if overflowChecks = true ∧ w ≤ n then .error .overflow else .ok (BitVec.allOnes w <<< (n % w))

def bitsInCidr (overflowChecks : Bool) {w : ℕ} (addr net : BitVec w) (prefixLen : ℕ) :
  Except Panic Bool :=
 if w ≤ prefixLen then .ok (addr = net)
 else do
  let mask ← shlMax overflowChecks w (w - prefixLen)
  return addr &&& mask = net &&& mask

def ipInCidr (lib : AuthLibrary) (overflowChecks : Bool) (ipStr : String) (network : IpAddr)
  (prefixLen : ℕ) : Except Panic Bool :=
 match lib.parseIp ipStr, network with
 | some (.v4 addr), .v4 net => bitsInCidr overflowChecks addr net prefixLen
 | some (.v6 addr), .v6 net => bitsInCidr overflowChecks addr net prefixLen
 | _, _ => .ok false

/-- A call that returns, with the truth value of the proposition. -/
def Answers (result : Except Panic Bool) (P : Prop) : Prop := ∃ b, result = .ok b ∧ (b = true ↔ P)

lemma bitsInCidr_answers_iff {w : ℕ} (hw : 0 < w) (addr net : BitVec w) (len : ℕ) :
  (∀ checks, Answers (bitsInCidr checks addr net len)
   (∀ i < len, net.getMsbD i = addr.getMsbD i)) ↔ 0 < len := by
 constructor
 · intro h
   by_contra hl
   obtain rfl : len = 0 := by omega
   obtain ⟨b,hb,-⟩ := h true
   simp [bitsInCidr,shlMax,hw.ne',bind,Except.bind] at hb
 · intro hl checks
   have hm := and_maskOf_eq_iff len net addr
   unfold maskOf at hm
   unfold bitsInCidr
   split_ifs at hm ⊢ with hle
   · refine ⟨_,rfl,?_⟩
     rw [decide_eq_true_iff,← hm,and_allOnes,and_allOnes,eq_comm]
   · have hs : shlMax checks w (w - len) = .ok (allOnes w <<< (w - len)) := by
      rw [shlMax,if_neg (by omega),Nat.mod_eq_of_lt (by omega)]
     refine ⟨_,by rw [hs]; rfl,?_⟩
     rw [decide_eq_true_iff,← hm,eq_comm]

/-- Both tests compare the first bits, the one of the flow stream exactly if there are any to
compare or the families differ. -/
theorem cidr_tests_iff (lib : AuthLibrary) {ipStr : String} {ip : IpAddr}
  (hp : lib.parseIp ipStr = some ip) (network : IpAddr) {len : ℕ} (hl : len ≤ network.width) :
  ((∀ checks, Answers (ipInCidr lib checks ipStr network len) (SharePrefix len network ip)) ∧
   ((CidrRange.mk network len).contains ip = true ↔ SharePrefix len network ip)) ↔
  0 < len ∨ network.width ≠ ip.width := by
 rw [and_iff_left (contains_iff ⟨network,len⟩ ip)]
 cases network with
 | v4 net =>
  cases ip with
  | v4 addr =>
   simp only [ipInCidr,hp,SharePrefix,IpAddr.width,ne_eq,not_true,or_false]
   exact bitsInCidr_answers_iff (by omega) addr net len
  | v6 addr => simp [ipInCidr,hp,IpAddr.width,Answers]
 | v6 net =>
  cases ip with
  | v4 addr => simp [ipInCidr,hp,IpAddr.width,Answers]
  | v6 addr =>
   simp only [ipInCidr,hp,SharePrefix,IpAddr.width,ne_eq,not_true,or_false]
   exact bitsInCidr_answers_iff (by omega) addr net len

theorem loopback_tests_agree :
  (∀ checks, Answers (ipInCidr (fixedLibrary "null" .null) checks "127.0.0.1" (.v4 0x7F000000) 8)
   (SharePrefix 8 (.v4 0x7F000000) (.v4 0x7F000001))) ∧
  ((CidrRange.mk (.v4 0x7F000000) 8).contains (.v4 0x7F000001) = true ↔
   SharePrefix 8 (.v4 0x7F000000) (.v4 0x7F000001)) :=
 (cidr_tests_iff (fixedLibrary "null" .null) rfl (.v4 0x7F000000) (by decide)).mpr (.inl (by decide))

/-- The network of all addresses has the loopback address for one test only. -/
theorem default_network_missed : SharePrefix 0 (.v4 0) (.v4 0x7F000001) ∧
  (CidrRange.mk (.v4 0) 0).contains (.v4 0x7F000001) = true ∧
  ipInCidr (fixedLibrary "null" .null) false "127.0.0.1" (.v4 0) 0 = .ok false ∧
  ipInCidr (fixedLibrary "null" .null) true "127.0.0.1" (.v4 0) 0 = .error .overflow :=
 ⟨by simp,by decide,rfl,rfl⟩

attribute [local simp] ipFilterOf

section
variable (lib : AuthLibrary) (config : JsonValue) (req : Request)

/-- The last entry of the header, the address of the peer without it. -/
def headerAddress (name : String) : Option IpAddr := lib.parseIp (match header name req with
  | some value => String.ofList (trim lib ((value.toList.splitOn ',').getLast?.getD []))
  | none => req.clientIp)

def sourceHeader : String := (config.index "source_header").asStr.getD ""

def addressFrom (name : String) : Option IpAddr :=
 if sourceHeader config = "" then lib.parseIp req.clientIp else headerAddress lib req name

/-- An entry that cannot be read stands for no address: it lets nobody pass an allow list, and
keeps nobody off by a deny list. -/
def Listed (ip : Option IpAddr) : Prop :=
 ∃ addr, ip = some addr ∧ ∃ range ∈ ipFilterRanges lib config,
  SharePrefix range.prefixLen range.addr addr

/-- What is to pass and what is not, for the address in the header that is configured. -/
structure FiltersSoundly (name : String) : Prop where
 allow : ipFilterAction config ≠ "deny" → ipFilterEngine lib name config req = none →
  Listed lib config (addressFrom lib config req (sourceHeader config))
 deny : ipFilterAction config = "deny" →
  Listed lib config (addressFrom lib config req (sourceHeader config)) →
  ipFilterEngine lib name config req ≠ none

/-- The filter looks into one fixed header, and a list without readable entries restricts
nothing. -/
structure SameSide : Prop where
 readable : ipFilterAction config ≠ "deny" →
  addressFrom lib config req "x-forwarded-for" ≠ none → ipFilterRanges lib config ≠ []
 allow : ipFilterAction config ≠ "deny" →
  Listed lib config (addressFrom lib config req "x-forwarded-for") →
  Listed lib config (addressFrom lib config req (sourceHeader config))
 deny : ipFilterAction config = "deny" →
  Listed lib config (addressFrom lib config req (sourceHeader config)) →
  addressFrom lib config req "x-forwarded-for" = none ∨
   Listed lib config (addressFrom lib config req "x-forwarded-for")

variable {lib config req}

lemma parseIp_extractIp : lib.parseIp ((ipFilterOf lib config).extractIp lib req) =
  addressFrom lib config req "x-forwarded-for" := by
 unfold addressFrom headerAddress IpFilter.extractIp
 by_cases hs : sourceHeader config = ""
 · rw [if_pos hs,if_neg (by simpa [sourceHeader] using hs)]
 · rw [if_neg hs,if_pos (by simpa [sourceHeader] using hs)]
   cases header "x-forwarded-for" req with
   | none => rfl
   | some value =>
    have hn := splitOn_ne_nil ',' value.toList
    simp [← getLast?_eq_getElem?,getLast?_eq_some_getLast hn]

lemma any_contains_iff (addr : IpAddr) :
  ((ipFilterRanges lib config).any fun r => r.contains addr) = true ↔
   Listed lib config (some addr) := by
 simp [Listed,any_eq_true,contains_iff]

lemma ipFilterEngine_eq_none_iff (name : String) : ipFilterEngine lib name config req = none ↔
  ∃ addr, addressFrom lib config req "x-forwarded-for" = some addr ∧
   (ipFilterOf lib config).permits addr = true := by
 rw [ipFilterEngine,IpFilter.check,parseIp_extractIp]
 cases addressFrom lib config req "x-forwarded-for" <;> simp

lemma permits_deny_iff (h : ipFilterAction config = "deny") (addr : IpAddr) :
  (ipFilterOf lib config).permits addr = true ↔ ¬ Listed lib config (some addr) := by
 simp [IpFilter.permits,h,← any_contains_iff]

lemma permits_allow_iff (h : ipFilterAction config ≠ "deny") (addr : IpAddr) :
  (ipFilterOf lib config).permits addr = true ↔
   ipFilterRanges lib config = [] ∨ Listed lib config (some addr) := by
 simp [IpFilter.permits,h,← any_contains_iff]

end

/-- The filter is sound for a request exactly if the list has a readable entry and the address it
reads is on the same side as the configured one. -/
theorem ip_filter_sound_iff (lib : AuthLibrary) (name : String) (config : JsonValue)
  (req : Request) : FiltersSoundly lib config req name ↔ SameSide lib config req := by
 have hp := @ipFilterEngine_eq_none_iff lib config req name
 constructor
 · rintro ⟨ha,hd⟩
   refine ⟨fun hn hx he => ?_,fun hn hl => ?_,fun he hl => ?_⟩
   · obtain ⟨addr,hx⟩ := ne_none_iff_exists'.mp hx
     obtain ⟨_,-,range,hr,-⟩ := ha hn (hp.mpr ⟨addr,hx,(permits_allow_iff hn addr).mpr (.inl he)⟩)
     rw [he] at hr
     exact not_mem_nil hr
   · obtain ⟨addr,hx,-⟩ := id hl
     exact ha hn (hp.mpr ⟨addr,hx,(permits_allow_iff hn addr).mpr (.inr (hx ▸ hl))⟩)
   · by_contra hc
     obtain ⟨hx,hc⟩ := not_or.mp hc
     obtain ⟨addr,hx⟩ := ne_none_iff_exists'.mp hx
     exact hd he hl (hp.mpr ⟨addr,hx,(permits_deny_iff he addr).mpr (hx ▸ hc)⟩)
 · rintro ⟨hr,ha,hd⟩
   refine ⟨fun hn h => ?_,fun he hl h => ?_⟩
   · obtain ⟨addr,hx,hc⟩ := hp.mp h
     have hl := ((permits_allow_iff hn addr).mp hc).resolve_left (hr hn (by simp [hx]))
     exact ha hn (hx ▸ hl)
   · obtain ⟨addr,hx,hc⟩ := hp.mp h
     refine (permits_deny_iff he addr).mp hc ?_
     rcases hd he hl with hn | hl
     · rw [hx] at hn
       contradiction
     · exact hx ▸ hl

/-- With one mistyped range, the allow list lets any address through. -/
theorem mistyped_range_opens :
  let config := policyConfigToJson mistypedAllowList
  ipFilterEngine (fixedLibrary mistypedText config) "office" config (bareRequest "127.0.0.1") = none ∧
   ¬ FiltersSoundly (fixedLibrary mistypedText config) config (bareRequest "127.0.0.1") "office" := by
 refine ⟨by decide,fun h => ?_⟩
 obtain ⟨_,-,range,hr,-⟩ := h.allow (by decide) (by decide)
 exact absurd hr (by rw [show ipFilterRanges _ _ = [] by decide]; exact not_mem_nil)

end NovaEdge.Dataplane
