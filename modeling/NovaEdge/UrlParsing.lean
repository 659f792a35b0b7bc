import Mathlib.Data.List.TakeWhile
import NovaEdge.PercentEncoding

/-! URLs as byte strings, parsed and printed the way Go's `net/url` does it: the fragment and the
query are cut off first, the authority ends at the next slash and the path is unescaped. -/
namespace NovaEdge.UrlParsing
open PercentEncoding List

abbrev Bytes := List UInt8

def slash : UInt8 := 47

def question : UInt8 := 63

def numberSign : UInt8 := 35

def colon : UInt8 := 58

def isLower (b : UInt8) : Bool := 97 ≤ b && b ≤ 122

def isUpper (b : UInt8) : Bool := 65 ≤ b && b ≤ 90

def isDigit (b : UInt8) : Bool := 48 ≤ b && b ≤ 57

def isControl (b : UInt8) : Bool := b < 32 || b = 127

def toLower (b : UInt8) : UInt8 := if isUpper b then b+32 else b

def isSchemeByte (b : UInt8) : Bool :=
 isLower b || isUpper b || isDigit b || (ascii "+-.").contains b

def isUnreserved (b : UInt8) : Bool :=
 isLower b || isUpper b || isDigit b || (ascii "-_.~").contains b

inductive Encoding
 | host
 | path
 | fragment

def Encoding.literals : Encoding → Bytes
 | .host => ascii "!$&'()*+,;=:[]<>\""
 | .path => ascii "$&+,/:;=@"
 | .fragment => ascii "$&+,/:;=?@!()*"

def shouldEscape (mode : Encoding) (b : UInt8) : Bool :=
 !(isUnreserved b || mode.literals.contains b)

def isEncodedByte (mode : Encoding) (b : UInt8) : Bool :=
 (ascii "!$&'()*+,;=:@[]%").contains b || !shouldEscape mode b

def validEncoded (mode : Encoding) (s : Bytes) : Bool := s.all (isEncodedByte mode)

/-- A URL without user information; `opaqueData` is what follows the scheme where no slash does. -/
structure URL where
 (scheme opaqueData host path rawPath : Bytes := [])
 forceQuery : Bool := false
 (rawQuery fragment rawFragment : Bytes := [])
 deriving DecidableEq

/-- Ports, user information and address literals are left to it. -/
structure AuthorityParser where
 parse : Bytes → Option Bytes
 parse_name : ∀ host : Bytes, (∀ b ∈ host, isUnreserved b) → parse host = some host

def cut (sep : UInt8) (s : Bytes) : Bytes × Bytes :=
 (s.takeWhile (· ≠ sep),(s.dropWhile (· ≠ sep)).drop 1)

def getScheme (rawURL : Bytes) : Option (Bytes × Bytes) :=
 match rawURL.takeWhile isSchemeByte, rawURL.dropWhile isSchemeByte with
 | [], b::_ => if b = colon then none else some ([],rawURL)
 | first::scheme, b::rest =>
  if b = colon ∧ (isLower first || isUpper first) then some (first::scheme,rest)
  else some ([],rawURL)
 | _, [] => some ([],rawURL)

def URL.setPath (u : URL) (p : Bytes) : Option URL := (unescape p).map fun path =>
  { u with path := path, rawPath := if escape (shouldEscape .path) path = p then [] else p }

def URL.setFragment (u : URL) (f : Bytes) : Option URL := (unescape f).map fun fragment =>
  { u with
    fragment := fragment
    rawFragment := if escape (shouldEscape .fragment) fragment = f then [] else f }

def parseRest (authority : AuthorityParser) (scheme rest : Bytes) : Option URL :=
 let hier := (cut question rest).1
 let query := (cut question rest).2
 -- the query is forced if the only question mark ends the text
 let u : URL :=
  { scheme := scheme.map toLower
    forceQuery := rest.contains question && query.isEmpty
    rawQuery := query }
 if ¬(ascii "/").isPrefixOf hier ∧ u.scheme ≠ [] then some { u with opaqueData := hier }
 else if ¬(ascii "/").isPrefixOf hier ∧ colon ∈ (cut slash hier).1 then none
 else if (ascii "//").isPrefixOf hier ∧ (u.scheme ≠ [] ∨ ¬(ascii "///").isPrefixOf hier) then
  let rest := hier.drop 2
  (authority.parse (rest.takeWhile (· ≠ slash))).bind fun host =>
   URL.setPath { u with host := host } (rest.dropWhile (· ≠ slash))
 else u.setPath hier

def parseWithoutFragment (authority : AuthorityParser) (rawURL : Bytes) : Option URL :=
 if rawURL.any isControl then none
 else if rawURL = ascii "*" then some { path := rawURL }
 else (getScheme rawURL).bind fun s => parseRest authority s.1 s.2

def parse (authority : AuthorityParser) (rawURL : Bytes) : Option URL :=
 let frag := (cut numberSign rawURL).2
 (parseWithoutFragment authority (cut numberSign rawURL).1).bind fun u =>
  if frag = [] then some u else u.setFragment frag

def URL.escapedPath (u : URL) : Bytes :=
 if u.rawPath ≠ [] ∧ validEncoded .path u.rawPath ∧ unescape u.rawPath = some u.path then u.rawPath
 else if u.path = ascii "*" then u.path
 else escape (shouldEscape .path) u.path

def URL.escapedFragment (u : URL) : Bytes :=
 if u.rawFragment ≠ [] ∧ validEncoded .fragment u.rawFragment ∧
   unescape u.rawFragment = some u.fragment then u.rawFragment
 else escape (shouldEscape .fragment) u.fragment

def URL.suffix (u : URL) : Bytes :=
 (if u.forceQuery ∨ u.rawQuery ≠ [] then question::u.rawQuery else []) ++
  (if u.fragment ≠ [] then numberSign::u.escapedFragment else [])

/-- The text of a URL that has a scheme, a host and no path or an absolute one. -/
def URL.string (u : URL) : Bytes :=
 u.scheme ++ ascii "://" ++ escape (shouldEscape .host) u.host ++ (u.escapedPath ++ u.suffix)

lemma ne_of_isUnreserved : ∀ b : UInt8, isUnreserved b →
  b ≠ slash ∧ b ≠ question ∧ b ≠ numberSign ∧ isControl b = false :=
 forall_byte (by decide +kernel)

lemma of_isLower : ∀ b : UInt8, isLower b → isSchemeByte b ∧ isUnreserved b ∧ toLower b = b :=
 forall_byte (by decide +kernel)

lemma isEncodedByte_of_isControl : ∀ b : UInt8, isControl b → isEncodedByte .path b = false :=
 forall_byte (by decide +kernel)

lemma ne_of_isEncodedByte (b : UInt8) (h : isEncodedByte .path b) :
  b ≠ question ∧ b ≠ numberSign ∧ isControl b = false := by
 refine ⟨?_,?_,?_⟩
 · rintro rfl
   cases h
 · rintro rfl
   cases h
 · by_contra hc
   have hn := isEncodedByte_of_isControl b (Bool.eq_true_of_not_eq_false hc)
   rw [h] at hn
   cases hn

lemma isEncodedByte_of_hexValue : ∀ b : UInt8, (hexValue b).isSome → isEncodedByte .path b :=
 forall_byte (by decide +kernel)

theorem unescape_escapedPath (u : URL) : unescape u.escapedPath = some u.path := by
 unfold URL.escapedPath
 split_ifs with hr ht
 · exact hr.2.2
 · rw [ht]
   rfl
 · exact unescape_escape (by decide) u.path

lemma isEncodedByte_of_mem_escapedPath {u : URL} {b : UInt8} (h : b ∈ u.escapedPath) :
  isEncodedByte .path b := by
 unfold URL.escapedPath at h
 split_ifs at h with hr ht
 · exact all_eq_true.mp hr.2.1 b h
 · rw [ht] at h
   rw [mem_singleton.mp h]
   decide
 · rcases mem_escape h with hf | rfl | hh
   · simp [isEncodedByte,hf]
   · decide
   · exact isEncodedByte_of_hexValue b hh

lemma takeWhile_dropWhile_append {f : UInt8 → Bool} {s t : Bytes} (hs : ∀ b ∈ s, f b)
  (ht : ∀ b ∈ t.head?, f b = false) : (s ++ t).takeWhile f = s ∧ (s ++ t).dropWhile f = t := by
 rw [takeWhile_append_of_pos hs,dropWhile_append_of_pos hs]
 cases t with
 | nil => simp
 | cons b t => simp [ht b rfl]

variable {s : Bytes}

lemma cut_append {sep : UInt8} (h : ∀ b ∈ s, b ≠ sep) (t : Bytes) :
  cut sep (s ++ t) = (s ++ (cut sep t).1,(cut sep t).2) := by
 have hs : ∀ b ∈ s, decide (b ≠ sep) = true := fun b hb => decide_eq_true (h b hb)
 simp only [cut,takeWhile_append_of_pos hs,dropWhile_append_of_pos hs]

lemma contains_append {sep : UInt8} (h : ∀ b ∈ s, b ≠ sep) (t : Bytes) :
  (s ++ t).contains sep = t.contains sep := by
 have hs : sep ∉ s := fun hm => h sep hm rfl
 simp [hs]

lemma getScheme_append {sch : Bytes} (hn : sch ≠ []) (hl : ∀ b ∈ sch, isLower b)
  (rest : Bytes) : getScheme (sch ++ colon::rest) = some (sch,rest) := by
 have hy : ∀ b ∈ sch, isSchemeByte b := fun b hb => (of_isLower b (hl b hb)).1
 have hc : ∀ b ∈ (colon::rest).head?, isSchemeByte b = false := by
  rintro b ⟨⟩
  decide
 obtain ⟨ht,hr⟩ := takeWhile_dropWhile_append hy hc
 obtain ⟨fi,sch,rfl⟩ := exists_cons_of_ne_nil hn
 have hf := hl fi mem_cons_self
 simp only [getScheme,ht,hr,hf,Bool.true_or,and_self,if_true]

def staysInPath (b : UInt8) : Bool := b ≠ question && b ≠ numberSign

def IsSuffix (tail : Bytes) : Prop := ∀ b ∈ tail.head?, b = question ∨ b = numberSign

lemma isSuffix_dropWhile (s : Bytes) : IsSuffix (s.dropWhile staysInPath) := by
 intro b hb
 have hn := head?_dropWhile_not staysInPath s
 rw [Option.mem_def.mp hb] at hn
 simp only [staysInPath] at hn
 by_cases hq : b = question
 · exact Or.inl hq
 · exact Or.inr (by simpa [hq] using hn)

lemma ne_of_all_staysInPath (h : s.all staysInPath) : ∀ b ∈ s, b ≠ question ∧ b ≠ numberSign := by
 intro b hb
 simpa [staysInPath] using all_eq_true.mp h b hb

lemma ne_of_mem_takeWhile {b : UInt8} (h : b ∈ s.takeWhile staysInPath) :
  b ≠ question ∧ b ≠ numberSign :=
 ne_of_all_staysInPath all_takeWhile b h

lemma IsSuffix.cut_numberSign {tail : Bytes} (h : IsSuffix tail) :
  (cut question (cut numberSign tail).1).1 = [] := by
 cases tail with
 | nil => rfl
 | cons b tail =>
  rcases h b rfl with rfl | rfl
  · have hn : question ≠ numberSign := by decide
    simp [cut,hn]
  · simp [cut]

lemma URL.isSuffix_suffix (u : URL) : IsSuffix u.suffix := by
 intro b hb
 unfold URL.suffix at hb
 split_ifs at hb <;> simp_all

structure IsAuthority (scheme host : Bytes) : Prop where
 scheme_ne : scheme ≠ []
 scheme_lower : ∀ b ∈ scheme, isLower b
 host_name : ∀ b ∈ host, isUnreserved b

structure IsPath (p : Bytes) : Prop where
 clean : ∀ b ∈ p, b ≠ question ∧ b ≠ numberSign
 absolute : p.head? = some slash

def authorityURL (scheme host query : Bytes) : URL :=
 { scheme := scheme
   host := host
   forceQuery := query.contains question && (cut question query).2.isEmpty
   rawQuery := (cut question query).2 }

section
variable {sch host p : Bytes}

lemma IsAuthority.free (h : IsAuthority sch host) :
  ∀ b ∈ sch ++ ascii "://" ++ host, b ≠ numberSign ∧ isControl b = false := by
 have hse : (ascii "://").all fun b => b ≠ numberSign && !isControl b := by decide
 intro b hb
 simp only [mem_append] at hb
 rcases hb with (hb | hb) | hb
 · exact (ne_of_isUnreserved b (of_isLower b (h.scheme_lower b hb)).2.1).2.2
 · simpa using all_eq_true.mp hse b hb
 · exact (ne_of_isUnreserved b (h.host_name b hb)).2.2

lemma IsAuthority.map_toLower (h : IsAuthority sch host) : sch.map toLower = sch := by
 conv_rhs => rw [← map_id sch]
 exact map_congr_left fun b hb => (of_isLower b (h.scheme_lower b hb)).2.2

lemma host_append (h : IsAuthority sch host) (hp : IsPath p) :
  (host ++ p).takeWhile (· ≠ slash) = host ∧ (host ++ p).dropWhile (· ≠ slash) = p := by
 refine takeWhile_dropWhile_append (fun b hb => ?_) fun b hb => ?_
 · exact decide_eq_true (ne_of_isUnreserved b (h.host_name b hb)).1
 · rw [hp.absolute,Option.mem_some_iff] at hb
   simp [hb]

section
variable (aut : AuthorityParser) (h : IsAuthority sch host) (hp : IsPath p)
include h hp

lemma parseRest_authority {que : Bytes} (hq : (cut question que).1 = []) :
  parseRest aut sch (slash::slash::(host ++ (p ++ que))) =
   (authorityURL sch host que).setPath p := by
 have hl : ∀ b ∈ slash::slash::(host ++ p), b ≠ question := by
  intro b hb
  simp only [mem_cons,mem_append] at hb
  rcases hb with rfl | rfl | hb | hb
  · decide
  · decide
  · exact (ne_of_isUnreserved b (h.host_name b hb)).2.1
  · exact (hp.clean b hb).1
 have hte : slash::slash::(host ++ (p ++ que)) = slash::slash::(host ++ p) ++ que := by simp
 have hc : cut question (slash::slash::(host ++ p) ++ que) =
   (slash::slash::(host ++ p),(cut question que).2) := by
  rw [cut_append hl,hq,append_nil]
 obtain ⟨hk,hr⟩ := host_append h hp
 rw [hte]
 unfold parseRest
 rw [hc,contains_append hl]
 have ho : (ascii "/").isPrefixOf (slash::slash::(host ++ p)) = true := by simp [ascii,slash]
 have ht : (ascii "//").isPrefixOf (slash::slash::(host ++ p)) = true := by simp [ascii,slash]
 simp only [ho,ht,h.map_toLower,h.scheme_ne,drop_succ_cons,drop_zero,hk,
  hr,aut.parse_name host h.host_name,not_true_eq_false,false_and,if_false,ne_eq,
  not_false_eq_true,true_or,and_self,if_true,Option.bind_some,authorityURL]

lemma parseWithoutFragment_authority {qy : Bytes} (hq : (cut question qy).1 = []) :
  parseWithoutFragment aut (sch ++ ascii "://" ++ host ++ (p ++ qy)) =
   if (p ++ qy).any isControl then none
   else (authorityURL sch host qy).setPath p := by
 have hf : (sch ++ ascii "://" ++ host).any isControl = false :=
  any_eq_false.mpr fun b hb => by simp [(h.free b hb).2]
 have ht : sch ++ ascii "://" ++ host ++ (p ++ qy) ≠ ascii "*" := by
  intro heq
  have hl := congrArg List.length heq
  have hse : (ascii "://").length = 3 := by decide
  have ho : (ascii "*").length = 1 := by decide
  simp only [length_append,hse,ho] at hl
  omega
 have hc : sch ++ ascii "://" ++ host ++ (p ++ qy) =
   sch ++ colon::slash::slash::(host ++ (p ++ qy)) := by
  simp [ascii,colon,slash]
 unfold parseWithoutFragment
 rw [any_append,hf,Bool.false_or,if_neg ht,hc,
  getScheme_append h.scheme_ne h.scheme_lower,Option.bind_some,
  parseRest_authority aut h hp hq]

/-- The path stands between the host and the first byte of a query or a fragment. -/
theorem parse_authority {tail : Bytes} (ht : IsSuffix tail) :
  parse aut (sch ++ ascii "://" ++ host ++ (p ++ tail)) =
   if (p ++ (cut numberSign tail).1).any isControl then none
   else ((authorityURL sch host (cut numberSign tail).1).setPath p).bind fun u =>
    if (cut numberSign tail).2 = [] then some u else u.setFragment (cut numberSign tail).2 := by
 have hcu : cut numberSign (sch ++ ascii "://" ++ host ++ (p ++ tail)) =
   (sch ++ ascii "://" ++ host ++ (p ++ (cut numberSign tail).1),
    (cut numberSign tail).2) := by
  rw [cut_append fun b hb => (h.free b hb).1,cut_append fun b hb => (hp.clean b hb).2]
 unfold parse
 rw [hcu,parseWithoutFragment_authority aut h hp ht.cut_numberSign]
 by_cases hc : (p ++ (cut numberSign tail).1).any isControl
 · rw [if_pos hc,if_pos hc,Option.bind_none]
 · rw [if_neg hc,if_neg hc]

lemma parse_authority_path : parse aut (sch ++ ascii "://" ++ host ++ p) =
      if p.any isControl then none else (authorityURL sch host []).setPath p := by
 have ht : IsSuffix [] := by simp [IsSuffix]
 simpa [cut] using parse_authority aut h hp ht

lemma suffix_of_parse_authority_path {u : URL}
  (ha : parse aut (sch ++ ascii "://" ++ host ++ p) = some u) : u.suffix = [] := by
 rw [parse_authority_path aut h hp] at ha
 split_ifs at ha
 obtain ⟨path,-,rfl⟩ := Option.map_eq_some_iff.mp ha
 rfl

end

structure URL.WithAuthority (u : URL) : Prop where
 authority : IsAuthority u.scheme u.host
 path_absolute : u.escapedPath.head? = some slash

lemma head?_escapedPath {u v : URL} (hse : u.setPath p = some v) (hl : p.head? = some slash) :
  v.escapedPath.head? = some slash := by
 obtain ⟨p,rfl⟩ : ∃ p', p = slash::p' := by
  cases p with
  | nil => simp at hl
  | cons b p => exact ⟨p,by simpa using hl⟩
 obtain ⟨path,ht,rfl⟩ := Option.map_eq_some_iff.mp hse
 rw [unescape_cons (by decide)] at ht
 obtain ⟨path,-,rfl⟩ := Option.map_eq_some_iff.mp ht
 have hst : slash::path ≠ ascii "*" := fun h => absurd (List.cons.inj h).1 (by decide)
 have hk : shouldEscape .path slash = false := by decide
 unfold URL.escapedPath
 simp only [hst,if_false,escape_cons,hk]
 split_ifs <;> simp_all

/-- What is read from a text with an authority. -/
theorem eq_of_parse_authority (aut : AuthorityParser) (h : IsAuthority sch host)
  (hp : IsPath p) {tail : Bytes} (ht : IsSuffix tail) {u : URL}
  (hpa : parse aut (sch ++ ascii "://" ++ host ++ (p ++ tail)) = some u) :
  u.WithAuthority ∧ u.scheme = sch ∧ u.host = host ∧ unescape p = some u.path := by
 rw [parse_authority aut h hp ht] at hpa
 by_cases hc : (p ++ (cut numberSign tail).1).any isControl
 · rw [if_pos hc] at hpa
   cases hpa
 rw [if_neg hc] at hpa
 obtain ⟨v,hse,hf⟩ := Option.bind_eq_some_iff.mp hpa
 have ha := head?_escapedPath hse hp.absolute
 obtain ⟨path,hn,rfl⟩ := Option.map_eq_some_iff.mp hse
 by_cases hnn : (cut numberSign tail).2 = []
 · rw [if_pos hnn] at hf
   cases hf
   exact ⟨⟨h,ha⟩,rfl,rfl,hn⟩
 · rw [if_neg hnn] at hf
   obtain ⟨fragment,-,rfl⟩ := Option.map_eq_some_iff.mp hf
   exact ⟨⟨h,ha⟩,rfl,rfl,hn⟩

end

section
variable (aut : AuthorityParser) {u v : URL} (hu : u.WithAuthority)
include hu

lemma URL.WithAuthority.isPath : IsPath u.escapedPath where
 clean b hb :=
  have hb := ne_of_isEncodedByte b (isEncodedByte_of_mem_escapedPath hb)
  ⟨hb.1,hb.2.1⟩
 absolute := hu.path_absolute

lemma URL.WithAuthority.string_eq :
  u.string = u.scheme ++ ascii "://" ++ u.host ++ (u.escapedPath ++ u.suffix) := by
 have hh : escape (shouldEscape .host) u.host = u.host :=
  escape_of_forall fun b hb => by simp [shouldEscape,hu.authority.host_name b hb]
 rw [URL.string,hh]

/-- Printing and parsing keeps scheme, host and path, however the path was written. -/
theorem URL.WithAuthority.eq_of_parse_string (ha : parse aut u.string = some v) :
  v.WithAuthority ∧ v.scheme = u.scheme ∧ v.host = u.host ∧ v.path = u.path := by
 rw [hu.string_eq] at ha
 obtain ⟨hv,hc,hh,ht⟩ :=
  eq_of_parse_authority aut hu.authority hu.isPath u.isSuffix_suffix ha
 rw [unescape_escapedPath] at ht
 exact ⟨hv,hc,hh,(Option.some.inj ht).symm⟩

theorem URL.WithAuthority.exists_parse_string (hsu : u.suffix = []) :
  ∃ v, parse aut u.string = some v ∧ v.suffix = [] := by
 have hc : ¬u.escapedPath.any isControl := by
  rw [any_eq_true]
  rintro ⟨b,hb,ha⟩
  simp [(ne_of_isEncodedByte b (isEncodedByte_of_mem_escapedPath hb)).2.2] at ha
 rw [hu.string_eq,hsu,append_nil, parse_authority_path aut hu.authority hu.isPath,if_neg hc]
 unfold URL.setPath
 rw [unescape_escapedPath]
 exact ⟨_,rfl,rfl⟩

end

end NovaEdge.UrlParsing
