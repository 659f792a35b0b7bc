import NovaEdge.DataplaneRouter

/-! Which hosts a hostname of a route is meant for, and which the router takes for it. -/
namespace NovaEdge.Dataplane
open List

/-- The host without a port: nothing changes if what follows the last colon is no number. -/
def withoutPort (host : List Char) : List Char :=
 match host.reverse.dropWhile Char.isDigit with
 | ':' :: rest => rest.reverse
 | _ => host

def lower (s : List Char) : List Char := s.map Char.toLower

def before (suffix host : List Char) : List Char := host.take (host.length - suffix.length)

def ending (suffix host : List Char) : List Char := host.drop (host.length - suffix.length)

/-- One or more labels, none of them empty, and the dot after them. -/
def LabelsAndDot (front : List Char) : Prop := ∃ labels, front = labels ++ ['.'] ∧
  [] ∉ labels.splitOn '.'

/-- Labels and a dot before the suffix, whatever the case and the port. -/
def UnderSuffix (suffix : String) (host : String) : Prop :=
 ∃ front tail, withoutPort host.toList = front ++ tail ∧ LabelsAndDot front ∧
  lower tail = lower suffix.toList

def MeantFor (hostname host : String) : Prop :=
 match stripWildcard hostname with
 | some suffix => UnderSuffix suffix host
 | none => lower hostname.toList = lower (withoutPort host.toList)

/-- Without a port: a host that ends in the suffix in the same case has labels and a dot before it, or
not even two bytes, and one that ends in it in another case has no labels and dot there. -/
def SuffixAsWritten (suffix host : List Char) : Prop :=
 lower (ending suffix host) = lower suffix →
  if ending suffix host = suffix then
   LabelsAndDot (before suffix host) ∨ (String.ofList (before suffix host)).utf8ByteSize < 2
  else ¬LabelsAndDot (before suffix host)

/-- What the router tests for a wildcard. -/
def EndsInSuffix (suffix host : List Char) : Prop :=
 ending suffix host = suffix ∧ 2 ≤ (String.ofList (before suffix host)).utf8ByteSize

def LooksLikePort (suffix : List Char) : Prop :=
 ∀ c, suffix.getLast? = some c → c.isDigit = true ∨ c = ':'

/-- A host with a port ends in its port, which no domain does. -/
structure WildcardAsWritten (suffix host : String) : Prop where
 bare : withoutPort host.toList = host.toList → SuffixAsWritten suffix.toList host.toList
 ported : withoutPort host.toList ≠ host.toList → ¬LooksLikePort suffix.toList →
  ¬UnderSuffix suffix host
 portlike : withoutPort host.toList ≠ host.toList → LooksLikePort suffix.toList →
  (EndsInSuffix suffix.toList host.toList ↔ UnderSuffix suffix host)

def MatchedAsWritten (hostname host : String) : Prop :=
 match stripWildcard hostname with
 | some suffix => WildcardAsWritten suffix host
 | none => withoutPort host.toList = host.toList ∨
   (lower hostname.toList ≠ lower host.toList ∧
    lower hostname.toList ≠ lower (withoutPort host.toList))

lemma length_withoutPort (ho : List Char) :
  withoutPort ho = ho ∨ (withoutPort ho).length < ho.length := by
 unfold withoutPort
 split
 · rename_i rest hr
   have hl := (dropWhile_sublist Char.isDigit (l := ho.reverse)).length_le
   rw [hr,length_cons,length_reverse] at hl
   exact .inr (by rw [length_reverse]; omega)
 · exact .inl rfl

lemma matchHost_exact {hos : String} (h : stripWildcard hos = none) (ho : String) :
  matchHost (compileHost hos) ho = true ↔ lower hos.toList = lower ho.toList := by
 unfold compileHost
 split_ifs
 · simp [matchHost,h,eqIgnoreAsciiCase,lower]
 · simp [matchHost,eqIgnoreAsciiCase,lower]

lemma before_append_ending (suffix host : List Char) :
  before suffix host ++ ending suffix host = host :=
 take_append_drop ..

lemma before_append {front tail suffix : List Char} (h : tail.length = suffix.length) :
  before suffix (front ++ tail) = front := by
 rw [before,length_append,h,Nat.add_sub_cancel,take_left]

lemma ending_append {front tail suffix : List Char} (h : tail.length = suffix.length) :
  ending suffix (front ++ tail) = tail := by
 rw [ending,length_append,h,Nat.add_sub_cancel,drop_left]

lemma ending_eq_iff {suffix host : List Char} : ending suffix host = suffix ↔ suffix <:+ host := by
 rw [suffix_iff_eq_drop,ending,eq_comm]

lemma underSuffix_iff {suffix host : String} : UnderSuffix suffix host ↔
   lower (ending suffix.toList (withoutPort host.toList)) = lower suffix.toList ∧
    LabelsAndDot (before suffix.toList (withoutPort host.toList)) := by
 constructor
 · rintro ⟨front,tail,hq,hf,ht⟩
   have hl : tail.length = suffix.toList.length := by simpa [lower] using congrArg length ht
   rw [hq,ending_append hl,before_append hl]
   exact ⟨ht,hf⟩
 · rintro ⟨ht,hf⟩
   exact ⟨_,_,(before_append_ending ..).symm,hf,ht⟩

lemma matchHost_wildcard {hostname suffix : String} (h : stripWildcard hostname = some suffix)
  (host : String) : matchHost (compileHost hostname) host = true ↔
   EndsInSuffix suffix.toList host.toList := by
 have hw : startsWith hostname "*." = true := by
  unfold stripWildcard at h
  split at h
  · rename_i rest hr
    simp [startsWith,hr]
  · contradiction
 simp only [compileHost,hw,if_true,matchHost,h,Bool.and_eq_true,endsWith,
  isSuffixOf_iff_suffix, decide_eq_true_eq, EndsInSuffix, ending_eq_iff]
 refine and_congr_right fun hs => ?_
 have hh : host = String.ofList (before suffix.toList host.toList) ++ suffix := by
  rw [← String.toList_inj,String.toList_append,String.toList_ofList]
  conv_lhs => rw [← before_append_ending suffix.toList host.toList,ending_eq_iff.mpr hs]
 have hz := congrArg String.utf8ByteSize hh
 rw [String.utf8ByteSize_append] at hz
 omega

lemma length_le_utf8ByteSize (cs : List Char) : cs.length ≤ (String.ofList cs).utf8ByteSize := by
 induction cs with
 | nil => simp
 | cons c cs ih =>
  have hc := c.utf8Size_pos
  have hs : String.ofList (c::cs) = String.singleton c ++ String.ofList cs := by simp
  rw [hs,String.utf8ByteSize_append,String.utf8ByteSize_singleton,length_cons]
  omega

/-- At least a character and the dot. -/
lemma LabelsAndDot.two_le {front : List Char} (h : LabelsAndDot front) :
  2 ≤ (String.ofList front).utf8ByteSize := by
 obtain ⟨labels,rfl,hl⟩ := h
 have hn : labels ≠ [] := by
  rintro rfl
  simp at hl
 have hp := length_pos_iff.mpr hn
 have hb := length_le_utf8ByteSize (labels ++ ['.'])
 rw [length_append,length_singleton] at hb
 omega

lemma suffixAsWritten_iff {suffix host : List Char} :
  SuffixAsWritten suffix host ↔ (EndsInSuffix suffix host ↔
   lower (ending suffix host) = lower suffix ∧ LabelsAndDot (before suffix host)) := by
 unfold SuffixAsWritten EndsInSuffix
 by_cases he : ending suffix host = suffix
 · have hl : LabelsAndDot (before suffix host) → _ := LabelsAndDot.two_le
   simp only [he,true_and,if_true,forall_const]
   constructor
   · rintro (h | h)
     · exact iff_of_true (hl h) h
     · exact iff_of_false (by omega) fun h' => by have := hl h'; omega
   · intro h
     by_cases hs : 2 ≤ (String.ofList (before suffix host)).utf8ByteSize
     · exact .inl (h.mp hs)
     · exact .inr (by omega)
 · simp only [he,false_and,if_false,false_iff,not_and]

lemma exists_getLast?_of_port {host : List Char} (h : withoutPort host ≠ host) :
  ∃ c, host.getLast? = some c ∧ (c.isDigit = true ∨ c = ':') := by
 unfold withoutPort at h
 split at h
 · rename_i rest hr
   cases hh : host.reverse with
   | nil => simp [hh] at hr
   | cons c cs =>
    refine ⟨c,by rw [← head?_reverse,hh]; rfl,?_⟩
    by_cases hd : c.isDigit = true
    · exact .inl hd
    · rw [hh,dropWhile_cons_of_neg hd] at hr
      exact .inr (cons.inj hr).1
 · exact absurd rfl h

lemma EndsInSuffix.looksLikePort {suffix host : List Char} (h : EndsInSuffix suffix host)
  (hp : withoutPort host ≠ host) : LooksLikePort suffix := by
 intro c hc
 obtain ⟨d,hd,hport⟩ := exists_getLast?_of_port hp
 have hl : host.getLast? = some c := by
  rw [← before_append_ending suffix host,h.1,getLast?_append,hc]
  rfl
 obtain rfl : d = c := Option.some.inj (hd.symm.trans hl)
 exact hport

lemma wildcardAsWritten_iff {suffix host : String} : WildcardAsWritten suffix host ↔
   (EndsInSuffix suffix.toList host.toList ↔ UnderSuffix suffix host) := by
 by_cases hp : withoutPort host.toList = host.toList
 · rw [underSuffix_iff,hp,← suffixAsWritten_iff]
   exact ⟨fun h => h.bare hp, fun h => ⟨fun _ => h, absurd hp, absurd hp⟩⟩
 · by_cases hs : LooksLikePort suffix.toList
   · exact ⟨fun h => h.portlike hp hs, fun h => ⟨(absurd · hp),fun _ => absurd hs, fun _ _ => h⟩⟩
   · have hn : ¬EndsInSuffix suffix.toList host.toList := fun h => hs (h.looksLikePort hp)
     rw [iff_false_left hn]
     exact ⟨fun h => h.ported hp hs, fun h => ⟨(absurd · hp),fun _ _ => h, fun _ => (absurd · hs)⟩⟩

/-- A hostname matches the hosts it is meant for exactly where the text as written decides so. -/
theorem match_host_iff (hostname host : String) :
  (matchHost (compileHost hostname) host = true ↔ MeantFor hostname host) ↔
   MatchedAsWritten hostname host := by
 unfold MeantFor MatchedAsWritten
 cases h : stripWildcard hostname with
 | none =>
  rw [matchHost_exact h]
  constructor
  · intro hi
    by_contra hc
    obtain ⟨hp,hc⟩ := not_or.mp hc
    have ht := (length_withoutPort host.toList).resolve_left hp
    by_cases hm : lower hostname.toList = lower host.toList
    · have hl := congrArg length (hm.symm.trans (hi.mp hm))
      simp only [lower,length_map] at hl
      omega
    · exact hc ⟨hm,fun hw => hm (hi.mpr hw)⟩
  · rintro (hp | ⟨hn,hw⟩)
    · simp only [hp]
    · exact iff_of_false hn hw
 | some suffix =>
  rw [matchHost_wildcard h]
  exact wildcardAsWritten_iff.symm

/-- A host of another domain is taken, and the host itself is not when its port is given. -/
theorem sibling_domain_matched : matchHost (compileHost "*.example.com") "badexample.com" = true ∧
      ¬ MeantFor "*.example.com" "badexample.com" ∧
      matchHost (compileHost "example.com") "example.com:8080" = false ∧
      MeantFor "example.com" "example.com:8080" := by
 refine ⟨by decide,?_,by decide,?_⟩
 · have hw : stripWildcard "*.example.com" = some "example.com" := by decide
   rw [MeantFor,hw]
   intro hu
   obtain ⟨labels,hf,-⟩ := (underSuffix_iff.mp hu).2
   have hb : before "example.com".toList (withoutPort "badexample.com".toList) = "bad".toList := by
    decide
   have hl := congrArg getLast? (hb.symm.trans hf)
   rw [getLast?_concat] at hl
   exact absurd hl (by decide)
 · change lower _ = lower _
   decide

end NovaEdge.Dataplane
