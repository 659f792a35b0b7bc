import NovaEdge.AccessControl

/-! The decoding of the firewall next to that of the router: what one pass consumes, what it
writes, and on which texts both agree. -/
namespace NovaEdge.Dataplane
open List

def charOf (b : UInt8) : Char := Char.ofNat b.toNat

lemma toNat_charOf (b : UInt8) : (charOf b).toNat = b.toNat := by
 have hb := b.toNat_lt
 have hv : b.toNat.isValidChar := .inl (by omega)
 rw [charOf,Char.ofNat,dif_pos hv]
 rfl

/-- What one pass of the firewall reads and writes, piece by piece. -/
def decodePieces : List UInt8 → List (List UInt8 × Char)
 | 37::h::l::rest => match hexVal h, hexVal l with
  | some hi, some lo => ([37,h,l],charOf ((hi <<< 4) ||| lo))::decodePieces rest
  | _, _ => ([37,h,l],'%')::decodePieces rest
 | 37::rest => [(37::rest,'%')]
 | b::rest => ([b],if b = 43 then ' ' else charOf b)::decodePieces rest
 | [] => []

/-- A well-formed escape and its character, or one byte, with the plus sign for a space. -/
def Exact (piece : List UInt8 × Char) : Prop :=
 (∃ h l hi lo, piece.1 = [37,h,l] ∧ hexVal h = some hi ∧ hexVal l = some lo ∧
  piece.2 = charOf ((hi <<< 4) ||| lo)) ∨
 ∃ b, piece.1 = [b] ∧ piece.2 = if b = 43 then ' ' else charOf b

/-- Escapes of ASCII characters among ASCII characters; a lone escape character only at the end. -/
def PlainEscapes : List UInt8 → Prop
 | 37::h::l::rest =>
  (∃ hi lo, hexVal h = some hi ∧ hexVal l = some lo ∧ (hi <<< 4) ||| lo < 128) ∧ PlainEscapes rest
 | [37,_] => False
 | b::rest => b < 128 ∧ PlainEscapes rest
 | [] => True

attribute [local simp] urlDecodeSingle

lemma map_snd_decodePieces (bs : List UInt8) :
  (decodePieces bs).map Prod.snd = urlDecodeSingle bs := by
 fun_induction decodePieces bs with
 | case1 h l rest hi lo hh hl ih => simp [hh,hl,ih,charOf]
 | case2 h l rest hn ih => simp [ih]
 | case3 rest _ => simp
 | case4 b rest _ _ ih => simp [ih,charOf]
 | case5 => rfl

lemma flatten_map_fst_decodePieces (bs : List UInt8) :
  ((decodePieces bs).map Prod.fst).flatten = bs := by
 fun_induction decodePieces bs <;> simp_all

lemma not_exact_malformed {h l : UInt8} {c : Char}
  (hn : ∀ hi lo, hexVal h = some hi → hexVal l = some lo → False) : ¬ Exact ([37,h,l],c) := by
 rintro (⟨h',l',hi,lo,hq,hh,hl,-⟩ | ⟨b,hq,-⟩)
 · simp only [cons.injEq,and_true,true_and] at hq
   exact hn hi lo (hq.1 ▸ hh) (hq.2 ▸ hl)
 · simp at hq

lemma not_exact_pair (a b : UInt8) (c : Char) : ¬ Exact ([a,b],c) := by simp [Exact]

attribute [local simp] percentDecodeBytes

lemma urlDecodeSingle_of_exact {bs : List UInt8} (he : ∀ p ∈ decodePieces bs, Exact p) :
  urlDecodeSingle bs = (percentDecodeBytes bs).map charOf := by
 rw [← map_snd_decodePieces]
 fun_induction decodePieces bs with
 | case1 h l rest hi lo hh hl ih => simp [hh,hl,ih (forall_mem_cons.mp he).2]
 | case2 h l rest hn ih => exact absurd (forall_mem_cons.mp he).1 (not_exact_malformed hn)
 | case3 rest hn => match rest, hn with
  | [], _ => simp [charOf]
  | [x], _ => exact absurd (forall_mem_cons.mp he).1 (not_exact_pair 37 x '%')
  | h::l::rest, hn => exact (hn h l rest rfl).elim
 | case4 b rest _ _ ih =>
  simp [ih (forall_mem_cons.mp he).2,apply_ite charOf]
  rfl
 | case5 => simp

lemma plainEscapes_iff (bs : List UInt8) : PlainEscapes bs ↔
  ∀ p ∈ decodePieces bs, Exact p ∧ p.2.toNat < 128 := by
 fun_induction decodePieces bs with
 | case1 h l rest hi lo hl hh ih =>
  have hc : Exact ([37,h,l],charOf ((hi <<< 4) ||| lo)) := .inl ⟨h,l,hi,lo,rfl,hh,hl,rfl⟩
  rw [forall_mem_cons,← ih,and_iff_right hc,toNat_charOf]
  simp [PlainEscapes,hh,hl,UInt8.lt_iff_toNat_lt]
 | case2 h l rest hn ih =>
  rw [forall_mem_cons]
  exact iff_of_false (fun ⟨⟨hi,lo,hh,hl,_⟩,_⟩ => hn hi lo hh hl)
   fun h => not_exact_malformed hn h.1.1
 | case3 rest hn => match rest, hn with
  | [], _ =>
   refine iff_of_true (by simp [PlainEscapes]) fun p hp => ?_
   rw [mem_singleton.mp hp]
   exact ⟨.inr ⟨37,rfl,rfl⟩,by decide⟩
  | [x], _ => exact iff_of_false id fun h => not_exact_pair 37 x '%' (h _ mem_cons_self).1
  | h::l::rest, hn => exact (hn h l rest rfl).elim
 | case4 b rest h₁ h₂ ih =>
  have hc : Exact ([b],if b = 43 then ' ' else charOf b) := .inr ⟨b,rfl,rfl⟩
  rw [forall_mem_cons,← ih,and_iff_right hc,PlainEscapes]
  · refine and_congr_left fun _ => ?_
    split_ifs with hb
    · simp [hb]
    · rw [toNat_charOf,UInt8.lt_iff_toNat_lt]
      rfl
  · exact h₁
  · exact fun x hb _ => h₂ hb
 | case5 => simp [PlainEscapes]

def utf8 (cs : List Char) : List UInt8 := cs.flatMap String.utf8EncodeChar

/-- The bytes of a text give the text, others a text with a replacement character. -/
structure LossyUtf8 (fromUtf8Lossy : List UInt8 → String) : Prop where
 valid : ∀ cs, fromUtf8Lossy (utf8 cs) = String.ofList cs
 invalid : ∀ bs, (∀ cs, utf8 cs ≠ bs) → Char.ofNat 0xFFFD ∈ (fromUtf8Lossy bs).toList

lemma length_le_utf8 (cs : List Char) : cs.length ≤ (utf8 cs).length := by
 induction cs with
 | nil => simp
 | cons c cs ih =>
  have hc := c.utf8Size_pos
  simp only [utf8,flatMap_cons,length_append,length_cons,String.length_utf8EncodeChar] at ih ⊢
  omega

lemma utf8_map_charOf_eq_iff (bs : List UInt8) : utf8 (bs.map charOf) = bs ↔ ∀ b ∈ bs, b < 128 := by
 induction bs with
 | nil => simp [utf8]
 | cons b bs ih =>
  have hv : (charOf b).val.toNat = b.toNat := toNat_charOf b
  rw [forall_mem_cons,← ih]
  simp only [utf8,map_cons,flatMap_cons]
  by_cases hb : b < 128
  · have he : String.utf8EncodeChar (charOf b) = [b] := by
     have hl := UInt8.lt_iff_toNat_lt.mp hb
     simp only [String.utf8EncodeChar,hv]
     rw [if_pos (Nat.le_of_lt_succ hl),UInt8.ofNat_toNat]
    simp [he,hb]
  · -- a character that takes two bytes makes the whole longer than the bytes
    refine iff_of_false (fun h => ?_) fun h => hb h.1
    have hs : (charOf b).utf8Size ≠ 1 := by
     rw [Ne,Char.utf8Size_eq_one_iff,UInt32.le_iff_toNat_le,hv]
     exact fun hle => hb (Nat.lt_succ_of_le hle)
    have hc := (charOf b).utf8Size_pos
    have hl := congrArg length h
    have ht := length_le_utf8 (bs.map charOf)
    simp only [utf8,length_append,length_cons,length_map,String.length_utf8EncodeChar] at hl ht
    omega

lemma LossyUtf8.eq_iff {ful : List UInt8 → String} (h : LossyUtf8 ful)
  (bs : List UInt8) : String.ofList (bs.map charOf) = ful bs ↔ ∀ b ∈ bs, b < 128 := by
 rw [← utf8_map_charOf_eq_iff]
 constructor
 · intro hq
   by_cases hv : ∃ cs, utf8 cs = bs
   · obtain ⟨cs,hc⟩ := hv
     rw [← hc,h.valid,String.ofList_inj,hc] at hq
     rw [hq,hc]
   · have hm := h.invalid bs (not_exists.mp hv)
     rw [← hq,String.toList_ofList,mem_map] at hm
     obtain ⟨b,-,hb⟩ := hm
     have hn : b.toNat = 0xFFFD := by rw [← toNat_charOf,hb]; rfl
     have := b.toNat_lt
     omega
 · intro hq
   conv_rhs => rw [← hq]
   rw [h.valid]

/-- One pass consumes escapes and single bytes only, and writes what the router reads. -/
structure DecodesFaithfully (lib : TextLibrary) (s : String) : Prop where
 whole : ((decodePieces s.toUTF8.toList).map Prod.fst).flatten = s.toUTF8.toList
 exact : ∀ p ∈ decodePieces s.toUTF8.toList, Exact p
 router : String.ofList (urlDecodeSingle s.toUTF8.toList) = percentDecode lib s.toList

/-- A pass is faithful exactly on texts of plain characters and plain escapes. -/
theorem decodes_faithfully_iff {lib : TextLibrary} (hl : LossyUtf8 lib.fromUtf8Lossy)
  (s : String) : DecodesFaithfully lib s ↔ PlainEscapes s.toUTF8.toList := by
 have ha : (∀ p ∈ decodePieces s.toUTF8.toList, Exact p) →
   ((∀ p ∈ decodePieces s.toUTF8.toList, p.2.toNat < 128) ↔
    String.ofList (urlDecodeSingle s.toUTF8.toList) = percentDecode lib s.toList) := by
  intro he
  rw [percentDecode,String.ofList_toList,urlDecodeSingle_of_exact he,hl.eq_iff]
  have hm : (∀ p ∈ decodePieces s.toUTF8.toList, p.2.toNat < 128) ↔
    ∀ c ∈ (decodePieces s.toUTF8.toList).map Prod.snd, c.toNat < 128 :=
   (forall_mem_map (P := fun c : Char => c.toNat < 128)).symm
  rw [hm,map_snd_decodePieces,urlDecodeSingle_of_exact he]
  simp [toNat_charOf,UInt8.lt_iff_toNat_lt]
 rw [plainEscapes_iff,forall₂_and]
 refine ⟨fun h => ⟨h.exact,(ha h.exact).mpr h.router⟩,fun h => ⟨?_,h.1,(ha h.1).mp h.2⟩⟩
 exact flatten_map_fst_decodePieces _

/-- A library that gives up on what is no text. -/
noncomputable def strictLibrary : TextLibrary where
 regexNew _ := none
 fromUtf8Lossy bs := open Classical in
  if h : ∃ cs, utf8 cs = bs then String.ofList h.choose else String.singleton (Char.ofNat 0xFFFD)

lemma lossyUtf8_strictLibrary : LossyUtf8 strictLibrary.fromUtf8Lossy where
 valid cs := by
  have hc : ∃ cs', utf8 cs' = utf8 cs := ⟨cs,rfl⟩
  simp only [strictLibrary,hc,dif_pos]
  refine String.toByteArray_inj.mp ?_
  exact congrArg List.toByteArray hc.choose_spec
 invalid bs hn := by simp [strictLibrary,not_exists.mpr hn]

theorem plain_path_decoded : DecodesFaithfully strictLibrary "/%2e" :=
 (decodes_faithfully_iff lossyUtf8_strictLibrary "/%2e").mpr (by
  rw [show "/%2e".toUTF8.toList = [47,37,50,101] by decide +kernel]
  exact ⟨by decide,⟨2,14,rfl,rfl,by decide⟩,trivial⟩)

/-- The dots after a lone escape character are not seen. -/
theorem hidden_dots : String.ofList (urlDecodeSingle "a%../b".toUTF8.toList) = "a%/b" ∧
      percentDecodeBytes "a%../b".toUTF8.toList = "a%../b".toUTF8.toList ∧
      ¬ DecodesFaithfully strictLibrary "a%../b" := by
 have hb : "a%../b".toUTF8.toList = [97,37,46,46,47,98] := by decide +kernel
 refine ⟨by decide +kernel,by decide +kernel,fun h => ?_⟩
 have he := h.exact ([37,46,46],'%') (by rw [hb]; decide)
 exact not_exact_malformed (fun _ _ hh => by cases hh) he

end NovaEdge.Dataplane
