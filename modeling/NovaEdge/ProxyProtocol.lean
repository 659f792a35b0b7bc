import NovaEdge.FirewallDecoding
import Mathlib.Data.Nat.Digits.Lemmas

/-! The header line of the PROXY protocol, version 1: what is written before a connection's bytes
and what is read back from them. -/
namespace NovaEdge.Dataplane.ProxyProtocol
open List Nat

/-- How the standard library writes and reads addresses. -/
structure AddressText where
 display : IpAddr → List Char
 parse : List Char → Option IpAddr

structure Socket where
 ip : IpAddr
 port : UInt16

structure ProxyHeader where
 (srcAddr dstAddr : Socket)

def maxV1Line : ℕ := 108

/-- The first position of a carriage return with a line feed after it. -/
def crlfPosition : List UInt8 → Option ℕ
 | 13::10::_ => some 0
 | _::rest => (crlfPosition rest).map (· + 1)
 | [] => none

def parseU16 : List Char → Option UInt16
 | '+' :: digits | digits =>
  if digits ≠ [] ∧ digits.all Char.isDigit ∧ ofDigitChars 10 digits 0 < 65536 then
   some (UInt16.ofNat (ofDigitChars 10 digits 0))
  else none

def isIpv4 : IpAddr → Bool
 | .v4 _ => true
 | .v6 _ => false

abbrev Plain (c : Char) : Prop := c.toNat < 128 ∧ c ≠ ' ' ∧ c ≠ '\r'

section
variable (text : AddressText)

def parseLine (line : String) : Except String ProxyHeader :=
 match line.toList.splitOn ' ' with
 | [start,_,srcIp,dstIp,srcPort,dstPort] => do
  if start ≠ "PROXY".toList then .error "invalid PROXY v1 header"
  let srcIp ← (text.parse srcIp).elim (.error "invalid src IP") .ok
  let dstIp ← (text.parse dstIp).elim (.error "invalid dst IP") .ok
  let srcPort ← (parseU16 srcPort).elim (.error "invalid src port") .ok
  let dstPort ← (parseU16 dstPort).elim (.error "invalid dst port") .ok
  return ⟨⟨srcIp,srcPort⟩,⟨dstIp,dstPort⟩⟩
 | _ => .error "invalid PROXY v1 header"

def parseV1 (data : List UInt8) : Except String (ProxyHeader × ℕ) := do
 let lineEnd ← (crlfPosition (data.take maxV1Line)).elim
  (.error "no CRLF within first 108 bytes") .ok
 let line ← (String.fromUTF8? (data.take lineEnd).toByteArray).elim (.error "not UTF-8") .ok
 let header ← parseLine text line
 return (header,lineEnd+2)

def fieldsOf (header : ProxyHeader) : List (List Char) :=
 ["PROXY".toList,if isIpv4 header.srcAddr.ip then "TCP4".toList else "TCP6".toList,
  text.display header.srcAddr.ip,text.display header.dstAddr.ip,
  toDigits 10 header.srcAddr.port.toNat,toDigits 10 header.dstAddr.port.toNat]

def generateV1 (header : ProxyHeader) : List UInt8 :=
 utf8 ([' '].intercalate (fieldsOf text header) ++ ['\r','\n'])

/-- The address is written without blanks in at most 39 characters, and read back. -/
structure RoundTrips (ip : IpAddr) : Prop where
 parse : text.parse (text.display ip) = some ip
 plain : ∀ c ∈ text.display ip, Plain c
 length : (text.display ip).length ≤ 39

end

lemma parseU16_toDigits (n : UInt16) : parseU16 (toDigits 10 n.toNat) = some n := by
 have hd : ∀ c ∈ toDigits 10 n.toNat, c.isDigit = true := fun c hc =>
  isDigit_of_mem_toDigits (by decide) (by decide) hc
 unfold parseU16
 split
 · rename_i rest h
   exact absurd (hd '+' (by simp [h])) (by decide)
 · rw [ofDigitChars_ten_toDigits,
    if_pos ⟨toDigits_ne_nil,all_eq_true.mpr hd,n.toNat_lt⟩,UInt16.ofNat_toNat]

lemma crlfPosition_append {l : List UInt8} (h : 13 ∉ l) (rest : List UInt8) :
  crlfPosition (l ++ 13::10::rest) = some l.length := by
 induction l with
 | nil => rfl
 | cons b l ih =>
  rw [mem_cons,not_or] at h
  rw [cons_append,crlfPosition,ih h.2,Option.map_some,length_cons]
  exact fun _ hb => absurd hb.symm h.1

lemma fromUTF8?_utf8 (cs : List Char) :
  String.fromUTF8? (utf8 cs).toByteArray = some (String.ofList cs) :=
 dif_pos ByteArray.isValidUTF8_utf8Encode

lemma utf8_of_ascii {cs : List Char} (h : ∀ c ∈ cs, c.toNat < 128) :
  utf8 cs = cs.map fun c => UInt8.ofNat c.toNat := by
 induction cs with
 | nil => rfl
 | cons c cs ih =>
  obtain ⟨hc,h⟩ := forall_mem_cons.mp h
  have he : String.utf8EncodeChar c = [UInt8.ofNat c.toNat] := if_pos (le_of_lt_succ hc)
  rw [utf8,flatMap_cons,he,map_cons,← ih h]
  rfl

variable {text : AddressText} {header : ProxyHeader}

lemma plain_toDigits (n : ℕ) : ∀ c ∈ toDigits 10 n, Plain c := by
 intro c hc
 have hd := isDigit_of_mem_toDigits (by decide) (by decide) hc
 rw [Char.isDigit_iff_toNat] at hd
 change 48 ≤ c.toNat ∧ c.toNat ≤ 57 at hd
 refine ⟨by omega,?_,?_⟩
 · rintro rfl
   simp at hd
 · rintro rfl
   simp at hd

lemma plain_fieldsOf (hs : RoundTrips text header.srcAddr.ip)
  (ht : RoundTrips text header.dstAddr.ip) : ∀ f ∈ fieldsOf text header, ∀ c ∈ f, Plain c := by
 simp only [fieldsOf,forall_mem_cons]
 refine ⟨forall_iff_forall_mem.mp (by decide),?_,hs.plain,ht.plain,plain_toDigits _,
  plain_toDigits _,by simp⟩
 split_ifs <;> exact forall_iff_forall_mem.mp (by decide)

lemma length_line_le (hs : RoundTrips text header.srcAddr.ip)
  (ht : RoundTrips text header.dstAddr.ip) :
  ([' '].intercalate (fieldsOf text header)).length ≤ 102 := by
 have hp := fun n : UInt16 =>
  toDigits_length 10 n.toNat 5 (by omega) (n.toNat_lt.trans (by decide))
 have h₁ := hp header.srcAddr.port
 have h₂ := hp header.dstAddr.port
 have h₃ := hs.length
 have h₄ := ht.length
 have hf : (if isIpv4 header.srcAddr.ip then "TCP4".toList else "TCP6".toList).length = 4 := by
  split_ifs <;> rfl
 simp only [fieldsOf,intercalate,intersperse,flatten_cons,length_append,hf]
 simp
 omega

lemma plain_line (hs : RoundTrips text header.srcAddr.ip) (ht : RoundTrips text header.dstAddr.ip) :
  ∀ c ∈ [' '].intercalate (fieldsOf text header), c.toNat < 128 ∧ c ≠ '\r' := by
 have hp := plain_fieldsOf hs ht
 simp only [fieldsOf,forall_mem_cons] at hp
 obtain ⟨h₁,h₂,h₃,h₄,h₅,h₆,-⟩ := hp
 have hw : ∀ {f : List Char}, (∀ c ∈ f, Plain c) → ∀ c ∈ f, c.toNat < 128 ∧ c ≠ '\r' :=
  fun h c hc => ⟨(h c hc).1,(h c hc).2.2⟩
 have hb : ∀ c ∈ [' '], c.toNat < 128 ∧ c ≠ '\r' := forall_mem_singleton.mpr (by decide)
 simp only [fieldsOf,intercalate,intersperse,flatten_cons,forall_mem_append]
 exact ⟨hw h₁,hb,hw h₂,hb,hw h₃,hb,hw h₄,hb,hw h₅,hb,hw h₆,by simp⟩

lemma parseLine_line (hs : RoundTrips text header.srcAddr.ip)
  (ht : RoundTrips text header.dstAddr.ip) :
  parseLine text (String.ofList ([' '].intercalate (fieldsOf text header))) = .ok header := by
 have hp := splitOn_intercalate ' ' (fun f hf hc => (plain_fieldsOf hs ht f hf _ hc).2.1 rfl)
  (cons_ne_nil _ _ : fieldsOf text header ≠ [])
 rw [parseLine,String.toList_ofList,hp]
 simp [fieldsOf,hs.parse,ht.parse,parseU16_toDigits]
 rfl

/-- What is read back from a generated header and any bytes after it is the header, and where it
ends. -/
theorem parse_generate_v1 (text : AddressText) (header : ProxyHeader)
  (hs : RoundTrips text header.srcAddr.ip) (ht : RoundTrips text header.dstAddr.ip)
  (payload : List UInt8) : parseV1 text (generateV1 text header ++ payload) =
   .ok (header,(generateV1 text header).length) := by
 have hl := length_line_le hs ht
 have hp := plain_line hs ht
 have hr := parseLine_line hs ht
 have hg : generateV1 text header =
   utf8 ([' '].intercalate (fieldsOf text header)) ++ [13,10] := flatMap_append
 generalize [' '].intercalate (fieldsOf text header) = line at *
 have hu := utf8_of_ascii fun c hc => (hp c hc).1
 have hn : 13 ∉ utf8 line := by
  rw [hu,mem_map]
  rintro ⟨c,hc,he⟩
  have hm := congrArg UInt8.toNat he
  have ha := (hp c hc).1
  rw [UInt8.toNat_ofNat',mod_eq_of_lt (by omega)] at hm
  exact (hp c hc).2 (by rw [← Char.ofNat_toNat c,hm]; rfl)
 have hk : (utf8 line).length ≤ 102 := by rwa [hu,length_map]
 have hc : crlfPosition ((generateV1 text header ++ payload).take maxV1Line) =
   some (utf8 line).length := by
  -- the end of the line is among the bytes that are searched
  obtain ⟨k,hk⟩ : ∃ k, maxV1Line - (utf8 line).length = k+2 :=
   ⟨106 - (utf8 line).length,by rw [maxV1Line]; omega⟩
  rw [hg,append_assoc,take_append,take_of_length_le (by rw [maxV1Line]; omega),hk]
  exact crlfPosition_append hn (payload.take k)
 have ht : (generateV1 text header ++ payload).take (utf8 line).length = utf8 line := by
  rw [hg,append_assoc,take_left]
 simp only [parseV1,hc,ht,fromUTF8?_utf8,Option.elim_some,bind,Except.bind,hr]
 simp [hg]
 rfl

def twoAddresses : AddressText where
 display ip := if ip = .v4 0xC0A80101 then "192.168.1.1".toList else "::1".toList
 parse s := if s = "192.168.1.1".toList then some (.v4 0xC0A80101)
  else if s = "::1".toList then some (.v6 1) else none

theorem parse_generate_blank_line :
  parseV1 twoAddresses (generateV1 twoAddresses ⟨⟨.v4 0xC0A80101,56324⟩,⟨.v6 1,443⟩⟩ ++ [13,10]) =
   .ok (⟨⟨.v4 0xC0A80101,56324⟩,⟨.v6 1,443⟩⟩,
    (generateV1 twoAddresses ⟨⟨.v4 0xC0A80101,56324⟩,⟨.v6 1,443⟩⟩).length) :=
 parse_generate_v1 twoAddresses _
  ⟨by decide,forall_iff_forall_mem.mp (by decide),by decide⟩
  ⟨by decide,forall_iff_forall_mem.mp (by decide),by decide⟩ [13,10]

end NovaEdge.Dataplane.ProxyProtocol
