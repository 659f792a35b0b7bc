import Mathlib.Data.List.Basic
import Mathlib.Tactic

/-! Percent-encoding of byte strings: escaping, its inverse, and what the inverse does to strings
that were not made by escaping. -/
namespace NovaEdge.PercentEncoding
open List

def ascii (text : String) : List UInt8 := text.toList.map fun c => UInt8.ofNat c.toNat

def percent : UInt8 := 37

def hexValue (b : UInt8) : Option UInt8 :=
 if 48 ≤ b ∧ b ≤ 57 then some (b - 48)
 else if 97 ≤ b ∧ b ≤ 102 then some (b - 97+10)
 else if 65 ≤ b ∧ b ≤ 70 then some (b - 65+10)
 else none

def upperHex (n : UInt8) : UInt8 := if n < 10 then 48+n else 55+n

/-- Every escape is replaced by its byte; an escape without two hexadecimal digits is an error. -/
def unescape : List UInt8 → Option (List UInt8)
 | [] => some []
 | b::rest =>
  if b = percent then
   match rest with
   | high::low::rest =>
    match hexValue high, hexValue low with
    | some h, some l => (unescape rest).map ((h*16+l)::·)
    | _, _ => none
   | _ => none
  else (unescape rest).map (b::·)

def escapeByte (b : UInt8) : List UInt8 := [percent,upperHex (b / 16),upperHex (b % 16)]

def escape (shouldEscape : UInt8 → Bool) (s : List UInt8) : List UInt8 :=
 s.flatMap fun b => if shouldEscape b then escapeByte b else [b]

lemma forall_byte {P : UInt8 → Prop} (h : ∀ n < 256, P (UInt8.ofNat n)) (b : UInt8) : P b := by
 have hb := h b.toNat b.toNat_lt
 rwa [UInt8.ofNat_toNat] at hb

lemma hexValue_upperHex : ∀ b : UInt8,
  hexValue (upperHex (b / 16)) = some (b / 16) ∧ hexValue (upperHex (b % 16)) = some (b % 16) ∧
   b / 16*16+b % 16 = b :=
 forall_byte (by decide +kernel)

lemma unescape_cons {b : UInt8} (hb : b ≠ percent) (s : List UInt8) :
  unescape (b::s) = (unescape s).map (b::·) := by
 rw [unescape.eq_def]
 exact if_neg hb

lemma unescape_escapeByte_append (b : UInt8) (s : List UInt8) :
  unescape (escapeByte b ++ s) = (unescape s).map (b::·) := by
 obtain ⟨hh,hl,hu⟩ := hexValue_upperHex b
 simp only [escapeByte,cons_append,nil_append]
 rw [unescape,if_pos rfl]
 simp only [hh,hl,hu]

variable {s : List UInt8}

section
variable {se : UInt8 → Bool}

lemma escape_cons (b : UInt8) (s : List UInt8) : escape se (b::s) =
      (if se b then escapeByte b else [b]) ++ escape se s := rfl

theorem unescape_escape (hp : se percent) (s : List UInt8) : unescape (escape se s) = some s := by
 induction s with
 | nil => rfl
 | cons b s ih =>
  rw [escape_cons]
  by_cases hb : se b
  · rw [if_pos hb,unescape_escapeByte_append,ih,Option.map_some]
  · have hn : b ≠ percent := fun h => hb (h ▸ hp)
    rw [if_neg hb,singleton_append,unescape_cons hn,ih,Option.map_some]

lemma hexValue_of_mem_escapeByte {b c : UInt8} (h : c ∈ escapeByte b) :
  c = percent ∨ (hexValue c).isSome := by
 obtain ⟨hh,hl,_⟩ := hexValue_upperHex b
 simp only [escapeByte,mem_cons,not_mem_nil,or_false] at h
 rcases h with rfl | rfl | rfl
 · exact Or.inl rfl
 · exact Or.inr (by rw [hh]; rfl)
 · exact Or.inr (by rw [hl]; rfl)

lemma mem_escape {c : UInt8} (h : c ∈ escape se s) :
  se c = false ∨ c = percent ∨ (hexValue c).isSome := by
 obtain ⟨b,-,hb⟩ := mem_flatMap.mp h
 by_cases hes : se b
 · rw [if_pos hes] at hb
   exact Or.inr (hexValue_of_mem_escapeByte hb)
 · rw [if_neg hes,mem_singleton] at hb
   subst hb
   exact Or.inl (Bool.eq_false_of_not_eq_true hes)

lemma escape_of_forall (h : ∀ b ∈ s, se b = false) : escape se s = s := by
 induction s with
 | nil => rfl
 | cons b s ih =>
  have hb := h b mem_cons_self
  rw [escape_cons,if_neg (by simp [hb]),ih fun c hc => h c (mem_cons_of_mem _ hc),
   singleton_append]

end

lemma unescape_append_of_notMem (h : percent ∉ s) (t : List UInt8) :
  unescape (s ++ t) = (unescape t).map (s ++ ·) := by
 induction s with
 | nil => simp
 | cons b s ih =>
  have hb : b ≠ percent := fun e => h (e ▸ mem_cons_self)
  have hs : percent ∉ s := fun hm => h (mem_cons_of_mem _ hm)
  rw [cons_append,unescape_cons hb,ih hs,Option.map_map]
  rfl

lemma unescape_of_notMem (h : percent ∉ s) : unescape s = some s := by
 simpa [unescape] using unescape_append_of_notMem h []

/-- Unescaping never lengthens a string, and keeps its length only if there is nothing to do. -/
lemma length_of_unescape {s t : List UInt8} (h : unescape s = some t) :
  t.length ≤ s.length ∧ (percent ∈ s → t.length < s.length) := by
 fun_induction unescape s generalizing t with
 | case1 => simp_all
 | case2 hg low rest a b hh hl ih =>
  obtain ⟨t',ht',rfl⟩ := Option.map_eq_some_iff.mp h
  have := (ih ht').1
  simp only [length_cons]
  omega
 | case3 | case4 => simp at h
 | case5 b rest hb ih =>
  obtain ⟨t',ht',rfl⟩ := Option.map_eq_some_iff.mp h
  have hr := ih ht'
  simp only [length_cons,mem_cons]
  refine ⟨by omega,?_⟩
  rintro (hm | hm)
  · exact absurd hm.symm hb
  · have := hr.2 hm
    omega

end NovaEdge.PercentEncoding
