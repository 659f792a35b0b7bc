import NovaEdge.AgentApply
import NovaEdge.IngressTranslator

/-! The NAT rules of the mesh agent: the chain of the kernel, which a new process finds as the last
one left it, and the keys of the rules that the process installed itself. -/
namespace NovaEdge.Agent
open List
open Dataplane (splitOnce)
open Networking (MapOrder)

structure DnatRule where
 (dst dport : String)
 toPort : Int32
 deriving DecidableEq

/-- The chain counts each rule as often as it is there. -/
structure IptablesBackend where
 chain : Multiset DnatRule
 currentRules : List String := []

/-- One call: its targets, the commands that do not fail of themselves, and the orders of its
iterations over maps. -/
structure RulesCall where
 targets : List InterceptTarget
 (removes adds : String → Bool)
 keys : MapOrder String
 entries : MapOrder (String × InterceptTarget)

def RulesCall.unfailing (targets : List InterceptTarget) : RulesCall :=
 ⟨targets,fun _ => true,fun _ => true,⟨id,Perm.refl⟩,⟨id,Perm.refl⟩⟩

def desired (call : RulesCall) : Intercepted := interceptedBy call.targets

def InterceptTarget.rule (port : Int32) (t : InterceptTarget) : DnatRule :=
 ⟨t.clusterIP,toString t.port.toInt,port⟩

def keyRule (port : Int32) (key : String) : Option DnatRule :=
 (splitOnce ':' key.toList).map fun parts => ⟨String.ofList parts.1,String.ofList parts.2,port⟩

/-- The state within a call, with the errors so far. -/
abbrev Applying := IptablesBackend × List String

section
variable (port : Int32) (call : RulesCall)

/-- `-D` fails without such a rule. -/
def removeStep (s : Applying) (key : String) : Applying :=
 if (desired call).find? key ≠ none then s
 else match keyRule port key with
  | none => ({ s.1 with currentRules := s.1.currentRules.erase key },s.2)
  | some rule =>
   if call.removes key && decide (rule ∈ s.1.chain) then
    (⟨s.1.chain.erase rule,s.1.currentRules.erase key⟩,s.2)
   else (s.1,s.2 ++ ["remove " ++ key])

/-- `-A` takes no IPv6 address. -/
def addStep (s : Applying) (e : String × InterceptTarget) : Applying :=
 if e.1 ∈ s.1.currentRules then s
 else if call.adds e.1 && !e.2.clusterIP.toList.contains ':' then
  (⟨e.2.rule port ::ₘ s.1.chain,e.1::s.1.currentRules⟩,s.2)
 else (s.1,s.2 ++ ["add " ++ e.1])

/-- The errors are joined; no error is `nil`. -/
def applyRules (b : IptablesBackend) : Applying :=
 (call.entries.order (desired call).pairs).foldl (addStep port call)
  ((call.keys.order b.currentRules).foldl (removeStep port call) (b,[]))

/-- `Setup` creates the chain or finds it as it is. -/
def ensureChain (existing : Option (Multiset DnatRule)) : IptablesBackend := ⟨existing.getD 0,[]⟩

def applyAll (b : IptablesBackend) (calls : List RulesCall) : IptablesBackend :=
 calls.foldl (fun b call => (applyRules port call b).1) b

end

/-- What is in the chain beside the rules that were left over is tracked. -/
structure TracksChain (port : Int32) (left : Multiset DnatRule) (b : IptablesBackend) : Prop where
 nodup : b.currentRules.Nodup
 keys : ∀ key ∈ b.currentRules, ∃ t : InterceptTarget, ':' ∉ t.clusterIP.toList ∧ t.key = key
 chain : b.chain = left+(b.currentRules.filterMap (keyRule port) : List DnatRule)

section
variable {port : Int32} {call : RulesCall} {left : Multiset DnatRule} {s : Applying}

lemma keyRule_key {t : InterceptTarget} (h : ':' ∉ t.clusterIP.toList) :
  keyRule port t.key = some (t.rule port) := by
 have hp : ∀ c ∈ t.clusterIP.toList, (c ≠ ':' : Bool) = true := by
  intro c hm
  simpa using ne_of_mem_of_not_mem hm h
 have hk : t.key.toList = t.clusterIP.toList ++ ':' :: (toString t.port.toInt).toList := by
  simp [InterceptTarget.key]
 rw [keyRule,splitOnce,hk,span_eq_takeWhile_dropWhile,takeWhile_append_of_pos hp,
  dropWhile_append_of_pos hp]
 simp [InterceptTarget.rule]

/-- From `s` to `r` no other keys change, and without an error these are tracked if desired. -/
structure Settles (port : Int32) (call : RulesCall) (left : Multiset DnatRule) (keys : List String)
  (s r : Applying) : Prop where
 tracks : TracksChain port left r.1
 others : ∀ k ∉ keys, (k ∈ r.1.currentRules ↔ k ∈ s.1.currentRules)
 settled : r.2 = [] → s.2 = [] ∧
  ∀ k ∈ keys, (k ∈ r.1.currentRules ↔ (desired call).find? k ≠ none)

lemma Settles.trans {r t : Applying} {ks ks' : List String}
  (h : Settles port call left ks s r) (h' : Settles port call left ks' r t) :
  Settles port call left (ks ++ ks') s t where
 tracks := h'.tracks
 others k hk := by
  rw [mem_append,not_or] at hk
  exact (h'.others k hk.2).trans (h.others k hk.1)
 settled ht := by
  obtain ⟨hr,hw'⟩ := h'.settled ht
  obtain ⟨hs,hw⟩ := h.settled hr
  refine ⟨hs,fun k hk => ?_⟩
  by_cases hm : k ∈ ks'
  · exact hw' k hm
  · exact (h'.others k hm).trans (hw k ((mem_append.mp hk).resolve_right hm))

lemma removeStep_settles (h : TracksChain port left s.1) {key : String}
  (hk : key ∈ s.1.currentRules) : Settles port call left [key] s (removeStep port call s key) := by
 obtain ⟨t,ht,rfl⟩ := h.keys key hk
 unfold removeStep
 rw [keyRule_key ht]
 split_ifs with hd
 · exact ⟨h,fun _ _ => Iff.rfl,fun hs => ⟨hs,by simp [hk,hd]⟩⟩
 · dsimp only
   split_ifs with hr
   · have hp : (s.1.currentRules.filterMap (keyRule port)).Perm
       (t.rule port::(s.1.currentRules.erase t.key).filterMap (keyRule port)) := by
      simpa [keyRule_key ht] using (perm_cons_erase hk).filterMap (keyRule port)
     refine ⟨⟨h.nodup.erase _,fun k hm => h.keys k (mem_of_mem_erase hm),?_⟩,
      fun k hn => mem_erase_of_ne (by simpa using hn),fun hs => ⟨hs,?_⟩⟩
     · simp [h.chain,Multiset.coe_eq_coe.mpr hp,← Multiset.cons_coe]
     · simp [h.nodup.not_mem_erase,hd]
   · exact ⟨h,fun _ _ => Iff.rfl,fun hs => absurd hs (by simp)⟩

lemma addStep_settles (h : TracksChain port left s.1) {e : String × InterceptTarget}
  (hd : (desired call).find? e.1 = some e.2) (he : e.2.key = e.1) :
  Settles port call left [e.1] s (addStep port call s e) := by
 unfold addStep
 split_ifs with hc ha
 · exact ⟨h,fun _ _ => Iff.rfl,fun hs => ⟨hs,by simp [hc,hd]⟩⟩
 · have ht : ':' ∉ e.2.clusterIP.toList := by simp_all
   refine ⟨⟨nodup_cons.mpr ⟨hc,h.nodup⟩,forall_mem_cons.mpr ⟨⟨e.2,ht,he⟩,h.keys⟩,?_⟩,?_,?_⟩
   · simp [h.chain,← he,keyRule_key ht,← Multiset.cons_coe]
   · simp +contextual
   · simp [hd]
 · exact ⟨h,fun _ _ => Iff.rfl,fun hs => absurd hs (by simp)⟩

lemma removes_settle (h : TracksChain port left s.1) {l : List String} (hn : l.Nodup)
  (hl : ∀ k ∈ l, k ∈ s.1.currentRules) :
  Settles port call left l s (l.foldl (removeStep port call) s) := by
 induction l generalizing s with
 | nil => exact ⟨h,fun _ _ => Iff.rfl,fun hs => ⟨hs,nofun⟩⟩
 | cons key l ih =>
  obtain ⟨hkl,hn⟩ := nodup_cons.mp hn
  obtain ⟨hk,hl⟩ := forall_mem_cons.mp hl
  have hs := @removeStep_settles _ call _ _ h key hk
  refine hs.trans (ih hs.tracks hn fun k hm => (hs.others k ?_).mpr (hl k hm))
  simpa using ne_of_mem_of_not_mem hm hkl

lemma key_eq {k : String} {t : InterceptTarget} (h : (desired call).find? k = some t) :
  t.key = k := by
 rw [desired,interceptedBy,KeyedMap.find?_upsertAll_last] at h
 have hf : call.targets.reverse.find? (fun v => decide (v.key = k)) = some t := by simpa using h
 simpa using find?_some hf

lemma adds_settle (h : TracksChain port left s.1) {l : List (String × InterceptTarget)}
  (hl : ∀ e ∈ l, (desired call).find? e.1 = some e.2) :
  Settles port call left (l.map Prod.fst) s (l.foldl (addStep port call) s) := by
 induction l generalizing s with
 | nil => exact ⟨h,fun _ _ => Iff.rfl,fun hs => ⟨hs,nofun⟩⟩
 | cons e l ih =>
  obtain ⟨he,hl⟩ := forall_mem_cons.mp hl
  have hs := addStep_settles h he (key_eq he)
  exact hs.trans (ih hs.tracks hl)

lemma applyRules_spec {b : IptablesBackend} (h : TracksChain port left b) :
  let r := applyRules port call b
  TracksChain port left r.1 ∧
   (r.2 = [] → r.1.currentRules.Perm ((desired call).pairs.map Prod.fst)) := by
 have hk := call.keys.perm b.currentRules
 have hp := call.entries.perm (desired call).pairs
 have hr := @removes_settle _ call _ (b,[]) h _ (hk.nodup_iff.mpr h.nodup) fun k hm => hk.mem_iff.mp hm
 have ha := hr.trans (adds_settle hr.tracks fun e hm => KeyedMap.mem_pairs_iff.mp (hp.mem_iff.mp hm))
 refine ⟨ha.tracks,fun hs =>
  (perm_ext_iff_of_nodup ha.tracks.nodup (KeyedMap.pairs_keys_nodup _)).mpr fun k => ?_⟩
 have hd : k ∈ (desired call).pairs.map Prod.fst ↔ (desired call).find? k ≠ none := by
  simp [KeyedMap.mem_pairs_iff,ne_none_iff_exists']
 have hm := ha.others k
 have hw := (ha.settled hs).2 k
 rw [mem_append,hk.mem_iff,(hp.map Prod.fst).mem_iff] at hm hw
 by_cases hc : k ∈ b.currentRules ∨ k ∈ (desired call).pairs.map Prod.fst
 · exact (hw hc).trans hd.symm
 · rw [not_or] at hc
   exact iff_of_false (mt (hm (not_or.mpr hc)).mp hc.1) hc.2

lemma tracksChain_applyAll {b : IptablesBackend} (h : TracksChain port left b) (calls : List RulesCall) :
  TracksChain port left (applyAll port b calls) :=
 foldlRecOn calls _ h fun _ hb call _ => (@applyRules_spec _ call _ _ hb).1

/-- The colon before the port is the last one. -/
lemma clusterIP_eq {t t' : InterceptTarget} (h : t.key = t'.key) : t.clusterIP = t'.clusterIP := by
 have hp (t : InterceptTarget) : ':' ∉ (toString t.port.toInt).toList :=
  NameEncoding.notMem_toString_int (by decide) (by decide) _
 have hk (t : InterceptTarget) :
   t.key.toList = t.clusterIP.toList ++ ':' :: (toString t.port.toInt).toList := by
  simp [InterceptTarget.key]
 have hl := congrArg String.toList h
 rw [hk,hk] at hl
 exact String.toList_inj.mp (NameEncoding.append_sep_inj (hp t) (hp t') hl).1

/-- Without an error the chain has the desired rules, beside those that were left over. -/
lemma chain_applyRules {b : IptablesBackend} (h : TracksChain port left b)
  (hs : (applyRules port call b).2 = []) : (applyRules port call b).1.chain =
   left+((desired call).pairs.map fun e => e.2.rule port : List DnatRule) := by
 obtain ⟨ht,hp⟩ := @applyRules_spec _ call _ _ h
 rw [ht.chain,Multiset.coe_eq_coe.mpr ((hp hs).filterMap _),filterMap_map]
 congr 2
 refine (filterMap_congr fun e hm => ?_).trans (congrFun filterMap_eq_map _)
 have he := key_eq (KeyedMap.mem_pairs_iff.mp hm)
 obtain ⟨t,hc,hk⟩ := ht.keys e.1 ((hp hs).mem_iff.mpr (mem_map_of_mem hm))
 rw [clusterIP_eq (hk.trans he.symm)] at hc
 change keyRule port e.1 = some (e.2.rule port)
 rw [← he,keyRule_key hc]

end

/-- Whatever the commands do, a chain stays exact if and only if nothing was in it at the start. -/
theorem iptables_exact_iff (port : Int32) (existing : Option (Multiset DnatRule)) :
  (∀ calls call, let b := applyAll port (ensureChain existing) calls
   (applyRules port call b).2 = [] → (applyRules port call b).1.chain =
    ((desired call).pairs.map fun e => e.2.rule port : List DnatRule)) ↔
   ∀ rules ∈ existing, rules = 0 := by
 have hb : TracksChain port (existing.getD 0) (ensureChain existing) :=
  ⟨nodup_nil,nofun,by simp [ensureChain]⟩
 constructor
 · intro h rules hm
   obtain rfl := Option.mem_def.mp hm
   exact h [] (.unfailing []) rfl
 · intro h calls call b hs
   have he : existing.getD 0 = 0 := by cases existing <;> simp_all
   rw [he] at hb
   rw [chain_applyRules (tracksChain_applyAll hb calls) hs,zero_add]

/-- A rule of the last process is there twice once its service is applied. -/
theorem leftover_rule_doubled :
  let rule : DnatRule := ⟨"10.96.0.10","80",15006⟩
  let r := applyRules 15006 (.unfailing [⟨"10.96.0.10",80⟩]) (ensureChain (some {rule}))
  r.2 = [] ∧ r.1.chain = {rule,rule} := by decide

end NovaEdge.Agent
