import NovaEdge.Balancers

/-! Sticky sessions. A table remembers the address that a cookie was given, up to a number of cookies;
a cookie that comes when the table is full is served without being remembered. -/
namespace NovaEdge.Dataplane
open List Option

def maxAffinityEntries : ℕ := 10000

structure StickySession where
 affinity : KeyedMap String SocketAddr := ∅
 counter : UInt64 := 0

open StickySession
namespace StickySession

def lookup (lb : StickySession) (cookie : Option String) (backends : List Backend) : Option ℕ :=
 (cookie.bind lb.affinity.find?).bind fun address =>
  (healthyIndices backends).find? fun i => (backends[i]?).map Backend.socket = some address

def fetchAdd (lb : StickySession) : StickySession := { lb with counter := lb.counter+1 }

def fallback (lb : StickySession) (backends : List Backend) : Option ℕ :=
 let weighted := weightedExpand (healthyIndices backends) backends
 weighted[lb.counter.toNat % weighted.length]?

def store (lb : StickySession) (cookie : Option String) (address : SocketAddr) : StickySession :=
 match cookie with
 | some cookie =>
  if lb.affinity.entries.length < maxAffinityEntries then
   { lb with affinity := lb.affinity.set cookie address }
  else lb
 | none => lb

/-- Other threads act before the counter is read and before the selection is stored. -/
def selectAmid (others others' : StickySession → StickySession) (lb : StickySession)
  (cookie : Option String) (backends : List Backend) : Option ℕ × StickySession :=
 if healthyIndices backends = [] then (none,lb)
 else
  match lb.lookup cookie backends with
  | some idx => (some idx,lb)
  | none =>
   let amid := others lb
   match (amid.fallback backends).bind (backends[·]?) with
   | none => (none,amid)
   | some b => (amid.fallback backends,(others' amid.fetchAdd).store cookie b.socket)

end StickySession

inductive OtherStep (cookie : String)
 | fetchAdd
 | store (cookie' : Option String) (hne : cookie' ≠ some cookie) (address : SocketAddr)

def OtherStep.apply {cookie : String} (lb : StickySession) : OtherStep cookie → StickySession
 | .fetchAdd => lb.fetchAdd
 | .store cookie' _ address => lb.store cookie' address

def othersApply {cookie : String} (steps : List (OtherStep cookie)) (lb : StickySession) :
  StickySession :=
 steps.foldl OtherStep.apply lb

/-- A selection with the cookie, and what others do during it. -/
structure StickySelect (cookie : String) where
 backends : List Backend
 (others others' : List (OtherStep cookie) := [])

open StickySelect
inductive StickyEvent (cookie : String)
 | select (s : StickySelect cookie)
 | other (step : OtherStep cookie)

open StickyEvent
section
variable {cookie : String}

def StickySelect.run (s : StickySelect cookie) (lb : StickySession) : Option ℕ × StickySession :=
 lb.selectAmid (othersApply s.others) (othersApply s.others') (some cookie) s.backends

def StickySelect.returned (s : StickySelect cookie) (lb : StickySession) : Option SocketAddr :=
 ((s.run lb).1.bind (s.backends[·]?)).map Backend.socket

def StickyEvent.apply (lb : StickySession) : StickyEvent cookie → StickySession
 | .select s => (s.run lb).2
 | .other step => step.apply lb

/-- The selection comes from the table, or the table has room when it is stored. -/
def StickySelect.Remembered (s : StickySelect cookie) (lb : StickySession) : Prop :=
 lb.lookup (some cookie) s.backends ≠ none ∨
  (othersApply s.others' (othersApply s.others lb).fetchAdd).affinity.entries.length <
   maxAffinityEntries

def StickyEvent.Offers (address : SocketAddr) : StickyEvent cookie → Prop
 | .select s => ∃ b ∈ s.backends, b.healthy = true ∧ b.socket = address
 | .other _ => True

structure Sticks (events : List (StickyEvent cookie)) : Prop where
 bounded : (events.foldl StickyEvent.apply {}).affinity.entries.length ≤ maxAffinityEntries
 sticks : ∀ before s between s' address, events = before ++ .select s::between ++ [.select s'] →
  s.returned (before.foldl StickyEvent.apply {}) = some address →
  s.Remembered (before.foldl StickyEvent.apply {}) →
  (∀ e ∈ between ++ [.select s'], e.Offers address) →
  s'.returned ((before ++ .select s::between).foldl StickyEvent.apply {}) = some address

variable {lb : StickySession} {address : SocketAddr}

section
variable (h : lb.affinity.entries.length ≤ maxAffinityEntries)
include h

lemma length_store_le (coo' : Option String) (addr : SocketAddr) :
  (lb.store coo' addr).affinity.entries.length ≤ maxAffinityEntries := by
 unfold store
 cases coo' with
 | none => exact h
 | some key =>
  split_ifs with hr
  · exact (Nat.succ_le_succ (kerase_sublist key lb.affinity.entries).length_le).trans hr
  · exact h

lemma length_othersApply_le (sts : List (OtherStep cookie)) :
  (othersApply sts lb).affinity.entries.length ≤ maxAffinityEntries := by
 induction sts generalizing lb with
 | nil => exact h
 | cons step sts ih =>
  refine ih ?_
  cases step with
  | fetchAdd => exact h
  | store cookie' hn address => exact length_store_le h cookie' address

lemma length_run_le (s : StickySelect cookie) :
  (s.run lb).2.affinity.entries.length ≤ maxAffinityEntries := by
 have ho : (othersApply s.others lb).fetchAdd.affinity.entries.length ≤ _ :=
  length_othersApply_le h s.others
 unfold run selectAmid
 split_ifs
 · exact h
 · split
   · exact h
   · dsimp only
     split
     · exact ho
     · exact length_store_le (length_othersApply_le ho s.others') _ _

end

lemma find?_othersApply (sts : List (OtherStep cookie)) (lb : StickySession) :
  (othersApply sts lb).affinity.find? cookie = lb.affinity.find? cookie := by
 induction sts generalizing lb with
 | nil => rfl
 | cons step sts ih =>
  refine (ih _).trans ?_
  cases step with
  | fetchAdd => rfl
  | store cookie' hn address =>
   unfold OtherStep.apply store
   cases cookie' with
   | none => rfl
   | some key =>
    split_ifs
    · exact KeyedMap.find?_set_ne _ _ fun hq => hn (congrArg some hq.symm)
    · rfl

lemma socket_of_lookup {bs : List Backend} {idx : ℕ} (h : lb.lookup (some cookie) bs = some idx) :
  ∃ address, lb.affinity.find? cookie = some address ∧
   (bs[idx]?).map Backend.socket = some address := by
 obtain ⟨address,hf,hid⟩ := bind_eq_some_iff.mp h
 exact ⟨address,hf,by simpa using find?_some hid⟩

variable {s : StickySelect cookie}

lemma exists_lookup (hf : lb.affinity.find? cookie = some address)
  (ho : StickyEvent.Offers address (.select s)) :
  ∃ idx, lb.lookup (some cookie) s.backends = some idx ∧
   (s.backends[idx]?).map Backend.socket = some address := by
 obtain ⟨b,hb,hh,hc⟩ := ho
 obtain ⟨i,hi⟩ := mem_iff_getElem?.mp hb
 have hm : i ∈ healthyIndices s.backends := mem_indicesWhere.mpr ⟨b,hi,hh⟩
 have hso : (lb.lookup (some cookie) s.backends).isSome := by
  simp only [StickySession.lookup,bind_some,hf,find?_isSome]
  exact ⟨i,hm,by simp [hi,hc]⟩
 obtain ⟨idx,hid⟩ := isSome_iff_exists.mp hso
 obtain ⟨address',hf',hs'⟩ := socket_of_lookup hid
 rw [hf] at hf'
 exact ⟨idx,hid,by rw [hs',hf']⟩

lemma run_of_lookup {idx : ℕ} (h : lb.lookup (some cookie) s.backends = some idx) :
  s.run lb = (some idx,lb) := by
 have hh : healthyIndices s.backends ≠ [] := by
  intro hn
  obtain ⟨_,-,hid⟩ := bind_eq_some_iff.mp h
  simp [hn] at hid
 rw [run,selectAmid,if_neg hh,h]

lemma find?_run (hr : s.returned lb = some address) (hre : s.Remembered lb) :
  (s.run lb).2.affinity.find? cookie = some address := by
 rcases hl : lb.lookup (some cookie) s.backends with - | idx
 · have ho := hre.resolve_left (by simp [hl])
   unfold returned at hr
   unfold run selectAmid at hr ⊢
   by_cases hh : healthyIndices s.backends = []
   · simp [hh] at hr
   · simp only [if_neg hh,hl] at hr ⊢
     cases hb : ((othersApply s.others lb).fallback s.backends).bind (s.backends[·]?) with
     | none => simp [hb] at hr
     | some b =>
      simp only [hb,map_some,Option.some.injEq] at hr
      simp only [store,if_pos ho,hr]
      exact KeyedMap.find?_set_self _ _ _
 · obtain ⟨address',hf,hso⟩ := socket_of_lookup hl
   rw [returned,run_of_lookup hl,bind_some,hso] at hr
   rw [run_of_lookup hl,hf,hr]

lemma find?_apply (hf : lb.affinity.find? cookie = some address) {e : StickyEvent cookie}
  (ho : e.Offers address) : (e.apply lb).affinity.find? cookie = some address := by
 cases e with
 | select s =>
  obtain ⟨idx,hl,-⟩ := exists_lookup hf ho
  rw [apply,run_of_lookup hl]
  exact hf
 | other step => exact (find?_othersApply [step] lb).trans hf

lemma find?_foldl (hf : lb.affinity.find? cookie = some address)
  {evs : List (StickyEvent cookie)} (ho : ∀ e ∈ evs, e.Offers address) :
  (evs.foldl apply lb).affinity.find? cookie = some address := by
 induction evs generalizing lb with
 | nil => exact hf
 | cons e evs ih =>
  exact ih (find?_apply hf (ho e (by simp))) fun e' he' => ho e' (by simp [he'])

lemma length_foldl_le (h : lb.affinity.entries.length ≤ maxAffinityEntries)
  (evs : List (StickyEvent cookie)) :
  (evs.foldl apply lb).affinity.entries.length ≤ maxAffinityEntries := by
 induction evs generalizing lb with
 | nil => exact h
 | cons e evs ih =>
  refine ih ?_
  cases e with
  | select s => exact length_run_le h s
  | other step => exact length_othersApply_le h [step]

end

/-- Sessions that are remembered stick in every run, whatever requests with other cookies do. -/
theorem sticky_sessions_stick {cookie : String} (events : List (StickyEvent cookie)) :
  Sticks events := by
 refine ⟨length_foldl_le (Nat.zero_le _) events,?_⟩
 rintro before s between s' address rfl hr hre ho
 have hf := find?_foldl (find?_run hr hre) fun e he => ho e (mem_append_left _ he)
 obtain ⟨idx,hl,hso⟩ := exists_lookup hf (ho (.select s') (by simp))
 rw [foldl_append,foldl_cons]
 exact (congrArg (fun r => (r.1.bind (s'.backends[·]?)).map Backend.socket)
  (run_of_lookup hl)).trans hso

def twins : List Backend := [⟨"10.0.0.1",80,1,true,none,0⟩,⟨"10.0.0.2",80,1,true,none,0⟩]

def crowdCookie (i : ℕ) : String := String.ofList (List.replicate i 'x')

lemma crowdCookie_inj {i j : ℕ} (h : crowdCookie i = crowdCookie j) : i = j := by
 simpa [crowdCookie] using congrArg (List.length ∘ String.toList) h

lemma crowdCookie_ne (i : ℕ) : some (crowdCookie i) ≠ some "c" := by
 intro h
 have hl := congrArg String.toList (Option.some.inj h)
 have hm : 'c' ∈ List.replicate i 'x' := by
  rw [show List.replicate i 'x' = ['c'] by simpa [crowdCookie] using hl]
  simp
 exact absurd (eq_of_mem_replicate hm) (by decide)

def crowd (n : ℕ) : List (OtherStep "c") :=
 (List.range n).map fun i => .store (some (crowdCookie i)) (crowdCookie_ne i) ("10.0.0.9",80)

lemma crowd_spec {n : ℕ} (hn : n ≤ maxAffinityEntries) :
  (othersApply (crowd n) {}).affinity.entries.length = n ∧ (othersApply (crowd n) {}).counter = 0 ∧
   ∀ j, n ≤ j → (othersApply (crowd n) {}).affinity.find? (crowdCookie j) = none := by
 induction n with
 | zero => exact ⟨rfl,rfl,fun _ _ => rfl⟩
 | succ n ih =>
  obtain ⟨hl,hc,hf⟩ := ih (by omega)
  simp only [othersApply,crowd,range_succ,map_append,foldl_append,
   map_cons,map_nil,foldl_cons,foldl_nil] at hl hc hf ⊢
  simp only [OtherStep.apply,store,if_pos (hl.trans_lt hn)]
  refine ⟨?_,hc,fun j hj => ?_⟩
  · have hne := kerase_of_notMem_keys (AList.lookup_eq_none.mp (hf n le_rfl))
    exact (congrArg (fun l => l.length+1) hne).trans (congrArg (· + 1) hl)
  · rw [KeyedMap.find?_set_ne _ _ fun hq => by have := crowdCookie_inj hq; omega]
    exact hf j (by omega)

lemma run_of_full {lb : StickySession} {idx : ℕ} {b : Backend}
  (hf : lb.affinity.find? "c" = none) (hu : maxAffinityEntries ≤ lb.affinity.entries.length)
  (hid : lb.fallback twins = some idx) (hb : twins[idx]? = some b) :
  (⟨twins,[],[]⟩ : StickySelect "c").run lb = (some idx,lb.fetchAdd) := by
 have hl : lb.lookup (some "c") twins = none := by simp [StickySession.lookup,hf]
 have hh : healthyIndices twins ≠ [] := by decide
 have ht : lb.fetchAdd.store (some "c") b.socket = lb.fetchAdd := if_neg (Nat.not_lt.mpr hu)
 simp only [run,StickySession.selectAmid,if_neg hh,hl,othersApply,
  foldl_nil,hid,bind_some,hb,ht]

lemma forgets_of_full {lb : StickySession} (hf : lb.affinity.find? "c" = none)
  (hu : maxAffinityEntries ≤ lb.affinity.entries.length) (hc : lb.counter = 0) :
  let s : StickySelect "c" := { backends := twins }
  s.returned lb = some ("10.0.0.1",80) ∧
   s.returned ([select s].foldl apply lb) = some ("10.0.0.2",80) := by
 intro s
 change _ ∧ s.returned (s.run lb).2 = _
 have hfs : s.run lb = (some 0,lb.fetchAdd) := by
  refine run_of_full hf hu ?_ rfl
  rw [fallback,hc]
  rfl
 have hse : s.run lb.fetchAdd = (some 1,lb.fetchAdd.fetchAdd) := by
  refine run_of_full hf hu ?_ rfl
  rw [fallback,fetchAdd,hc]
  rfl
 rw [hfs,returned,returned,hfs,hse]
 exact ⟨rfl,rfl⟩

lemma foldl_map_other {coo : String} (sts : List (OtherStep coo)) (lb : StickySession) :
  (sts.map other).foldl apply lb = othersApply sts lb := by
 rw [foldl_map]
 rfl

/-- With a full table, a session moves on to the next backend although its own is still offered. -/
theorem full_table_forgets : ∃ (events : List (StickyEvent "c")) (s : StickySelect "c"),
      s.returned (events.foldl apply {}) = some ("10.0.0.1",80) ∧
      StickyEvent.Offers ("10.0.0.1",80) (.select s) ∧
      s.returned ((events ++ [select s]).foldl apply {}) = some ("10.0.0.2",80) := by
 refine ⟨(crowd maxAffinityEntries).map other,⟨twins,[],[]⟩,?_⟩
 obtain ⟨hl,hc,-⟩ := crowd_spec (le_refl maxAffinityEntries)
 have hfi := find?_othersApply (crowd maxAffinityEntries) {}
 have hf := forgets_of_full hfi hl.ge hc
 rw [foldl_append,foldl_map_other]
 exact ⟨hf.1,⟨_,mem_cons_self,rfl,rfl⟩,hf.2⟩

end NovaEdge.Dataplane
