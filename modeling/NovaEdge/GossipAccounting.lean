import NovaEdge.ConfigGossip

/-! The peer table and its counter under the single steps of the receiver and of the checker. The
receiver's store can write a peer that the checker has deleted since the receiver found it, and
nobody counts that peer. -/
namespace NovaEdge.Gossip
open KeyedMap List

/-- Where the receiver is in `handleMessage`. -/
inductive Receiving
 | idle
 | load (msg : Announcement)
 | checkCount (msg : Announcement)
 | loadOrStore (msg : Announcement)
 | store (msg : Announcement)
 | count

/-- Where the checker is with a peer that its range has come to. -/
inductive Expiring
 | idle
 | delete (peer : String)
 | uncount

def Receiving.owed : Receiving → ℤ
 | .count => 1
 | _ => 0

def Expiring.owed : Expiring → ℤ
 | .uncount => 1
 | _ => 0

lemma Expiring.owed_bounds (c : Expiring) : 0 ≤ c.owed ∧ c.owed ≤ 1 := by
 cases c <;> simp [owed]

/-- `resurrected` is for the proof only: how often a peer was stored that was not there. -/
structure PeerTable where
 nodeName : String
 peerVersions : KeyedMap String PeerState := ∅
 peerCount : Int32 := 0
 receiver : Receiving := .idle
 checker : Expiring := .idle
 resurrected : ℕ := 0

namespace PeerTable
variable (g : PeerTable)

def has (peer : String) : Prop := peer ∈ g.peerVersions

instance (peer : String) : Decidable (g.has peer) := inferInstanceAs (Decidable (_ ∈ _))

def put (msg : Announcement) (now : ℤ) (receiver : Receiving) : PeerTable :=
 { g with
   peerVersions := g.peerVersions.set msg.nodeName ⟨msg.genTime,now⟩, receiver := receiver }

inductive Step : PeerTable → Prop
 | handleMessage {msg : Announcement} (hr : g.receiver = .idle) (hn : msg.nodeName ≠ g.nodeName) :
   Step { g with receiver := .load msg }
 | known {msg : Announcement} (hr : g.receiver = .load msg) (hp : g.has msg.nodeName) :
   Step { g with receiver := .loadOrStore msg }
 | unknown {msg : Announcement} (hr : g.receiver = .load msg) (hp : ¬ g.has msg.nodeName) :
   Step { g with receiver := .checkCount msg }
 | full {msg : Announcement} (hr : g.receiver = .checkCount msg) (hc : maxPeers ≤ g.peerCount.toInt) :
   Step { g with receiver := .idle }
 | room {msg : Announcement} (hr : g.receiver = .checkCount msg) (hc : g.peerCount.toInt < maxPeers) :
   Step { g with receiver := .loadOrStore msg }
 | loaded {msg : Announcement} (hr : g.receiver = .loadOrStore msg) (hp : g.has msg.nodeName) :
   Step { g with receiver := .store msg }
 | stored {msg : Announcement} (now : ℤ) (hr : g.receiver = .loadOrStore msg)
   (hp : ¬ g.has msg.nodeName) : Step (g.put msg now .count)
 | store {msg : Announcement} (now : ℤ) (hr : g.receiver = .store msg) (hp : g.has msg.nodeName) :
   Step (g.put msg now .idle)
 | resurrect {msg : Announcement} (now : ℤ) (hr : g.receiver = .store msg)
   (hp : ¬ g.has msg.nodeName) :
   Step (put { g with resurrected := g.resurrected+1 } msg now .idle)
 | count (hr : g.receiver = .count) :
   Step { g with peerCount := g.peerCount+1, receiver := .idle }
 | visit {peer : String} {state : PeerState} (now : ℤ) (hc : g.checker = .idle)
   (hp : g.peerVersions.find? peer = some state) (he : ConfigGossiper.expired now state) :
   Step { g with checker := .delete peer }
 | delete {peer : String} (hc : g.checker = .delete peer) :
   Step { g with peerVersions := g.peerVersions.delete peer, checker := .uncount }
 | uncount (hc : g.checker = .uncount) :
   Step { g with peerCount := g.peerCount - 1, checker := .idle }

def system : TransitionSystem PeerTable Unit where
 init g := ∃ nodeName, g = { nodeName := nodeName }
 step g _ g' := g.Step g'

def size : ℤ := g.peerVersions.keys.length

structure Accounted : Prop where
 balance : g.peerCount = .ofInt (g.size + g.checker.owed - g.receiver.owed - g.resurrected)
 present : ∀ peer, g.checker = .delete peer → g.has peer
 capped : g.resurrected = 0 → g.size ≤ maxPeers
 reserved : g.resurrected = 0 → ∀ msg, g.receiver = .loadOrStore msg → g.has msg.nodeName ∨
  g.size < maxPeers

variable {g}

section
variable {msg : Announcement} {now : ℤ} {rec : Receiving}

lemma size_put_of_has (h : g.has msg.nodeName) : (g.put msg now rec).size = g.size := by
 have hm := AList.mem_keys.mp h
 have hl := length_pos_of_mem hm
 rw [size,put,KeyedMap.set,AList.keys_insert,length_cons,length_erase_of_mem hm,size]
 omega

lemma size_put (h : ¬ g.has msg.nodeName) : (g.put msg now rec).size = g.size+1 := by
 have hm : msg.nodeName ∉ g.peerVersions.keys := fun hm => h (AList.mem_keys.mpr hm)
 rw [size,put,KeyedMap.set,AList.keys_insert,length_cons,erase_of_not_mem hm,size]
 rfl

lemma has_put {peer : String} (h : g.has peer) : (g.put msg now rec).has peer :=
 (AList.mem_insert _).mpr (.inr h)

end

lemma size_delete {peer : String} (h : g.has peer) :
  ({ g with peerVersions := g.peerVersions.delete peer } : PeerTable).size+1 = g.size := by
 have hm := AList.mem_keys.mp h
 have hl := length_pos_of_mem hm
 rw [size,KeyedMap.delete,AList.keys_erase,length_erase_of_mem hm,size]
 omega

/-- While no peer was stored again, nothing wraps. -/
lemma Accounted.toInt_peerCount (h : g.Accounted) (h0 : g.resurrected = 0)
  (hr : g.receiver.owed = 0) : g.peerCount.toInt = g.size + g.checker.owed := by
 have hc := h.capped h0
 have ho := g.checker.owed_bounds
 have hs : 0 ≤ g.size := Int.natCast_nonneg _
 rw [h.balance,h0,hr,Int32.toInt_ofInt_of_le]
 · omega
 · omega
 · simp only [maxPeers] at hc
   omega

lemma Accounted.step {g' : PeerTable} (h : g.Accounted) (hs : g.Step g') : g'.Accounted := by
 have hb := h.balance
 cases hs with
 | known hr hp =>
  rw [hr] at hb
  refine ⟨hb,h.present,h.capped,fun _ msg hm => ?_⟩
  cases hm
  exact .inl hp
 | handleMessage hr _ | unknown hr _ | full hr _ | loaded hr _ =>
  rw [hr] at hb
  exact ⟨hb,h.present,h.capped,fun _ => nofun⟩
 | room hr hc =>
  have hcount := fun h0 => h.toInt_peerCount h0 (by rw [hr]; rfl)
  rw [hr] at hb
  refine ⟨hb,h.present,h.capped,fun h0 _ _ => .inr ?_⟩
  have ho := g.checker.owed_bounds
  have hn := hcount h0
  change g.size < maxPeers
  omega
 | @stored msg now hr hp =>
  have hz := @size_put g msg now .count hp
  refine ⟨?_,fun peer hc => has_put (h.present peer hc), fun h0 => ?_, fun _ => nofun⟩
  · refine hb.trans (congrArg Int32.ofInt ?_)
    simp only [put,hr,Receiving.owed] at hz ⊢
    omega
  · rcases h.reserved h0 msg hr with hm | hm
    · exact absurd hm hp
    · omega
 | @store msg now hr hp =>
  have hz := @size_put_of_has g msg now .idle hp
  rw [hr] at hb
  exact ⟨hz ▸ hb,fun peer hc => has_put (h.present peer hc),
   fun h0 => hz.trans_le (h.capped h0), fun _ => nofun⟩
 | @resurrect msg now hr hp =>
  have hz := @size_put g msg now .idle hp
  refine ⟨?_,fun peer hc => @has_put g _ _ .idle _ (h.present peer hc), nofun, nofun⟩
  refine hb.trans (congrArg Int32.ofInt ?_)
  change _ = (g.put msg now .idle).size + g.checker.owed - 0 - ((g.resurrected + 1 : ℕ) : ℤ)
  simp only [hr,Receiving.owed]
  push_cast
  omega
 | count hr =>
  refine ⟨?_,h.present,h.capped,fun _ => nofun⟩
  change g.peerCount + 1 = .ofInt (g.size + g.checker.owed - 0 - g.resurrected)
  rw [hb,hr,show (1 : Int32) = .ofInt 1 from rfl,← Int32.ofInt_add]
  exact congrArg Int32.ofInt (by simp only [Receiving.owed]; omega)
 | visit now hc hp _ =>
  rw [hc] at hb
  refine ⟨hb,fun peer' hd => ?_, h.capped, h.reserved⟩
  cases hd
  exact AList.lookup_isSome.mp (isSome_of_eq_some hp)
 | @delete peer hc =>
  have hz := size_delete (h.present peer hc)
  have hle := fun h0 => hz.trans_le (h.capped h0)
  refine ⟨hb.trans (congrArg Int32.ofInt ?_),nofun,
   fun h0 => (Int.lt_of_add_one_le (hle h0)).le, fun h0 msg hm => ?_⟩
  · rw [hc,← hz]
    rfl
  by_cases hp : msg.nodeName = peer
  · exact .inr (Int.lt_of_add_one_le (hle h0))
  · refine (h.reserved h0 msg hm).imp (fun hm => AList.mem_erase.mpr ⟨hp,hm⟩) fun hm => ?_
    exact (Int.lt_add_one_of_le le_rfl).trans (hz.trans_lt hm)
 | uncount hc =>
  refine ⟨?_,nofun, h.capped, h.reserved⟩
  change g.peerCount - 1 = .ofInt (g.size + 0 - g.receiver.owed - g.resurrected)
  rw [hb,hc,show (1 : Int32) = .ofInt 1 from rfl,← Int32.ofInt_sub]
  exact congrArg Int32.ofInt (by simp only [Expiring.owed]; omega)

lemma bmod_sub_eq_iff {n r : ℤ} (hn : 0 ≤ n) :
  (n - r).bmod (2 ^ 32) = n ↔ 2 ^ 32 ∣ r ∧ n < 2 ^ 31 := by
 simp only [Int.bmod]
 split_ifs <;> omega

/-- The counter is right up to a multiple of 2³² peers that were stored again after their deletion,
and while there was none the table is bounded. -/
theorem peers_counted_iff (h : system.Reachable g) :
  (g.receiver = .idle → g.checker = .idle →
    (g.peerCount.toInt = g.size ↔ (2 ^ 32 : ℤ) ∣ g.resurrected ∧ g.size < 2 ^ 31)) ∧
   (g.resurrected = 0 → g.size ≤ 256) := by
 have ha : g.Accounted := by
  refine h.invariant ?_ fun g _ g' => .step
  rintro g ⟨nodeName,rfl⟩
  exact ⟨rfl,nofun, fun _ => show (0 : ℤ) ≤ 256 by decide, fun _ => nofun⟩
 refine ⟨fun hr hc => ?_, ha.capped⟩
 have hs : 0 ≤ g.size := Int.natCast_nonneg _
 rw [ha.balance,hr,hc,Int32.toInt_ofInt,← bmod_sub_eq_iff hs]
 simp only [Receiving.owed,Expiring.owed,add_zero,sub_zero]
 rfl

/-- A new peer announces itself while nothing else runs. -/
lemma reachable_announced (msg : Announcement) (h : system.Reachable g) (now : ℤ)
  (hr : g.receiver = .idle) (hn : msg.nodeName ≠ g.nodeName) (hp : ¬g.has msg.nodeName)
  (hc : g.peerCount.toInt < maxPeers) :
  system.Reachable { g.put msg now .idle with peerCount := g.peerCount + 1 } := by
 have h1 := h.next (i := ()) (.handleMessage hr hn)
 have h2 := h1.next (i := ()) (.unknown rfl hp)
 have h3 := h2.next (i := ()) (.room rfl hc)
 have h4 := h3.next (i := ()) (.stored now rfl hp)
 exact h4.next (i := ()) (.count rfl)

/-- The checker removes a peer that was not heard of for too long. -/
lemma reachable_expired (peer : String) {state : PeerState} (h : system.Reachable g) (now : ℤ)
  (hc : g.checker = .idle) (hp : g.peerVersions.find? peer = some state)
  (he : ConfigGossiper.expired now state) :
  system.Reachable { g with
    peerVersions := g.peerVersions.delete peer
    peerCount := g.peerCount - 1
    checker := .idle } := by
 have h1 := h.next (i := ()) (.visit now hc hp he)
 have h2 := h1.next (i := ()) (.delete rfl)
 exact h2.next (i := ()) (.uncount rfl)

/-- Peers b and c are stored and counted, then b expires. -/
theorem expired_peers_counted : ∃ g, system.Reachable g ∧ g.has "c" ∧ ¬g.has "b" ∧ g.size = 1 ∧
  g.peerCount.toInt = g.size := by
 have h0 : system.Reachable { nodeName := "a" } := .start ⟨"a",rfl⟩
 have h1 := reachable_announced ⟨"b",1⟩ h0 0 rfl (by decide) (AList.notMem_empty _)
  (by decide)
 have h2 := reachable_announced ⟨"c",1⟩ h1 (10*second) rfl (by decide) (by decide)
  (by decide)
 have h3 := reachable_expired "b" h2 (16*second) rfl rfl rfl
 exact ⟨_,h3,by decide,by decide,rfl,
  ((peers_counted_iff h3).1 rfl rfl).mpr ⟨by decide,by decide⟩⟩

/-- A message of an expired peer comes while the checker deletes it. -/
theorem resurrected_peer_uncounted : ∃ g, system.Reachable g ∧ g.receiver = .idle ∧
  g.checker = .idle ∧ g.peerCount.toInt ≠ g.size := by
 have h0 : system.Reachable { nodeName := "a" } := .start ⟨"a",rfl⟩
 have h1 := reachable_announced ⟨"b",1⟩ h0 0 rfl (by decide) (AList.notMem_empty _)
  (by decide)
 have h2 := h1.next (i := ()) (@Step.handleMessage _ ⟨"b",1⟩ rfl (by decide))
 have h3 := h2.next (i := ()) (.known rfl mem_cons_self)
 have h4 := h3.next (i := ()) (.loaded rfl mem_cons_self)
 have h5 := reachable_expired "b" h4 (16*second) rfl rfl rfl
 have h6 := h5.next (i := ()) (.resurrect (16*second) rfl fun hm => (AList.mem_erase.mp hm).1 rfl)
 exact ⟨_,h6,rfl,rfl,by decide⟩

end PeerTable
end NovaEdge.Gossip
