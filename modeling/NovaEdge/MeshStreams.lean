import NovaEdge.TransitionSystem

/-! The two copies of a proxied connection, as in `proxyTCP` and `handleConnect`. A copy that comes
to the end of its source closes nothing: the connections are closed when the call returns, which is
after both copies. -/
namespace NovaEdge.Mesh
open TransitionSystem Function

inductive Peer
 | client
 | backend
 deriving DecidableEq

def Peer.other : Peer → Peer
 | .client => .backend
 | .backend => .client

/-- A peer may send more; it sends no more; and `io.Copy` from it has returned. -/
inductive CopyStage
 | sending
 | finished
 | copied
 deriving DecidableEq

/-- The copy of what a peer sends: what it has not read, and what it has written to the other peer. -/
structure Copying where
 (unread forwarded : List UInt8 := [])
 stage : CopyStage := .sending

abbrev Proxying := Peer → Copying

def Proxying.returned (s : Proxying) : Prop := ∀ p, (s p).stage = .copied

/-- Whether a peer reads the end of what the other one sends. -/
def Proxying.endOfStream (s : Proxying) (_p : Peer) : Prop := s.returned

inductive PeerStep (s : Proxying) (p : Peer) : Proxying → Prop
 | write (data : List UInt8) (h : (s p).stage = .sending) :
   PeerStep s p (update s p { s p with unread := (s p).unread ++ data })
 | finish (h : (s p).stage = .sending) :
   PeerStep s p (update s p { s p with stage := .finished })

inductive ProxyStep (s : Proxying) : Proxying → Prop
 | copy (p : Peer) (n : ℕ) (h0 : 0 < n) (hn : n ≤ (s p).unread.length) :
   ProxyStep s (update s p { s p with
    unread := (s p).unread.drop n, forwarded := (s p).forwarded ++ (s p).unread.take n })
 | endCopy (p : Peer) (hu : (s p).unread = []) (hf : (s p).stage = .finished) :
   ProxyStep s (update s p { s p with stage := .copied })

variable {s t : Proxying}

lemma ProxyStep.stage_eq_sending (h : ProxyStep s t) (p : Peer) :
  (t p).stage = .sending ↔ (s p).stage = .sending := by
 cases h with
 | copy q n _ _ => by_cases hp : p = q <;> simp [hp]
 | endCopy q _ hf => by_cases hp : p = q <;> simp [hp,hf]

/-- As long as one peer may send more, the call does not return. -/
lemma not_inevitable_returned {p : Peer} (h : (s p).stage = .sending) :
  ¬ Inevitable ProxyStep Proxying.returned s := by
 refine not_inevitable (fun s => (s p).stage = .sending) ?_ ?_ h
 · exact fun s t hs ht => (ht.stage_eq_sending p).mpr hs
 · intro s hs hr
   rw [hr p] at hs
   cases hs

def Copying.remaining (c : Copying) : ℕ := c.unread.length+if c.stage = .copied then 0 else 1

def Proxying.remaining (s : Proxying) : ℕ := (s .client).remaining+(s .backend).remaining

lemma remaining_update (s : Proxying) {p : Peer} {c : Copying}
  (h : c.remaining < (s p).remaining) : Proxying.remaining (update s p c) < s.remaining := by
 cases p <;> simp [Proxying.remaining,h]

lemma ProxyStep.remaining_lt (h : ProxyStep s t) : t.remaining < s.remaining := by
 cases h with
 | copy p n h0 hn =>
  refine remaining_update s ?_
  simp only [Copying.remaining,List.length_drop]
  omega
 | endCopy p hu hf =>
  refine remaining_update s ?_
  simp [Copying.remaining,hf]

/-- Once both peers have finished, the call returns. -/
lemma inevitable_returned (h : ∀ p, (s p).stage ≠ .sending) :
  Inevitable ProxyStep Proxying.returned s := by
 refine inevitable_of_measure (fun s => ∀ p, (s p).stage ≠ .sending) Proxying.remaining ?_ ?_ h
 · intro s t hs _ ht
   exact ⟨fun p hp => hs p ((ht.stage_eq_sending p).mp hp),ht.remaining_lt⟩
 · intro s hs hr
   obtain ⟨p,hp⟩ := not_forall.mp hr
   have hf : (s p).stage = .finished := by
    cases hst : (s p).stage with
    | sending => exact absurd hst (hs p)
    | finished => rfl
    | copied => exact absurd hst hp
   by_cases hu : (s p).unread = []
   · exact ⟨_,.endCopy p hu hf⟩
   · exact ⟨_,.copy p 1 Nat.one_pos (List.length_pos_iff.mpr hu)⟩

/-- The end of a peer's stream gets to the other one exactly if both peers have finished or none. -/
theorem half_close_propagated_iff (s : Proxying) :
  (∀ p, (s p).stage ≠ .sending → Inevitable ProxyStep (·.endOfStream p.other) s) ↔
   ((∃ p, (s p).stage = .sending) → ∀ p, (s p).stage = .sending) := by
 constructor
 · rintro h ⟨q,hq⟩ p
   by_contra hp
   exact not_inevitable_returned hq (h p hp)
 · intro h p hp
   exact inevitable_returned fun q hq => hp (h ⟨q,hq⟩ p)

/-- The client finishes, and the backend waits for the end before it answers. -/
theorem backend_never_reads_end :
  let s : Proxying := update (fun _ => {}) .client { stage := .finished }
  PeerStep (fun _ => {}) .client s ∧ ¬ Inevitable ProxyStep (·.endOfStream .backend) s :=
 ⟨.finish rfl,not_inevitable_returned (p := .backend) rfl⟩

end NovaEdge.Mesh
