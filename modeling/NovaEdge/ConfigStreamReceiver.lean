import NovaEdge.TransitionSystem

/-! A config stream and the goroutine that receives for it. The results are handed over a channel
of one slot, which nobody reads after `streamConfig` has returned. -/
namespace NovaEdge.Agent
open TransitionSystem

/-- The goroutine's loop is at `Recv`, at the channel, or over. -/
inductive RecvPhase (S : Type)
 | receiving
 | sending (result : Except String S)
 | done

/-- The inbox is what `Recv` can still return; it fails once the stream is broken or `streamConfig`
has returned, which cancels the stream's context. -/
structure ConfigRecv (S : Type) where
 phase : RecvPhase S := .receiving
 recvCh : Option (Except String S) := none
 inbox : List S := []
 (broken returned : Bool := false)
 currentSnapshot : Option S := none

section
variable {S : Type}

def RecvPhase.afterSend : Except String S → RecvPhase S
 | .error _ => .done
 | .ok _ => .receiving

inductive ReceiverStep (c : ConfigRecv S) : ConfigRecv S → Prop
 | recv {snapshot : S} {rest : List S} (hp : c.phase = .receiving)
   (hi : c.inbox = snapshot::rest) :
   ReceiverStep c { c with inbox := rest, phase := .sending (.ok snapshot) }
 | fail (err : String) (hp : c.phase = .receiving) (hf : c.broken ∨ c.returned) :
   ReceiverStep c { c with phase := .sending (.error err) }
 | send {result : Except String S} (hp : c.phase = .sending result) (hc : c.recvCh = none) :
   ReceiverStep c { c with recvCh := some result, phase := .afterSend result }

/-- The select of `streamConfig`, in which a forced resync and the context end the call, and what
the network does. -/
inductive StreamStep (c : ConfigRecv S) : ConfigRecv S → Prop
 | snapshot {snapshot : S} (applied : Bool) (hr : c.returned = false)
   (hc : c.recvCh = some (.ok snapshot)) : StreamStep c { c with
    recvCh := none
    currentSnapshot := if applied then some snapshot else c.currentSnapshot }
 | error {err : String} (hr : c.returned = false) (hc : c.recvCh = some (.error err)) :
   StreamStep c { c with recvCh := none, returned := true }
 | leave (hr : c.returned = false) : StreamStep c { c with returned := true }
 | deliver (snapshot : S) : StreamStep c { c with inbox := c.inbox ++ [snapshot] }
 | break : StreamStep c { c with broken := true }

def streamConfig (S : Type) : TransitionSystem (ConfigRecv S) Unit where
 init c := ∃ snapshot, c = { currentSnapshot := snapshot }
 step c _ d := ReceiverStep c d ∨ StreamStep c d

def Released (c : ConfigRecv S) : Prop := Inevitable ReceiverStep (·.phase = .done) c

/-- Nothing is in the channel, and no result but an error is handed over any more. -/
def AtMostError (c : ConfigRecv S) : Prop :=
 c.recvCh = none ∧
  ((∃ err, c.phase = .sending (.error err)) ∨ c.phase = .receiving ∧ c.inbox = [])

variable {c : ConfigRecv S}

/-- With the channel full the goroutine is never done. -/
lemma not_released_of_full {res : Except String S} (hc : c.recvCh = some res)
  (hp : c.phase ≠ .done) : ¬ Released c := by
 refine not_inevitable (fun c => c.recvCh = some res ∧ c.phase ≠ .done) ?_
  (fun c h => h.2) ⟨hc,hp⟩
 rintro c d ⟨hc,hp⟩ hs
 cases hs with
 | recv _ _ | fail _ _ _ => exact ⟨hc,nofun⟩
 | send _ hn =>
  rw [hc] at hn
  cases hn

lemma recvCh_of_released (h : Released c) (hd : c.phase ≠ .done) : c.recvCh = none := by
 by_contra hc
 obtain ⟨result,hc⟩ := Option.ne_none_iff_exists'.mp hc
 exact not_released_of_full hc hd h

lemma not_released_of_ok {snap : S} (hp : c.phase = .sending (.ok snap)) : ¬ Released c := by
 have hd : c.phase ≠ .done := by rw [hp]; nofun
 have hn : RecvPhase.afterSend (.ok snap) ≠ .done := by simp [RecvPhase.afterSend]
 intro h
 exact not_released_of_full rfl hn (h.next hd (.send hp (recvCh_of_released h hd)))

lemma released_of_error {err : String} (hc : c.recvCh = none)
  (hp : c.phase = .sending (.error err)) : Released c := by
 refine .later ⟨_,.send hp hc⟩ fun d hs => .here ?_
 cases hs with
 | recv h _ | fail _ h _ =>
  rw [hp] at h
  cases h
 | send h _ =>
  rw [hp] at h
  cases h
  rfl

lemma released_of_empty (hr : c.returned = true) (hc : c.recvCh = none)
  (hp : c.phase = .receiving) (hi : c.inbox = []) : Released c := by
 refine .later ⟨_,.fail "" hp (.inr hr)⟩ fun d hs => ?_
 cases hs with
 | recv _ h =>
  rw [hi] at h
  cases h
 | fail err _ _ => exact released_of_error hc rfl
 | send h _ =>
  rw [hp] at h
  cases h

/-- After the return the goroutine comes to its end exactly from these states. -/
theorem receiver_released_iff (hr : c.returned = true) :
  Released c ↔ c.phase = .done ∨ AtMostError c := by
 constructor
 · intro h
   cases hp : c.phase with
   | done => exact .inl rfl
   | sending result =>
    have hc := recvCh_of_released h (by rw [hp]; nofun)
    cases result with
    | ok snapshot => exact absurd h (not_released_of_ok hp)
    | error err => exact .inr ⟨hc,.inl ⟨err,hp⟩⟩
   | receiving =>
    have hd : c.phase ≠ .done := by rw [hp]; nofun
    refine .inr ⟨recvCh_of_released h hd,.inr ⟨hp,?_⟩⟩
    cases hi : c.inbox with
    | nil => rfl
    | cons snapshot rest => exact absurd (h.next hd (.recv hp hi)) (not_released_of_ok rfl)
 · rintro (hp | ⟨hc,⟨err,hp⟩ | ⟨hp,hi⟩⟩)
   · exact .here hp
   · exact released_of_error hc hp
   · exact released_of_empty hr hc hp hi

end

/-- Nothing was received when a resync is forced. -/
theorem idle_receiver_released : Released ({ returned := true } : ConfigRecv String) :=
 (receiver_released_iff rfl).mpr (.inr ⟨rfl,.inr ⟨rfl,rfl⟩⟩)

/-- A resync is forced while a snapshot is in the channel. -/
theorem receiver_left_behind_snapshot : ∃ c : ConfigRecv String,
  (streamConfig String).Reachable c ∧ c.returned = true ∧ ¬ Released c := by
 have h0 : (streamConfig String).Reachable {} := .start ⟨none,rfl⟩
 have h1 := h0.next (i := ()) (.inr (.deliver "a"))
 have h2 := h1.next (i := ()) (.inl (.recv rfl rfl))
 have h3 := h2.next (i := ()) (.inl (.send rfl rfl))
 have h4 := h3.next (i := ()) (.inr (.leave rfl))
 exact ⟨_,h4,rfl,not_released_of_full rfl nofun⟩

end NovaEdge.Agent
