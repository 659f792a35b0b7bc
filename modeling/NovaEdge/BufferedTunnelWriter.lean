import Mathlib.Tactic

/-! The tunnel's buffered writer: writes gather in a `bufio.Writer`, which a timer flushes that the
first of them starts. Writes, the timer's callback and `Close` hold one lock, for which a callback
that has fired may have to wait. -/
namespace NovaEdge.Mesh
open List

def tunnelWriteBufSize : ℕ := 32*1024

/-- A `bufio.Writer` with what it has passed to the response writer. -/
structure BufioWriter where
 (passed buf : List UInt8 := [])
 failed : Bool := false

/-- What a write to the response writer comes to: an error after some bytes, if any. -/
abbrev Outcome := Option ℕ

namespace BufioWriter
variable (b : BufioWriter) (p : List UInt8)

def copyIn : BufioWriter := { b with buf := b.buf ++ p }

def direct : Outcome → BufioWriter × ℕ
 | none => ({ b with passed := b.passed ++ p },p.length)
 | some n => ({ b with passed := b.passed ++ p.take n, failed := true },min n p.length)

def flush (outcome : Outcome) : BufioWriter :=
 if b.failed ∨ b.buf = [] then b
 else match outcome with
  | none => { b with passed := b.passed ++ b.buf, buf := [] }
  | some n => { b with passed := b.passed ++ b.buf.take n, buf := b.buf.drop n, failed := true }

/-- The loop of `Write`, which fills the buffer at most once, and the number of bytes taken. -/
def write (first second : Outcome) : BufioWriter × ℕ :=
 let room := tunnelWriteBufSize - b.buf.length
 if b.failed then (b,0)
 else if p.length ≤ room then (b.copyIn p,p.length)
 else if b.buf = [] then b.direct p first
 else
  let full := (b.copyIn (p.take room)).flush first
  if full.failed then (full,room)
  else if (p.drop room).length ≤ tunnelWriteBufSize then (full.copyIn (p.drop room),p.length)
  else ((full.direct (p.drop room) second).1,room+(full.direct (p.drop room) second).2)

def held : List UInt8 := b.passed ++ b.buf

variable {b p} {out : Outcome}

lemma held_copyIn : (b.copyIn p).held = b.held ++ p := by simp [held,copyIn]

lemma held_direct (h : b.buf = []) :
  (b.direct p out).1.held = b.held ++ p.take (b.direct p out).2 := by
 cases out <;> simp [held,direct,h,take_eq_take_min]

lemma held_flush : (b.flush out).held = b.held := by
 unfold flush
 split_ifs
 · rfl
 · cases out <;> simp [held]

lemma buf_flush (h : (b.flush out).failed = false) : (b.flush out).buf = [] := by
 unfold flush at h ⊢
 split_ifs at h ⊢ with hb
 · exact hb.resolve_left (by simp [h])
 · cases out with
   | none => rfl
   | some n => cases h

lemma held_write (fir sec : Outcome) :
  (b.write p fir sec).1.held = b.held ++ p.take (b.write p fir sec).2 := by
 unfold write
 dsimp only
 split_ifs with _ _ hb hf
 · simp
 · simp [held_copyIn]
 · exact held_direct hb
 · rw [held_flush,held_copyIn]
 · rw [held_copyIn,held_flush,held_copyIn,append_assoc,take_append_drop,take_length]
 · rw [held_direct (buf_flush (Bool.eq_false_iff.mpr hf)),held_flush,held_copyIn,take_add,
    append_assoc]

end BufioWriter

/-- With the callback that was scheduled for the timer and has not run. -/
structure BufferedFlushWriter where
 out : BufioWriter := {}
 (timer callback closed : Bool := false)

inductive WriterOp
 | bufferedWrite (p : List UInt8) (first second : Outcome)
 | callback (outcome : Outcome)
 | close (stopped : Bool) (outcome : Outcome)

namespace BufferedFlushWriter
variable (w : BufferedFlushWriter)

def bufferedWrite (p : List UInt8) (first second : Outcome) : BufferedFlushWriter × ℕ :=
 if w.closed then (w,0)
 else
  let written := w.out.write p first second
  ({ w with out := written.1, timer := true, callback := w.callback || !w.timer },written.2)

def runCallback (outcome : Outcome) : BufferedFlushWriter :=
 if w.callback then { w with
  out := if w.closed then w.out else w.out.flush outcome, timer := false, callback := false }
 else w

/-- The timer can be stopped before its callback has fired. -/
def close (stopped : Bool) (outcome : Outcome) : BufferedFlushWriter :=
 if w.closed then w
 else { out := w.out.flush outcome, closed := true, callback := w.callback && !(w.timer && stopped) }

/-- The writer, and the bytes that its callers were told are written. -/
def after (s : BufferedFlushWriter × List UInt8) : WriterOp → BufferedFlushWriter × List UInt8
 | .bufferedWrite p first second =>
  let written := s.1.bufferedWrite p first second
  (written.1,s.2 ++ p.take written.2)
 | .callback outcome => (s.1.runCallback outcome,s.2)
 | .close stopped outcome => (s.1.close stopped outcome,s.2)

def run (ops : List WriterOp) : BufferedFlushWriter × List UInt8 := ops.foldl after ({},[])

structure Invariant (s : BufferedFlushWriter × List UInt8) : Prop where
 held : s.2 = s.1.out.held
 scheduled : s.1.closed = false → s.1.timer = s.1.callback
 timed : s.1.closed = false → s.1.out.failed = false → s.1.out.buf ≠ [] → s.1.timer = true
 flushed : s.1.closed = true → s.1.out.failed = false → s.1.out.buf = []

lemma Invariant.after {s : BufferedFlushWriter × List UInt8} (h : Invariant s) (op : WriterOp) :
  Invariant (after s op) := by
 cases op with
 | bufferedWrite p first second =>
  unfold BufferedFlushWriter.after bufferedWrite
  dsimp only
  split_ifs with hc
  · simpa using h
  · refine ⟨?_,fun _ => ?_,fun _ _ _ => rfl,fun hc' => absurd hc' hc⟩
    · rw [BufioWriter.held_write,h.held]
    · have hs := h.scheduled (Bool.eq_false_iff.mpr hc)
      cases ht : s.1.timer <;> simp [← hs,ht]
 | callback outcome =>
  unfold BufferedFlushWriter.after runCallback
  dsimp only
  split_ifs with hb hc
  · exact ⟨h.held,fun _ => rfl,fun hn => absurd (hc.symm.trans hn) nofun,h.flushed⟩
  · exact ⟨h.held.trans BufioWriter.held_flush.symm,fun _ => rfl,
     fun _ hf hn => absurd (BufioWriter.buf_flush hf) hn,fun hc' => absurd hc' hc⟩
  · exact h
 | close stopped outcome =>
  unfold BufferedFlushWriter.after close
  dsimp only
  split_ifs with hc
  · exact h
  · exact ⟨h.held.trans BufioWriter.held_flush.symm,nofun,nofun,fun _ => BufioWriter.buf_flush⟩

lemma invariant_run (ops : List WriterOp) : Invariant (run ops) := by
 refine foldlRecOn ops after ?_ fun _ h op _ => h.after op
 exact ⟨rfl,fun _ => rfl,fun _ _ hb => absurd rfl hb,nofun⟩

lemma Invariant.passed_runCallback {s : BufferedFlushWriter × List UInt8} (h : Invariant s)
  (hc : s.1.closed = false) (hb : s.1.callback = true) {outcome : Outcome}
  (hf : (s.1.runCallback outcome).out.failed = false) :
  (s.1.runCallback outcome).out.passed = s.2 := by
 have he : (s.1.runCallback outcome).out = s.1.out.flush outcome := by simp [runCallback,hb,hc]
 have hh : s.2 = (s.1.runCallback outcome).out.held := (h.after (.callback outcome)).held
 rw [hh,BufioWriter.held,he,BufioWriter.buf_flush (he ▸ hf),append_nil]

end BufferedFlushWriter
end NovaEdge.Mesh
