/-
# Signals in front of a send buffer

The bridge between signals and server uses the send buffer only to send its two
lines. So it does not see how often the buffer was flushed, and with a writer that
can be relied on it leaves nothing pending.
-/

import EditorClient.JobControl
import EditorClient.Proofs.SendBuffer.Flushes
import EditorClient.Proofs.SendBuffer.Reliable

namespace EditorClient.Bridge

/-- The same came of a signal, apart from how often the buffer was flushed. -/
structure Handled.Same (d d' : Handled) : Prop where
  result : d.result = d'.result
  buffer : d.buffer.SameButFlushes d'.buffer
  calls : d.calls = d'.calls

variable {b : Bridge} {buffer buffer' : SendBuffer}

/-- A call of the operating system does not touch the buffer. -/
theorem callOnly_eq (b : Bridge) (meaning : Intent) (buffer : SendBuffer) (call : JobCall) :
    b.callOnly meaning buffer call =
      ⟨(b.callOnly meaning {} call).result, buffer, (b.callOnly meaning {} call).tried⟩ := by
  simp only [callOnly]
  cases b.fails call <;> rfl

theorem callOnly_same (meaning : Intent) (call : JobCall)
    (same : buffer.SameButFlushes buffer') :
    (b.callOnly meaning buffer call).Same (b.callOnly meaning buffer' call) := by
  rw [callOnly_eq b meaning buffer, callOnly_eq b meaning buffer']
  exact ⟨rfl, same, rfl⟩

/-- The bridge acts on a signal in the same way in front of both buffers. -/
theorem handle_same (b : Bridge) (number : Signal) (same : buffer.SameButFlushes buffer') :
    (b.handle number buffer).Same (b.handle number buffer') := by
  rw [handle, handle]
  cases intent number b.foreground b.onTerminal with
  | ignore => exact ⟨rfl, same, rfl⟩
  | stopGroup => exact callOnly_same _ _ same
  | forward number =>
      dsimp only
      cases knownPid b.pid with
      | none => exact ⟨rfl, same, rfl⟩
      | some pid => exact callOnly_same _ _ same
  | resume =>
      have sent := SendBuffer.send_lockstep resumeLine same
      generalize SendBuffer.send resumeLine buffer = result at sent ⊢
      generalize SendBuffer.send resumeLine buffer' = result' at sent ⊢
      cases sent with
      | ok same => exact ⟨rfl, same, rfl⟩
      | error same => exact ⟨rfl, same, rfl⟩
  | suspend number =>
      have sent := SendBuffer.send_lockstep suspendLine same
      generalize SendBuffer.send suspendLine buffer = result at sent ⊢
      generalize SendBuffer.send suspendLine buffer' = result' at sent ⊢
      cases sent with
      | ok same =>
          have stopped := callOnly_same (b := b) (.suspend number) (.stopSelf number) same
          exact ⟨stopped.result, stopped.buffer, stopped.calls⟩
      | error same => exact ⟨rfl, same, rfl⟩

/-- Acting on a signal leaves nothing pending if the writer can be relied on. -/
theorem handle_reliable (b : Bridge) (number : Signal) (idle : buffer.pending = [])
    (reliable : buffer.writer.Reliable) :
    (b.handle number buffer).buffer.pending = [] ∧
      (b.handle number buffer).buffer.writer.Reliable := by
  rw [handle]
  cases intent number b.foreground b.onTerminal with
  | ignore => exact ⟨idle, reliable⟩
  | stopGroup =>
      dsimp only
      rw [callOnly_eq]
      exact ⟨idle, reliable⟩
  | forward number =>
      dsimp only
      split
      · exact ⟨idle, reliable⟩
      · rw [callOnly_eq]
        exact ⟨idle, reliable⟩
  | resume =>
      obtain ⟨final, sent, still⟩ := SendBuffer.send_reliable resumeLine reliable
      simp only [sent]
      exact ⟨(SendBuffer.send_ok sent).2 (by decide), still⟩
  | suspend number =>
      obtain ⟨final, sent, still⟩ := SendBuffer.send_reliable suspendLine reliable
      simp only [sent]
      rw [callOnly_eq]
      exact ⟨(SendBuffer.send_ok sent).2 (by decide), still⟩

end EditorClient.Bridge
