/-
# Flushes that have nothing to write

Before every read the send buffer is flushed. If nothing is pending then this
makes no call that writes, so buffers that were flushed more or less often differ
in nothing but the record of the flushes.
-/

import EditorClient.Proofs.SendBuffer.Stream

namespace EditorClient.SendBuffer

/-- Buffers that differ at most in how often they were flushed. -/
structure SameButFlushes (b b' : SendBuffer) : Prop where
  writer : b.writer = b'.writer
  pending : b.pending = b'.pending
  calls : b.calls.filter (· ≠ .flushed) = b'.calls.filter (· ≠ .flushed)

variable {b b' : SendBuffer}

theorem SameButFlushes.refl (b : SendBuffer) : SameButFlushes b b := ⟨rfl, rfl, rfl⟩

theorem SameButFlushes.of_common {other : SendBuffer} (first : SameButFlushes b other)
    (second : SameButFlushes b' other) : SameButFlushes b b' where
  writer := first.writer.trans second.writer.symm
  pending := first.pending.trans second.pending.symm
  calls := first.calls.trans second.calls.symm

/-- A flush takes nothing that its writes have not taken. -/
theorem taken_eq_filter (b : SendBuffer) :
    b.taken = (b.calls.filter (· ≠ .flushed)).reverse.flatMap WriteCall.bytes := by
  have dropped (calls : List WriteCall) :
      (calls.filter (· ≠ .flushed)).flatMap WriteCall.bytes = calls.flatMap WriteCall.bytes := by
    induction calls with
    | nil => rfl
    | cons call rest ih => cases call <;> simp_all [WriteCall.bytes]
  rw [← List.filter_reverse, dropped, taken]

theorem SameButFlushes.taken (same : SameButFlushes b b') : b.taken = b'.taken := by
  rw [taken_eq_filter, taken_eq_filter, same.calls]

theorem flush_lockstep : Lockstep SameButFlushes flush flush := by
  intro b b' same
  have drained : b'.drained = b.drained := by
    rw [SendBuffer.drained, SendBuffer.drained, same.writer, same.pending]
  have offered : SameButFlushes b.offered b'.offered := by
    refine ⟨?_, ?_, ?_⟩
    · simp only [SendBuffer.offered, drained, same.writer]
    · simp only [SendBuffer.offered, drained]
    · simp only [SendBuffer.offered, drained, List.filter_append, same.calls]
  cases ended : b.drained.error with
  | none =>
      rw [flush_works ended, flush_works (drained ▸ ended)]
      exact .ok { offered with calls := by simpa using offered.calls }
  | some e =>
      rw [flush_fails ended, flush_fails (drained ▸ ended)]
      exact .error offered

theorem put_lockstep (part : Bytes) : Lockstep SameButFlushes (put part) (put part) := by
  intro b b' same
  have grown : SameButFlushes { b with pending := b.pending ++ part }
      { b' with pending := b'.pending ++ part } :=
    ⟨same.writer, congrArg (· ++ part) same.pending, same.calls⟩
  rw [put_apply, put_apply, isDue, isDue, ← grown.pending]
  split
  · exact flush_lockstep grown
  · exact .ok grown

theorem send_lockstep (message : Bytes) : Lockstep SameButFlushes (send message) (send message) := by
  intro b b' same
  rw [send_apply, send_apply, parts, parts, ← same.pending]
  exact Lockstep.forM _ put_lockstep same

/-- A flush with nothing to write leaves only its record. -/
theorem flush_idle (idle : b.pending = []) :
    flush b = .ok () { b with calls := .flushed :: b.calls } := by
  have nothing : b.drained = ⟨none, [], b.writer.script, []⟩ := by
    rw [drained, idle, drain_nil]
  have same : b.offered = b := by
    simp only [offered, nothing, ← idle, List.reverse_nil, List.nil_append]
  rw [flush_works (by rw [nothing]), same]

end EditorClient.SendBuffer
