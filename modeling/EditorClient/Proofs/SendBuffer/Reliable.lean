/-
# Writers that can be relied on

A reliable writer takes whatever it is offered in the end, though perhaps a few
bytes at a time and with interruptions. In front of it every operation succeeds.
-/

import EditorClient.Proofs.SendBuffer.Stream

namespace EditorClient

/-- No call of the writer fails, and none takes nothing unless it is interrupted. -/
structure Writer.Reliable (w : Writer) : Prop where
  lasting : w.brokenBy = none
  takes : .accepts 0 ∉ w.script
  works : ∀ e, .fails e ∉ w.script

namespace SendBuffer

variable {b : SendBuffer}

/-- The induction is on the calls: each uses up one step of the script, and none of
the steps that are left is one that stops a drain. -/
theorem drain_reliable {script : List WriteStep} (bytes : Bytes) (takes : .accepts 0 ∉ script)
    (works : ∀ e, .fails e ∉ script) :
    (drain none script bytes).error = none ∧ (drain none script bytes).script <:+ script := by
  induction script, bytes using drain.induct none with
  | case1 script =>
      rw [drain_nil]
      exact ⟨rfl, List.suffix_refl script⟩
  | case2 bytes nonempty =>
      rw [drain_none nonempty]
      exact ⟨rfl, List.suffix_refl []⟩
  | case3 bytes nonempty error broken => exact absurd broken.symm (Option.some_ne_none error)
  | case4 script bytes nonempty => exact absurd List.mem_cons_self takes
  | case5 limit script bytes nonempty some_ ih =>
      rw [drain_accepts nonempty some_]
      obtain ⟨none, rest⟩ := ih (fun later => takes (List.mem_cons_of_mem _ later))
        fun e later => works e (List.mem_cons_of_mem _ later)
      exact ⟨none, rest.trans (List.suffix_cons _ _)⟩
  | case6 script bytes nonempty ih =>
      rw [drain_interrupted nonempty]
      obtain ⟨none, rest⟩ := ih (fun later => takes (List.mem_cons_of_mem _ later))
        fun e later => works e (List.mem_cons_of_mem _ later)
      exact ⟨none, rest.trans (List.suffix_cons _ _)⟩
  | case7 error script bytes nonempty => exact absurd List.mem_cons_self (works error)

theorem flush_reliable (reliable : b.writer.Reliable) :
    ∃ b', flush b = .ok () b' ∧ b'.writer.Reliable := by
  obtain ⟨works, rest⟩ := drain_reliable b.pending reliable.takes reliable.works
  have lasting : b.drained = drain none b.writer.script b.pending := by
    rw [drained, reliable.lasting]
  rw [← lasting] at works rest
  refine ⟨_, flush_works works, reliable.lasting, ?_, ?_⟩
  · intro later
    exact reliable.takes (rest.mem later)
  · intro e later
    exact reliable.works e (rest.mem later)

theorem put_reliable (part : Bytes) (reliable : b.writer.Reliable) :
    ∃ b', put part b = .ok () b' ∧ b'.writer.Reliable := by
  rw [put_apply]
  split
  case isTrue => exact flush_reliable reliable
  case isFalse => exact ⟨_, rfl, reliable⟩

theorem putAll_reliable (parts : List Bytes) (reliable : b.writer.Reliable) :
    ∃ b', parts.forM put b = .ok () b' ∧ b'.writer.Reliable := by
  induction parts generalizing b with
  | nil => exact ⟨b, rfl, reliable⟩
  | cons part rest ih =>
      obtain ⟨middle, here, still⟩ := put_reliable part reliable
      obtain ⟨last, later, final⟩ := ih still
      exact ⟨last, bind_eq_ok.mpr ⟨(), middle, here, later⟩, final⟩

/-- A message that is sent to a reliable writer is sent. -/
theorem send_reliable (message : Bytes) (reliable : b.writer.Reliable) :
    ∃ b', send message b = .ok () b' ∧ b'.writer.Reliable :=
  putAll_reliable (b.parts message) reliable

end SendBuffer

end EditorClient
