/-
# Sending in rounds

A message comes into the buffer in rounds. In each of them the room that is left takes in
as much as it can, and then the buffer is written if it is full or ends in a newline. The
buffer may be full before a round begins, after a flush that failed, and then nothing of
the message comes in; but such a round ends with an empty buffer or with an error, and so
the next one finds room. `rounds_eq_send` says that sending is this loop, and how many
rounds there can be, whatever the writer does.

Between two rounds, and after any command, nothing more is known of the buffer than
`Fine`. That is enough: a buffer that is fine has the room that the next round counts on,
and every call of the writer offered it something, and no more than the buffer can hold.
-/

import EditorClient.Proofs.SendBuffer.Stream

namespace EditorClient

/-- How many bytes a call offered to the writer. -/
def WriteCall.offered? : WriteCall → Option Nat
  | .took offered _ | .interrupted offered | .failed offered _ => some offered
  | .flushed => none

/-- A call offered something, and at most so many bytes. -/
def WriteCall.OffersUpTo (most : Nat) (call : WriteCall) : Prop :=
  ∀ offered, call.offered? = some offered → 1 ≤ offered ∧ offered ≤ most

theorem WriteCall.OffersUpTo.mono {call : WriteCall} {most more : Nat}
    (offers : call.OffersUpTo most) (weaker : most ≤ more) : call.OffersUpTo more :=
  fun offered same => ⟨(offers offered same).1, (offers offered same).2.trans weaker⟩

namespace Pieces

variable {α : Type}

/-- Filling an empty buffer of this size again and again. -/
theorem length_fill_self {size : Nat} (positive : 0 < size) (whole : List α) :
    (fill size size whole).length ≤ whole.length / size + 1 := by
  induction shorter : whole.length using Nat.strong_induction_on generalizing whole with
  | _ length ih =>
  by_cases fits : whole.length ≤ size
  · rw [fill_of_le size fits, List.length_singleton]
    exact Nat.le_add_left _ _
  · have less : (whole.drop size).length < length := by
      rw [List.length_drop]
      omega
    have later := ih _ less (whole.drop size) rfl
    have once : length / size = (length - size) / size + 1 :=
      Nat.div_eq_sub_div positive (by omega)
    rw [fill_of_lt positive (by omega), List.length_cons, once]
    rw [List.length_drop, shorter] at later
    exact Nat.add_le_add_right later 1

/-- With one more for what was in the buffer at the beginning. -/
theorem length_fill {size : Nat} (positive : 0 < size) (room : Nat) (whole : List α) :
    (fill size room whole).length ≤ whole.length / size + 2 := by
  by_cases fits : whole.length ≤ room
  · rw [fill_of_le size fits, List.length_singleton]
    exact Nat.le_add_left _ _
  · have later := length_fill_self positive (whole.drop room)
    have fewer : (whole.drop room).length / size ≤ whole.length / size := by
      apply Nat.div_le_div_right
      rw [List.length_drop]
      exact Nat.sub_le _ _
    rw [fill_of_lt positive (by omega), List.length_cons]
    omega

end Pieces

namespace SendBuffer

/-- How many bytes can still come into the buffer. -/
def room (b : SendBuffer) : Nat := capacity - b.pending.length

/-- What the buffer holds when as much of the rest of a message has come in as can. -/
def loaded (b : SendBuffer) (rest : Bytes) : Bytes := b.pending ++ rest.take b.room

/-- One round with the rest of a message: what there is room for comes into the buffer,
which is written if that is due. The result is what remains for the next round. -/
def round (rest : Bytes) : Op Bytes := do
  let room := (← get).room
  put (rest.take room)
  return rest.drop room

/-- Rounds as long as something remains, but no more than so many. -/
def rounds : Nat → Bytes → Op Bytes
  | 0, rest => pure rest
  | number + 1, rest => if rest = [] then pure [] else do rounds number (← round rest)

variable {b b' c : SendBuffer} {rest message : Bytes} {e : IoError}

/-! ## Sending is a loop of rounds -/

theorem rounds_nil (number : Nat) : rounds number [] = pure [] := by
  cases number <;> rfl

theorem rounds_succ (number : Nat) (some_ : rest ≠ []) :
    rounds (number + 1) rest = round rest >>= rounds number := by
  rw [rounds, if_neg some_]

/-- Where the round works, its part has been put. -/
theorem round_of_ok (done : put (rest.take b.room) b = .ok () b') :
    round rest b = .ok (rest.drop b.room) b' := by
  change (put (rest.take b.room) >>= fun _ => pure (rest.drop b.room)) b = _
  rw [bind_of_ok done]
  rfl

theorem round_of_error (failed : put (rest.take b.room) b = .error e b') :
    round rest b = .error e b' := by
  change (put (rest.take b.room) >>= fun _ => pure (rest.drop b.room)) b = _
  rw [bind_of_error failed]

/-- A part that fills the buffer is followed by an empty buffer. -/
theorem pending_of_full {part : Bytes} (full : b.pending.length + part.length = capacity)
    (done : put part b = .ok () b') : b'.pending = [] := by
  have due : ({ b with pending := b.pending ++ part } : SendBuffer).isDue := by
    simp [isDue, full]
  rw [put_apply, if_pos due] at done
  exact (flush_ok done).2

theorem length_parts (b : SendBuffer) (message : Bytes) :
    (b.parts message).length ≤ message.length / capacity + 2 := by
  rw [parts]
  split
  · exact Nat.zero_le _
  · exact Pieces.length_fill (by decide) _ message

/-- What does not fit comes in part by part, and the buffer is empty after each part but the
last. The induction is on the number of rounds: each of them puts one part. -/
theorem rounds_eq_putAll {number : Nat} (bounded : b.pending.length ≤ capacity)
    (enough : (b.parts message).length ≤ number) :
    rounds number message b = ((b.parts message).forM put >>= fun _ => pure []) b := by
  induction number generalizing b message with
  | zero =>
      have none : message = [] := by
        by_contra some_
        exact parts_ne_nil b some_ (List.length_eq_zero_iff.mp (Nat.le_zero.mp enough))
      rw [none, rounds_nil, parts, if_pos rfl]
      rfl
  | succ number ih =>
      by_cases none : message = []
      · rw [none, rounds_nil, parts, if_pos rfl]
        rfl
      · rw [rounds_succ number none]
        by_cases fits : message.length ≤ b.room
        · have single : b.parts message = [message] := by
            rw [parts, if_neg none]
            exact Pieces.fill_of_le _ fits
          have whole : message.take b.room = message := List.take_of_length_le fits
          rw [single, forM_singleton]
          cases done : put message b with
          | ok _ b' =>
              rw [bind_of_ok (round_of_ok (whole.symm ▸ done)), bind_of_ok done,
                List.drop_of_length_le fits, rounds_nil]
          | error e b' =>
              rw [bind_of_error (round_of_error (whole.symm ▸ done)), bind_of_error done]
        · have long : b.room < message.length := Nat.lt_of_not_le fits
          have parts_eq : b.parts message =
              message.take b.room :: Pieces.fill capacity capacity (message.drop b.room) := by
            rw [parts, if_neg none]
            exact Pieces.fill_of_lt (by decide) long
          rw [parts_eq] at enough ⊢
          change _ = ((put (message.take b.room) >>= fun _ =>
            (Pieces.fill capacity capacity (message.drop b.room)).forM put) >>= fun _ =>
              pure []) b
          rw [bind_assoc]
          cases done : put (message.take b.room) b with
          | error e b' => rw [bind_of_error (round_of_error done), bind_of_error done]
          | ok _ b' =>
              have empty : b'.pending = [] := by
                apply pending_of_full _ done
                rw [List.length_take, Nat.min_eq_left long.le, room]
                omega
              have remains : message.drop b.room ≠ [] := by
                rw [← List.length_pos_iff, List.length_drop]
                omega
              have others : b'.parts (message.drop b.room) =
                  Pieces.fill capacity capacity (message.drop b.room) := by
                rw [parts, if_neg remains, empty]
                rfl
              rw [bind_of_ok (round_of_ok done), bind_of_ok done, ← others]
              apply ih
              · rw [empty]
                exact Nat.zero_le _
              · rw [others]
                simpa using enough

/-- Sending is a loop of rounds, and it comes to an end after so many of them. -/
theorem rounds_eq_send (bounded : b.pending.length ≤ capacity) {number : Nat}
    (enough : message.length / capacity + 2 ≤ number) :
    rounds number message b = (send message >>= fun _ => pure []) b := by
  rw [rounds_eq_putAll bounded ((length_parts b message).trans enough)]
  exact bind_congr_left (send_apply message b).symm _

/-! ## What every round keeps -/

/-- What there is room for does not make the buffer too full. -/
theorem length_loaded (bounded : b.pending.length ≤ capacity) (rest : Bytes) :
    (b.loaded rest).length ≤ capacity := by
  rw [loaded, List.length_append, List.length_take, room]
  omega

section

variable {I : SendBuffer → Prop} (flushes : Preserves I flush)
  (loads : ∀ b rest, I b → I { b with pending := b.loaded rest })

include flushes loads

theorem round_preserves (rest : Bytes) : Preserves I (round rest) := by
  intro b holds
  have put : Ends (fun _ => I) (fun _ => I) (put (rest.take b.room) b) := by
    rw [put_apply]
    split
    · exact flushes (loads b rest holds)
    · exact .ok (loads b rest holds)
  exact put.bind fun _ _ holds => .ok holds

theorem rounds_preserve (number : Nat) (rest : Bytes) : Preserves I (rounds number rest) := by
  induction number generalizing rest with
  | zero => exact fun _ holds => .ok holds
  | succ number ih =>
      intro b holds
      by_cases none : rest = []
      · rw [none, rounds_nil]
        exact .ok holds
      · rw [rounds_succ number none]
        exact (round_preserves flushes loads rest holds).bind fun rest _ holds => ih rest holds

/-- What flushes keep and what more bytes do not change is kept by sending, if it bounds the
buffer. -/
theorem send_preserves (bounds : ∀ b, I b → b.pending.length ≤ capacity) (message : Bytes) :
    Preserves I (send message) := by
  intro b holds
  have loop := rounds_preserve flushes loads (message.length / capacity + 2) message holds
  rw [rounds_eq_send (bounds b holds) le_rfl] at loop
  cases sent : send message b with
  | ok _ b' =>
      rw [bind_of_ok sent] at loop
      exact .ok loop.post_of_ok
  | error e b' =>
      rw [bind_of_error sent] at loop
      cases loop with
      | error holds => exact .error holds

end

/-- What is left of an offer is no more than was pending. -/
theorem length_pending_offered (b : SendBuffer) :
    b.offered.pending.length ≤ b.pending.length := by
  have accounts := drain_accounts b.writer.brokenBy b.writer.script b.pending
  rw [← accounts.conserved, List.length_append]
  exact Nat.le_add_left _ _

/-! ## What holds between the rounds -/

/-- The buffer holds no more than it can, and every call so far offered something to the
writer, and no more than the buffer can hold. -/
structure Fine (b : SendBuffer) : Prop where
  bounded : b.pending.length ≤ capacity
  offers : ∀ call ∈ b.calls, call.OffersUpTo capacity

/-- Every call of a drain offers something, and no more than there is. -/
theorem drain_offers (brokenBy : Option IoError) (script : List WriteStep) (bytes : Bytes) :
    ∀ call ∈ (drain brokenBy script bytes).calls, call.OffersUpTo bytes.length := by
  have all {bytes : Bytes} (nonempty : bytes ≠ []) {call : WriteCall}
      (offers : call.offered? = some bytes.length) : call.OffersUpTo bytes.length := by
    intro offered same
    obtain rfl := Option.some.inj (offers.symm.trans same)
    exact ⟨List.length_pos_iff.mpr nonempty, le_refl _⟩
  induction script, bytes using drain.induct brokenBy with
  | case1 script =>
      rw [drain_nil]
      exact fun _ there => absurd there List.not_mem_nil
  | case2 bytes nonempty works =>
      rw [works, drain_none nonempty]
      exact List.forall_mem_singleton.mpr (all nonempty rfl)
  | case3 bytes nonempty error broken =>
      rw [broken, drain_broken nonempty]
      exact List.forall_mem_singleton.mpr (all nonempty rfl)
  | case4 script bytes nonempty =>
      rw [drain_accepts_zero nonempty]
      exact List.forall_mem_singleton.mpr (all nonempty rfl)
  | case5 limit script bytes nonempty some_ ih =>
      rw [drain_accepts nonempty some_]
      refine List.forall_mem_cons.mpr ⟨all nonempty rfl, fun call later => ?_⟩
      refine (ih call later).mono ?_
      rw [List.length_drop]
      exact Nat.sub_le _ _
  | case6 script bytes nonempty ih =>
      rw [drain_interrupted nonempty]
      exact List.forall_mem_cons.mpr ⟨all nonempty rfl, ih⟩
  | case7 error script bytes nonempty =>
      rw [drain_fails nonempty]
      exact List.forall_mem_singleton.mpr (all nonempty rfl)

theorem Fine.offered (fine : b.Fine) : b.offered.Fine where
  bounded := (length_pending_offered b).trans fine.bounded
  offers call there := by
    rcases List.mem_append.mp there with new | old
    · exact (drain_offers _ _ _ call (List.mem_reverse.mp new)).mono fine.bounded
    · exact fine.offers call old

theorem flush_fine : Preserves Fine flush := by
  intro b fine
  cases ended : b.drained.error with
  | none =>
      rw [flush_works ended]
      have flushed : WriteCall.flushed.OffersUpTo capacity := nofun
      exact .ok ⟨fine.offered.bounded, List.forall_mem_cons.mpr ⟨flushed, fine.offered.offers⟩⟩
  | some e =>
      rw [flush_fails ended]
      exact .error fine.offered

theorem Fine.loaded (rest : Bytes) (fine : b.Fine) :
    ({ b with pending := b.loaded rest } : SendBuffer).Fine :=
  ⟨length_loaded fine.bounded rest, fine.offers⟩

theorem rounds_fine (number : Nat) (rest : Bytes) : Preserves Fine (rounds number rest) :=
  rounds_preserve flush_fine (fun _ rest => Fine.loaded rest) number rest

theorem send_fine (message : Bytes) : Preserves Fine (send message) :=
  send_preserves flush_fine (fun _ rest => Fine.loaded rest) (fun _ => Fine.bounded) message

/-- A command leaves a buffer that is fine, also where it fails. -/
theorem perform_fine (command : Command) (fine : b.Fine) : (command.perform b).after.Fine := by
  have ends : Ends (fun _ => Fine) (fun _ => Fine) (command.op b) := by
    cases command with
    | send message => exact send_fine message fine
    | flush => exact flush_fine fine
  rw [Command.perform]
  cases ended : command.op b with
  | ok _ after =>
      rw [ended] at ends
      exact ends.post_of_ok
  | error e after =>
      rw [ended] at ends
      exact ends.failed_of_error

theorem afterAll_fine (commands : List Command) (fine : b.Fine) :
    (afterAll commands b).Fine := by
  induction commands generalizing b with
  | nil => exact fine
  | cons command rest ih => exact ih (perform_fine command fine)

/-! ## What happens in a round -/

/-- What a round does with the rest of a message, from one state of the buffer to the next
and also where it fails. -/
structure RoundDone (rest : Bytes) (b b' : SendBuffer) : Prop where
  /-- The room that is left is counted down from the capacity, and not below nothing. -/
  counted : b.pending.length + b.room = capacity
  /-- The buffer is never fuller than it is when it has been loaded. -/
  bounded : (b.loaded rest).length ≤ capacity
  /-- The writer is called exactly if the loaded buffer is full or ends in a newline. -/
  writes : b'.calls ≠ b.calls ↔
    (b.loaded rest).length = capacity ∨ (b.loaded rest).getLast? = some Bytes.newline
  /-- Otherwise the bytes wait for more. -/
  waits : b'.calls = b.calls → b'.pending = b.loaded rest

/-- A flush calls the writer, if only to flush it. -/
theorem flush_calls (b : SendBuffer) :
    Ends (fun _ b' => b'.calls ≠ b.calls) (fun _ b' => b'.calls ≠ b.calls) (flush b) := by
  have longer (new : List WriteCall) (some_ : new ≠ []) : new ++ b.calls ≠ b.calls :=
    fun same => some_ (List.self_eq_append_left.mp same.symm)
  cases ended : b.drained.error with
  | none =>
      rw [flush_works ended]
      exact .ok (longer (.flushed :: b.drained.calls.reverse) (List.cons_ne_nil _ _))
  | some e =>
      rw [flush_fails ended]
      refine .error (longer _ ?_)
      obtain ⟨call, last, -⟩ :=
        (drain_accounts b.writer.brokenBy b.writer.script b.pending).caused e ended
      have there : call ∈ b.drained.calls := List.mem_of_getLast? last
      exact List.reverse_eq_nil_iff.not.mpr (List.ne_nil_of_mem there)

theorem round_done (fine : b.Fine) (rest : Bytes) :
    Ends (fun _ => RoundDone rest b) (fun _ => RoundDone rest b) (round rest b) := by
  have counted : b.pending.length + b.room = capacity := Nat.add_sub_of_le fine.bounded
  have bounded := length_loaded fine.bounded rest
  have due_iff : ({ b with pending := b.loaded rest } : SendBuffer).isDue = true ↔
      (b.loaded rest).length = capacity ∨ (b.loaded rest).getLast? = some Bytes.newline := by
    rw [isDue, Bool.or_eq_true, decide_eq_true_eq, decide_eq_true_eq]
  have put : Ends (fun _ => RoundDone rest b) (fun _ => RoundDone rest b)
      (put (rest.take b.room) b) := by
    rw [put_apply]
    split
    case isTrue due =>
        have wrote (b' : SendBuffer) (called : b'.calls ≠ b.calls) : RoundDone rest b b' :=
          ⟨counted, bounded, iff_of_true called (due_iff.mp due), fun none => absurd none called⟩
        exact (flush_calls _).mono (fun _ => wrote) fun _ => wrote
    case isFalse early =>
        refine .ok ⟨counted, bounded, ?_, fun _ => rfl⟩
        exact iff_of_false (fun called => called rfl) (mt due_iff.mpr early)
  exact put.bind fun _ _ done => .ok done

/-! ## All sends -/

/-- What holds of sending a message in this state of the buffer. -/
structure Paced (b : SendBuffer) (message : Bytes) : Prop where
  /-- Sending is a loop of rounds that ends, with success or an error, after so many of them
  at the latest. -/
  ends : ∀ number, message.length / capacity + 2 ≤ number →
    rounds number message b = (send message >>= fun _ => pure []) b
  /-- Every round on the way. -/
  each : ∀ number rest c, rounds number message b = .ok rest c → rest ≠ [] →
    Ends (fun _ => RoundDone rest c) (fun _ => RoundDone rest c) (round rest c)
  /-- What is pending after a message was sent was too little to be written, and no line. -/
  settled : ∀ b', send message b = .ok () b' → message ≠ [] →
    b'.pending.length < capacity ∧ b'.pending.getLast? ≠ some Bytes.newline

theorem Fine.paced (fine : b.Fine) (message : Bytes) : Paced b message where
  ends _ := rounds_eq_send fine.bounded
  each number rest c reached _ := by
    have between := rounds_fine number message fine
    rw [reached] at between
    exact round_done between.post_of_ok rest
  settled b' sent nonempty := by
    have left := send_fine message fine
    rw [sent] at left
    have early := (putAll_ok sent).2 (parts_ne_nil b nonempty)
    rw [isDue, Bool.or_eq_false_iff, decide_eq_false_iff_not, decide_eq_false_iff_not] at early
    exact ⟨Nat.lt_of_le_of_ne left.post_of_ok.bounded early.1, early.2⟩

/-- Whatever the writer does and whichever commands have failed: the buffer holds no more
than its capacity, and each call offered the writer between one byte and as many. From every
state that can be reached in this way a message is sent in rounds that count on the room that
there is, that call the writer exactly when the buffer is full or ends in a newline, and that
come to an end. After it was sent, less than the capacity is pending, and no line. -/
theorem sends_paced (w : Writer) (commands : List Command) :
    let b := afterAll commands { writer := w }
    b.pending.length ≤ capacity ∧
      (∀ call ∈ b.calls, ∀ offered, call.offered? = some offered →
        1 ≤ offered ∧ offered ≤ capacity) ∧
      ∀ message, Paced b message := by
  intro b
  have new : ({ writer := w } : SendBuffer).Fine :=
    ⟨Nat.zero_le _, fun _ there => absurd there List.not_mem_nil⟩
  have fine : b.Fine := afterAll_fine commands new
  exact ⟨fine.bounded, fine.offers, fine.paced⟩

end SendBuffer

end EditorClient
