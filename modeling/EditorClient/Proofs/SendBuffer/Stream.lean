/-
# Nothing is lost on the way to the server

The stream of a send buffer is what its writer has taken, followed by what is
pending. Operations only add to the end of the stream: a flush adds nothing, and
a message adds a beginning of itself, which is the whole message if sending it
succeeded. This holds whatever the writer does, and however often it has failed
before.

An error comes from the latest call of the writer, which failed or took nothing
of what it was offered. An interrupted call is neither.
-/

import EditorClient.Proofs.Lines
import EditorClient.Proofs.Lockstep
import EditorClient.SendBuffer

namespace EditorClient

/-- Whether a call of the writer is the cause of an error: it failed with it, or it
took nothing though it was offered something. -/
def WriteCall.Causes : WriteCall → IoError → Prop
  | .failed _ error, e => e = error
  | .took offered bytes, e => 0 < offered ∧ bytes = [] ∧ e = .wroteNothing
  | _, _ => False

namespace SendBuffer

/-- All bytes that have come into the buffer and were not dropped: first those that
the writer has taken, then those that are pending. -/
def stream (b : SendBuffer) : Bytes := b.taken ++ b.pending

/-- The latest call of the writer is the cause of an error. -/
def Blames (b : SendBuffer) (error : IoError) : Prop :=
  ∃ call, b.calls.head? = some call ∧ call.Causes error

/-! ## Offering bytes to a writer -/

section

variable {brokenBy : Option IoError} {script : List WriteStep} {bytes : Bytes}

@[simp]
theorem drain_nil (brokenBy : Option IoError) (script : List WriteStep) :
    drain brokenBy script [] = ⟨none, [], script, []⟩ := by
  cases script <;> rfl

theorem drain_none (nonempty : bytes ≠ []) :
    drain none [] bytes = ⟨none, [], [], [.took bytes.length bytes]⟩ := by
  obtain ⟨b, rest, rfl⟩ := List.exists_cons_of_ne_nil nonempty
  rfl

theorem drain_broken (nonempty : bytes ≠ []) (error : IoError) :
    drain (some error) [] bytes = ⟨some error, bytes, [], [.failed bytes.length error]⟩ := by
  obtain ⟨b, rest, rfl⟩ := List.exists_cons_of_ne_nil nonempty
  rfl

theorem drain_accepts_zero (nonempty : bytes ≠ []) :
    drain brokenBy (.accepts 0 :: script) bytes =
      ⟨some .wroteNothing, bytes, script, [.took bytes.length []]⟩ := by
  obtain ⟨b, rest, rfl⟩ := List.exists_cons_of_ne_nil nonempty
  rfl

theorem drain_accepts (nonempty : bytes ≠ []) {limit : Nat} (some_ : limit ≠ 0) :
    drain brokenBy (.accepts limit :: script) bytes =
      (drain brokenBy script (bytes.drop limit)).afterCall
        (.took bytes.length (bytes.take limit)) := by
  obtain ⟨b, rest, rfl⟩ := List.exists_cons_of_ne_nil nonempty
  rw [drain, if_neg some_]
  exact List.cons_ne_nil b rest

theorem drain_interrupted (nonempty : bytes ≠ []) :
    drain brokenBy (.interrupted :: script) bytes =
      (drain brokenBy script bytes).afterCall (.interrupted bytes.length) := by
  obtain ⟨b, rest, rfl⟩ := List.exists_cons_of_ne_nil nonempty
  rw [drain]
  exact List.cons_ne_nil b rest

theorem drain_fails (nonempty : bytes ≠ []) (error : IoError) :
    drain brokenBy (.fails error :: script) bytes =
      ⟨some error, bytes, script, [.failed bytes.length error]⟩ := by
  obtain ⟨b, rest, rfl⟩ := List.exists_cons_of_ne_nil nonempty
  rfl

end

/-- What is known of a drain: what the calls took and what they left is what was
offered, without an error nothing is left, and an error was caused by the last
call. -/
structure Drained.Accounts (d : Drained) (offered : Bytes) : Prop where
  conserved : d.calls.flatMap WriteCall.bytes ++ d.left = offered
  emptied : d.error = none → d.left = []
  caused : ∀ e, d.error = some e → ∃ call, d.calls.getLast? = some call ∧ call.Causes e

/-- A call that took a first part, before a drain of the other part. -/
theorem Drained.Accounts.afterCall {d : Drained} {rest : Bytes} (accounts : d.Accounts rest)
    (call : WriteCall) : (d.afterCall call).Accounts (call.bytes ++ rest) where
  conserved := by
    rw [← accounts.conserved, ← List.append_assoc]
    rfl
  emptied := accounts.emptied
  caused e failed := by
    obtain ⟨last, found, causes⟩ := accounts.caused e failed
    refine ⟨last, ?_, causes⟩
    rw [Drained.afterCall, List.getLast?_cons, found]
    rfl

/-- The induction is on the calls that the script allows. -/
theorem drain_accounts (brokenBy : Option IoError) (script : List WriteStep) (bytes : Bytes) :
    (drain brokenBy script bytes).Accounts bytes := by
  induction script, bytes using drain.induct brokenBy with
  | case1 script =>
      rw [drain_nil]
      exact ⟨rfl, fun _ => rfl, nofun⟩
  | case2 bytes nonempty works =>
      rw [works, drain_none nonempty]
      exact ⟨by simp [WriteCall.bytes], fun _ => rfl, nofun⟩
  | case3 bytes nonempty error broken =>
      rw [broken, drain_broken nonempty]
      refine ⟨rfl, nofun, ?_⟩
      rintro _ ⟨⟩
      exact ⟨_, rfl, rfl⟩
  | case4 script bytes nonempty =>
      rw [drain_accepts_zero nonempty]
      refine ⟨rfl, nofun, ?_⟩
      rintro _ ⟨⟩
      exact ⟨_, rfl, List.length_pos_iff.mpr nonempty, rfl, rfl⟩
  | case5 limit script bytes nonempty some_ ih =>
      rw [drain_accepts nonempty some_]
      have whole := ih.afterCall (.took bytes.length (bytes.take limit))
      rwa [WriteCall.bytes, List.take_append_drop] at whole
  | case6 script bytes nonempty ih =>
      rw [drain_interrupted nonempty]
      exact ih.afterCall (.interrupted bytes.length)
  | case7 error script bytes nonempty =>
      rw [drain_fails nonempty]
      refine ⟨rfl, nofun, ?_⟩
      rintro _ ⟨⟩
      exact ⟨_, rfl, rfl⟩

/-! ## Single operations -/

section

variable {b b' : SendBuffer} {e : IoError} {message : Bytes}

/-- What comes of offering all that is pending to the writer. -/
def drained (b : SendBuffer) : Drained := drain b.writer.brokenBy b.writer.script b.pending

/-- The buffer after all that is pending was offered to the writer. -/
def offered (b : SendBuffer) : SendBuffer where
  writer := { b.writer with script := b.drained.script }
  pending := b.drained.left
  calls := b.drained.calls.reverse ++ b.calls

theorem flush_works (works : b.drained.error = none) :
    flush b = .ok () { b.offered with calls := .flushed :: b.offered.calls } := by
  rw [drained] at works
  simp only [flush, works]
  rfl

theorem flush_fails (fails : b.drained.error = some e) : flush b = .error e b.offered := by
  rw [drained] at fails
  simp only [flush, fails]
  rfl

/-- What was taken of an offer and what is left of it are what was offered. -/
theorem stream_offered (b : SendBuffer) : b.offered.stream = b.stream := by
  have conserved := (drain_accounts b.writer.brokenBy b.writer.script b.pending).conserved
  simp only [stream, taken, offered, drained, List.reverse_append, List.reverse_reverse,
    List.flatMap_append, List.append_assoc, conserved]

/-- A flush that succeeds leaves nothing pending. -/
theorem flush_ok (done : flush b = .ok () b') : b'.stream = b.stream ∧ b'.pending = [] := by
  cases ended : b.drained.error with
  | none =>
      rw [flush_works ended] at done
      cases done
      have accounts := drain_accounts b.writer.brokenBy b.writer.script b.pending
      refine ⟨?_, accounts.emptied ended⟩
      rw [← stream_offered b]
      simp only [stream, taken, List.reverse_cons, List.flatMap_append, List.flatMap_cons,
        List.flatMap_nil, WriteCall.bytes, List.append_nil]
  | some error =>
      rw [flush_fails ended] at done
      nomatch done

/-- A flush that fails loses nothing. -/
theorem flush_error (failed : flush b = .error e b') :
    b'.stream = b.stream ∧ b'.Blames e := by
  cases ended : b.drained.error with
  | none =>
      rw [flush_works ended] at failed
      nomatch failed
  | some error =>
      rw [flush_fails ended] at failed
      cases failed
      have accounts := drain_accounts b.writer.brokenBy b.writer.script b.pending
      obtain ⟨call, last, causes⟩ := accounts.caused e ended
      refine ⟨stream_offered b, call, ?_, causes⟩
      rw [offered, List.head?_append, List.head?_reverse, drained, last]
      rfl

theorem not_isDue_of_empty (empty : b.pending = []) : b.isDue = false := by
  rw [isDue, empty]
  rfl

/-- More bytes come into the buffer. -/
theorem stream_append (b : SendBuffer) (part : Bytes) :
    stream { b with pending := b.pending ++ part } = b.stream ++ part := by
  simp only [stream, taken, List.append_assoc]

/-- What `put` does where nothing is due, and where something is. -/
theorem put_apply (part : Bytes) (b : SendBuffer) :
    put part b =
      if ({ b with pending := b.pending ++ part } : SendBuffer).isDue then
        flush { b with pending := b.pending ++ part }
      else .ok () { b with pending := b.pending ++ part } := by
  show (if _ then flush else pure ()) _ = _
  split <;> rfl

/-- A part that was put is in the stream, and nothing is due any more. -/
theorem put_ok {part : Bytes} (done : put part b = .ok () b') :
    b'.stream = b.stream ++ part ∧ b'.isDue = false := by
  rw [put_apply] at done
  split at done
  case isTrue =>
      obtain ⟨same, empty⟩ := flush_ok done
      exact ⟨same.trans (stream_append b part), not_isDue_of_empty empty⟩
  case isFalse later =>
      cases done
      exact ⟨stream_append b part, by simpa using later⟩

/-- A part is in the stream also if writing it failed. -/
theorem put_error {part : Bytes} (failed : put part b = .error e b') :
    b'.stream = b.stream ++ part ∧ b'.Blames e := by
  rw [put_apply] at failed
  split at failed
  case isTrue =>
      obtain ⟨same, blames⟩ := flush_error failed
      exact ⟨same.trans (stream_append b part), blames⟩
  case isFalse => nomatch failed

theorem putAll_ok {parts : List Bytes} (done : parts.forM put b = .ok () b') :
    b'.stream = b.stream ++ parts.flatten ∧ (parts ≠ [] → b'.isDue = false) := by
  induction parts generalizing b with
  | nil =>
      cases done
      simp
  | cons part rest ih =>
      obtain ⟨_, middle, first, others⟩ := bind_eq_ok.mp done
      obtain ⟨grown, settled⟩ := put_ok first
      obtain ⟨whole, later⟩ := ih others
      rw [whole, grown, List.flatten_cons, List.append_assoc]
      refine ⟨rfl, ?_⟩
      intro _
      by_cases last : rest = []
      · subst last
        cases others
        exact settled
      · exact later last

/-- Where putting parts fails, the stream has grown by some of the first parts. -/
theorem putAll_error {parts : List Bytes} (failed : parts.forM put b = .error e b') :
    (∃ first, first <+: parts ∧ b'.stream = b.stream ++ first.flatten) ∧ b'.Blames e := by
  induction parts generalizing b with
  | nil => nomatch failed
  | cons part rest ih =>
      rcases bind_eq_error.mp failed with here | ⟨_, middle, first, later⟩
      · obtain ⟨grown, blames⟩ := put_error here
        exact ⟨⟨[part], by simp, by simpa using grown⟩, blames⟩
      · obtain ⟨⟨some_, begins, grown⟩, blames⟩ := ih later
        refine ⟨⟨part :: some_, by simpa using begins, ?_⟩, blames⟩
        rw [grown, (put_ok first).1, List.flatten_cons, List.append_assoc]

/-- The parts of a message are the message. -/
theorem parts_flatten (b : SendBuffer) (message : Bytes) :
    (b.parts message).flatten = message := by
  rw [parts]
  split
  case isTrue empty => exact empty.symm
  case isFalse => exact Pieces.flatten_fill _ _ _

theorem parts_ne_nil (b : SendBuffer) (nonempty : message ≠ []) : b.parts message ≠ [] := by
  intro none
  have whole := parts_flatten b message
  rw [none] at whole
  exact nonempty whole.symm

theorem send_apply (message : Bytes) (b : SendBuffer) :
    send message b = (b.parts message).forM put b := rfl

/-- What is pending is the end of the stream, so it ends as the stream does. -/
theorem getLast_pending (waiting : b.pending ≠ []) :
    b.pending.getLast? = b.stream.getLast? := by
  rw [stream, List.getLast?_append_of_ne_nil _ waiting]

theorem ne_nil_of_line (line : message.getLast? = some Bytes.newline) : message ≠ [] := by
  rintro rfl
  nomatch line

/-- A message that was sent is in the stream. If it ends in a newline then nothing
is pending: otherwise what is pending would end in that newline, and be due. -/
theorem send_ok (done : send message b = .ok () b') :
    b'.stream = b.stream ++ message ∧
      (message.getLast? = some Bytes.newline → b'.pending = []) := by
  obtain ⟨grown, settled⟩ := putAll_ok done
  rw [parts_flatten] at grown
  refine ⟨grown, ?_⟩
  intro line
  have nonempty := ne_nil_of_line line
  by_contra waiting
  have due : b'.isDue = true := by
    have last := getLast_pending waiting
    rw [grown, List.getLast?_append_of_ne_nil _ nonempty, line] at last
    simp [isDue, last]
  rw [settled (parts_ne_nil b nonempty)] at due
  nomatch due

/-- Where sending fails, a beginning of the message is in the stream. -/
theorem send_error (failed : send message b = .error e b') :
    (∃ kept, kept <+: message ∧ b'.stream = b.stream ++ kept) ∧ b'.Blames e := by
  obtain ⟨⟨first, begins, grown⟩, blames⟩ := putAll_error failed
  refine ⟨⟨first.flatten, ?_, grown⟩, blames⟩
  obtain ⟨others, all⟩ := begins
  refine ⟨others.flatten, ?_⟩
  rw [← List.flatten_append, all, parts_flatten]

end

/-! ## Many operations -/

/-- What is asked of a buffer. All handles of a buffer act on the same state, so
the commands of all of them are one list, in the order in which they are made. -/
inductive Command
  | send (message : Bytes)
  | flush
  deriving DecidableEq, Repr

namespace Command

/-- What a command adds to the stream if it succeeds. -/
def message : Command → Bytes
  | .send message => message
  | .flush => []

/-- Whether a command leaves nothing pending if it succeeds. -/
def Empties : Command → Prop
  | .send message => message.getLast? = some Bytes.newline
  | .flush => True

/-- The operation that carries a command out. -/
def op : Command → Op Unit
  | .send message => SendBuffer.send message
  | .flush => SendBuffer.flush

end Command

/-- What came of a command: its result, and the buffer before and after it. -/
structure Done where
  command : Command
  result : Except IoError Unit
  before : SendBuffer
  after : SendBuffer

/-- Carry a command out. -/
def Command.perform (command : Command) (b : SendBuffer) : Done :=
  match command.op b with
  | .ok _ after => ⟨command, .ok (), b, after⟩
  | .error error after => ⟨command, .error error, b, after⟩

/-- Carry commands out one after the other. A command that fails does not stop
those that follow. -/
def performAll : List Command → SendBuffer → List Done
  | [], _ => []
  | command :: rest, b =>
    let done := command.perform b
    done :: performAll rest done.after

/-- The buffer after commands. -/
def afterAll (commands : List Command) (b : SendBuffer) : SendBuffer :=
  commands.foldl (fun b command => (command.perform b).after) b

theorem afterAll_append (first later : List Command) (b : SendBuffer) :
    afterAll (first ++ later) b = afterAll later (afterAll first b) :=
  List.foldl_append

/-- What a command has added to the stream. -/
def Done.kept (d : Done) : Bytes := d.after.stream.drop d.before.stream.length

/-- What holds of every command, whether it succeeds or fails. -/
structure Done.Conserves (d : Done) : Prop where
  /-- Nothing that was in the stream is lost, doubled or moved. -/
  grows : d.after.stream = d.before.stream ++ d.kept
  begins : d.kept <+: d.command.message
  whole : d.result = .ok () → d.kept = d.command.message
  empties : d.result = .ok () → d.command.Empties → d.after.pending = []
  /-- An error is that of the latest call, which was not interrupted. -/
  blames : ∀ e, d.result = .error e → d.after.Blames e

/-- A command that adds this to the stream keeps this. -/
theorem Done.kept_eq {d : Done} {kept : Bytes}
    (grown : d.after.stream = d.before.stream ++ kept) : d.kept = kept := by
  rw [Done.kept, grown, List.drop_left]

@[simp]
theorem perform_command (command : Command) (b : SendBuffer) :
    (command.perform b).command = command := by
  unfold Command.perform
  split <;> rfl

@[simp]
theorem perform_before (command : Command) (b : SendBuffer) :
    (command.perform b).before = b := by
  unfold Command.perform
  split <;> rfl

/-- One step of a run: a command conserves the stream from any state. -/
theorem perform_conserves (command : Command) (b : SendBuffer) :
    (command.perform b).Conserves := by
  unfold Command.perform
  generalize ended : command.op b = result
  cases result with
  | ok _ after =>
      have spec : after.stream = b.stream ++ command.message ∧
          (command.Empties → after.pending = []) := by
        cases command with
        | send message => exact send_ok ended
        | flush =>
            obtain ⟨same, empty⟩ := flush_ok ended
            exact ⟨same.trans (List.append_nil _).symm, fun _ => empty⟩
      have kept := Done.kept_eq (d := ⟨command, .ok (), b, after⟩) spec.1
      exact ⟨kept ▸ spec.1, kept ▸ List.prefix_rfl, fun _ => kept, fun _ => spec.2, nofun⟩
  | error e after =>
      have spec : (∃ kept, kept <+: command.message ∧ after.stream = b.stream ++ kept) ∧
          after.Blames e := by
        cases command with
        | send message => exact send_error ended
        | flush =>
            obtain ⟨same, blames⟩ := flush_error ended
            exact ⟨⟨[], List.prefix_rfl, same.trans (List.append_nil _).symm⟩, blames⟩
      obtain ⟨⟨kept, begins, grown⟩, blames⟩ := spec
      have eq := Done.kept_eq (d := ⟨command, .error e, b, after⟩) grown
      refine ⟨eq ▸ grown, eq ▸ begins, nofun, nofun, ?_⟩
      rintro _ ⟨⟩
      exact blames

theorem performAll_conserves (commands : List Command) (b : SendBuffer) :
    ∀ d ∈ performAll commands b, d.Conserves := by
  induction commands generalizing b with
  | nil =>
      intro d done
      exact absurd done List.not_mem_nil
  | cons command rest ih =>
      intro d done
      rcases List.mem_cons.mp done with rfl | later
      · exact perform_conserves command b
      · exact ih _ d later

theorem map_command_performAll (commands : List Command) (b : SendBuffer) :
    (performAll commands b).map Done.command = commands := by
  induction commands generalizing b with
  | nil => rfl
  | cons command rest ih =>
      rw [performAll, List.map_cons, ih, perform_command]

/-- A run adds to the stream what its commands add, in their order. -/
theorem stream_afterAll (commands : List Command) (b : SendBuffer) :
    (afterAll commands b).stream =
      b.stream ++ ((performAll commands b).map Done.kept).flatten := by
  induction commands generalizing b with
  | nil => exact (List.append_nil _).symm
  | cons command rest ih =>
      have grows := (perform_conserves command b).grows
      rw [perform_before] at grows
      rw [performAll, List.map_cons, List.flatten_cons, ← List.append_assoc, ← grows]
      exact ih _

/-- Whatever the writer does, and whichever commands fail on the way: what the
writer has taken and what is pending are together one beginning of each message,
in the order of the commands. The beginning is the whole message where sending it
succeeded. A flush that succeeds, and a line that was sent, leave nothing pending,
and no error is due to an interrupted call. -/
theorem commands_conserve_stream (w : Writer) (commands : List Command) :
    let start : SendBuffer := { writer := w }
    let dones := performAll commands start
    let final := afterAll commands start
    dones.map Done.command = commands ∧
      final.taken ++ final.pending = (dones.map Done.kept).flatten ∧
      ∀ d ∈ dones,
        d.kept <+: d.command.message ∧
          (d.result = .ok () → d.kept = d.command.message) ∧
          (d.result = .ok () → d.command.Empties → d.after.pending = []) ∧
          ∀ e, d.result = .error e → d.after.Blames e := by
  refine ⟨map_command_performAll commands _, stream_afterAll commands _, ?_⟩
  intro d done
  have conserves := performAll_conserves commands _ d done
  exact ⟨conserves.begins, conserves.whole, conserves.empties, conserves.blames⟩

/-- A writer that takes two bytes, is interrupted, takes nothing and then fails. The
first message is kept by the buffer, the error of the second send is that of the
failed call, and the flush leaves nothing pending. -/
theorem stream_through_failures :
    let start : SendBuffer :=
      { writer := { script := [.accepts 2, .interrupted, .accepts 0, .fails .brokenPipe] } }
    let commands := [.send (Bytes.ofText "ab\n"), .send (Bytes.ofText "c\n"), .flush]
    let dones := performAll commands start
    (afterAll commands start).stream = Bytes.ofText "ab\nc\n" ∧
      (∃ d ∈ dones, d.result = .error .wroteNothing ∧ d.after.Blames .wroteNothing) ∧
      (∃ d ∈ dones, d.result = .error .brokenPipe ∧ d.after.Blames .brokenPipe) ∧
      ∃ d ∈ dones, d.result = .ok () ∧ d.after.pending = [] := by
  intro start commands dones
  obtain ⟨-, whole, each⟩ := commands_conserve_stream start.writer commands
  have first : dones.get ⟨0, by decide⟩ ∈ dones := List.get_mem _ _
  have second : dones.get ⟨1, by decide⟩ ∈ dones := List.get_mem _ _
  have third : dones.get ⟨2, by decide⟩ ∈ dones := List.get_mem _ _
  have stopped : (dones.get ⟨0, by decide⟩).result = .error .wroteNothing := by decide
  have broke : (dones.get ⟨1, by decide⟩).result = .error .brokenPipe := by decide
  have flushed : (dones.get ⟨2, by decide⟩).result = .ok () := by decide
  refine ⟨whole.trans (by decide), ⟨_, first, stopped, ?_⟩, ⟨_, second, broke, ?_⟩,
    ⟨_, third, flushed, ?_⟩⟩
  · exact (each _ first).2.2.2 _ stopped
  · exact (each _ second).2.2.2 _ broke
  · exact (each _ third).2.2.1 flushed trivial

end SendBuffer

end EditorClient
