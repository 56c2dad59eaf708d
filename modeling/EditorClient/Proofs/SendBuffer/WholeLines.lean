/-
# When lines stay whole

A line that fits into the room that the buffer has is put there at once, so it is
in the stream even if writing it fails. A longer line is put in parts, and if a
write between two parts fails then the first parts stay and the others are
dropped: what is sent next follows a line without its end.

Whether a writer can bring this about depends on the room in the worst case, where
nothing of the earlier lines was taken. A line that is only a newline cannot be
divided.
-/

import EditorClient.Proofs.SendBuffer.Reliable
import EditorClient.Proofs.SendBuffer.Rounds
import EditorClient.Request

namespace EditorClient.SendBuffer

variable {b b' : SendBuffer} {message : Bytes} {e : IoError}

/-- Whether an operation leaves a buffer, be it with an error or not. -/
def Leaves (operation : Op Unit) (b b' : SendBuffer) : Prop :=
  operation b = .ok () b' ∨ ∃ e, operation b = .error e b'

theorem perform_leaves (command : Command) (b : SendBuffer) :
    Leaves command.op b (command.perform b).after := by
  simp only [Leaves, Command.perform]
  cases command.op b with
  | ok _ after => exact .inl rfl
  | error e after => exact .inr ⟨e, rfl⟩

/-! ## What is pending -/

theorem length_pending_flush (left : Leaves flush b b') :
    b'.pending.length ≤ b.pending.length := by
  rcases left with done | ⟨e, failed⟩
  · rw [(flush_ok done).2]
    exact Nat.zero_le _
  · cases ended : b.drained.error with
    | none =>
        rw [flush_works ended] at failed
        nomatch failed
    | some error =>
        rw [flush_fails ended] at failed
        cases failed
        exact length_pending_offered b

theorem length_pending_put {part : Bytes} (left : Leaves (put part) b b') :
    b'.pending.length ≤ b.pending.length + part.length := by
  rw [← List.length_append]
  simp only [Leaves, put_apply] at left
  by_cases due : ({ b with pending := b.pending ++ part } : SendBuffer).isDue
  · rw [if_pos due] at left
    exact length_pending_flush left
  · rw [if_neg due] at left
    rcases left with done | ⟨e, failed⟩
    · cases done
      exact le_refl _
    · nomatch failed

theorem stream_of_put {part : Bytes} (left : Leaves (put part) b b') :
    b'.stream = b.stream ++ part := by
  rcases left with done | ⟨e, failed⟩
  · exact (put_ok done).1
  · exact (put_error failed).1

/-- A message that fits is a single part. -/
theorem send_of_fits (nonempty : message ≠ [])
    (fits : b.pending.length + message.length ≤ capacity) :
    send message b = put message b := by
  have single : b.parts message = [message] := by
    rw [parts, if_neg nonempty]
    exact Pieces.fill_of_le _ (by omega)
  rw [send_apply, single, forM_singleton]

/-- The buffer never holds more than its capacity. -/
theorem length_pending_send (bounded : b.pending.length ≤ capacity)
    (left : Leaves (send message) b b') : b'.pending.length ≤ capacity := by
  have flushes : Preserves (fun b => b.pending.length ≤ capacity) flush := by
    intro b bounded
    cases ended : flush b with
    | ok _ b' => exact .ok ((length_pending_flush (.inl ended)).trans bounded)
    | error e b' => exact .error ((length_pending_flush (.inr ⟨e, ended⟩)).trans bounded)
  have sends := send_preserves flushes (fun _ rest holds => length_loaded holds rest)
    (fun _ => id) message bounded
  rcases left with done | ⟨e, failed⟩
  · rw [done] at sends
    exact sends.post_of_ok
  · rw [failed] at sends
    exact sends.failed_of_error

/-! ## Lines that fit -/

/-- A line that fits is kept, whatever becomes of writing it. -/
theorem kept_of_fits (nonempty : message ≠ [])
    (fits : b.pending.length + message.length ≤ capacity) :
    (Command.perform (.send message) b).kept = message ∧
      (Command.perform (.send message) b).after.pending.length ≤
        b.pending.length + message.length := by
  have left : Leaves (put message) b (Command.perform (.send message) b).after := by
    rw [Leaves, ← send_of_fits nonempty fits]
    exact perform_leaves (.send message) b
  refine ⟨Done.kept_eq ?_, length_pending_put left⟩
  rw [perform_before]
  exact stream_of_put left

/-- A newline cannot be divided, even where it does not fit. -/
theorem kept_newline (b : SendBuffer) :
    (Command.perform (.send [Bytes.newline]) b).kept = [] ∨
      (Command.perform (.send [Bytes.newline]) b).kept = [Bytes.newline] := by
  have begins := (perform_conserves (.send [Bytes.newline]) b).begins
  rw [perform_command] at begins
  rcases List.prefix_cons_iff.mp begins with none | ⟨others, shape, ends⟩
  · exact .inl none
  · rw [List.prefix_nil.mp ends] at shape
    exact .inr shape

theorem kept_of_all_fit {messages : List Bytes} (nonempty : [] ∉ messages)
    (bounded : b.pending.length ≤ capacity)
    (fit : ∀ before message after, messages = before ++ message :: after →
      message ≠ [Bytes.newline] →
        b.pending.length + before.flatten.length + message.length ≤ capacity) :
    ∀ d ∈ performAll (messages.map .send) b, d.kept = [] ∨ d.kept = d.command.message := by
  induction messages generalizing b with
  | nil =>
      intro d done
      exact absurd done List.not_mem_nil
  | cons message rest ih =>
      have some_ : message ≠ [] := fun empty => nonempty (empty ▸ List.mem_cons_self)
      have left := perform_leaves (.send message) b
      have whole : (Command.perform (.send message) b).kept = [] ∨
          (Command.perform (.send message) b).kept = message := by
        by_cases bare : message = [Bytes.newline]
        · subst bare
          exact kept_newline b
        · have fits := fit [] message rest rfl bare
          exact .inr (kept_of_fits some_ (by simpa using fits)).1
      have grown : (Command.perform (.send message) b).after.pending.length ≤
          b.pending.length + message.length := by
        by_cases fits : b.pending.length + message.length ≤ capacity
        · exact (kept_of_fits some_ fits).2
        · have := length_pending_send bounded left
          omega
      intro d done
      rcases List.mem_cons.mp done with rfl | later
      · rwa [perform_command]
      · refine ih (fun empty => nonempty (List.mem_cons_of_mem _ empty))
          (length_pending_send bounded left) ?_ d later
        intro before next after shape notBare
        have fits := fit (message :: before) next after (by rw [shape]; rfl) notBare
        rw [List.flatten_cons, List.length_append] at fits
        omega

/-! ## Lines that are cut -/

theorem take_room (bounded : b.pending.length ≤ capacity) (message : Bytes) :
    (b.pending ++ message).take capacity =
      b.pending ++ message.take (capacity - b.pending.length) := by
  rw [List.take_append, List.take_of_length_le bounded]

/-- If the first write for a line fails, the buffer has been filled with as much of
the line as there was room for. -/
theorem send_of_flush_error (bounded : b.pending.length ≤ capacity)
    (line : message.getLast? = some Bytes.newline)
    (failed : flush { b with pending := (b.pending ++ message).take capacity } = .error e b') :
    send message b = .error e b' := by
  have nonempty := ne_nil_of_line line
  have split : ∃ rest, b.parts message =
      message.take (capacity - b.pending.length) :: rest := by
    rw [parts, if_neg nonempty]
    by_cases fits : message.length ≤ capacity - b.pending.length
    · rw [Pieces.fill_of_le _ fits, List.take_of_length_le fits]
      exact ⟨[], rfl⟩
    · rw [Pieces.fill_of_lt (by decide) (by omega)]
      exact ⟨_, rfl⟩
  have due : ({ b with pending := (b.pending ++ message).take capacity } :
      SendBuffer).isDue := by
    by_cases fits : (b.pending ++ message).length ≤ capacity
    · rw [List.take_of_length_le fits]
      simp [isDue, List.getLast?_append_of_ne_nil _ nonempty, line]
    · simp only [isDue, List.length_take, Bool.or_eq_true, decide_eq_true_eq]
      omega
  obtain ⟨rest, shape⟩ := split
  rw [send_apply, shape]
  refine bind_eq_error.mpr (.inl ?_)
  rw [put_apply, ← take_room bounded, if_pos due]
  exact failed

/-- What becomes of a line whose first write fails. -/
theorem perform_of_drain {left : Bytes} {script : List WriteStep} {calls : List WriteCall}
    (bounded : b.pending.length ≤ capacity) (line : message.getLast? = some Bytes.newline)
    (drained : drain b.writer.brokenBy b.writer.script ((b.pending ++ message).take capacity) =
      ⟨some e, left, script, calls⟩) :
    let after := (Command.perform (.send message) b).after
    after.pending = left ∧ after.writer = { b.writer with script } ∧
      after.stream = b.stream ++ message.take (capacity - b.pending.length) := by
  let filled : SendBuffer := { b with pending := (b.pending ++ message).take capacity }
  have shape : filled.drained = ⟨some e, left, script, calls⟩ := drained
  have flushed : flush filled = .error e filled.offered := flush_fails (by rw [shape])
  have failed := send_of_flush_error bounded line flushed
  rw [Command.perform, Command.op, failed]
  refine ⟨?_, ?_, (stream_offered filled).trans ?_⟩
  · show filled.drained.left = left
    rw [shape]
  · show ({ b.writer with script := filled.drained.script } : Writer) = _
    rw [shape]
  · simp only [filled, take_room bounded]
    exact stream_append b _

theorem take_take_append {α : Type} (size : Nat) (first later : List α) :
    (first.take size ++ later).take size = (first ++ later).take size := by
  rw [List.take_append, List.take_append, List.take_take, Nat.min_self, List.length_take]
  congr 2
  omega

theorem filled_ne_nil (line : message.getLast? = some Bytes.newline) (pending : Bytes) :
    (pending ++ message).take capacity ≠ [] := by
  intro empty
  rcases List.take_eq_nil_iff.mp empty with never | none
  · nomatch never
  · rw [(List.append_eq_nil_iff.mp none).2] at line
    nomatch line

/-- The first calls of the writer fail, one for each line. Then nothing is taken, and
the buffer holds as much of the lines as it can. -/
theorem afterAll_of_fails {lines : List Bytes} {script : List WriteStep}
    (ended : ∀ line ∈ lines, line.getLast? = some Bytes.newline)
    (bounded : b.pending.length ≤ capacity)
    (fails : b.writer.script = List.replicate lines.length (.fails e) ++ script) :
    (afterAll (lines.map .send) b).pending = (b.pending ++ lines.flatten).take capacity ∧
      (afterAll (lines.map .send) b).writer = { b.writer with script } := by
  induction lines generalizing b with
  | nil =>
      have same : b.writer.script = script := fails
      rw [← same, List.flatten_nil, List.append_nil, List.take_of_length_le bounded]
      exact ⟨rfl, rfl⟩
  | cons line rest ih =>
      have last := ended line List.mem_cons_self
      obtain ⟨pending, writer, -⟩ := perform_of_drain bounded last
        (by rw [fails]; exact drain_fails (filled_ne_nil last b.pending) e)
      have limited : (Command.perform (.send line) b).after.pending.length ≤ capacity := by
        rw [pending]
        exact List.length_take_le _ _
      obtain ⟨held, left⟩ := ih (fun other there => ended other (List.mem_cons_of_mem _ there))
        limited (by rw [writer]; rfl)
      rw [List.map_cons, afterAll, List.foldl_cons]
      refine ⟨held.trans ?_, left.trans (by rw [writer])⟩
      rw [pending, take_take_append, List.flatten_cons, List.append_assoc]

theorem performAll_append (first later : List Command) (b : SendBuffer) :
    performAll (first ++ later) b = performAll first b ++ performAll later (afterAll first b) := by
  induction first generalizing b with
  | nil => rfl
  | cons command rest ih =>
      rw [List.cons_append, performAll, ih, performAll]
      rfl

/-- There is some room for a message in the buffer, but not enough, and the writer
fails from now on. -/
structure Tight (b : SendBuffer) (message : Bytes) : Prop where
  broken : b.writer = { brokenBy := some .brokenPipe }
  room : b.pending.length < capacity
  long : capacity < b.pending.length + message.length

/-- Lines that leave room for a part of a message: the writer takes nothing. -/
theorem exists_tight_of_lt {lines : List Bytes}
    (ended : ∀ line ∈ lines, line.getLast? = some Bytes.newline)
    (room : lines.flatten.length < capacity)
    (long : capacity < lines.flatten.length + message.length) :
    ∃ w : Writer, Tight (afterAll (lines.map .send) { writer := w }) message := by
  let start : SendBuffer :=
    { writer := ⟨List.replicate lines.length (.fails .brokenPipe), some .brokenPipe⟩ }
  obtain ⟨pending, writer⟩ := afterAll_of_fails (b := start) ended (Nat.zero_le _)
    (List.append_nil _).symm
  rw [List.nil_append, List.take_of_length_le room.le] at pending
  refine ⟨start.writer, writer, ?_, ?_⟩
  · show (afterAll (lines.map .send) start).pending.length < capacity
    rw [pending]
    exact room
  · show capacity < (afterAll (lines.map .send) start).pending.length + message.length
    rw [pending]
    exact long

/-- Lines that fill the buffer: the writer takes a single byte, with the last of them. -/
theorem exists_tight_of_le {lines : List Bytes}
    (ended : ∀ line ∈ lines, line.getLast? = some Bytes.newline)
    (filled : capacity ≤ lines.flatten.length) (divisible : 2 ≤ message.length) :
    ∃ w : Writer, Tight (afterAll (lines.map .send) { writer := w }) message := by
  rcases List.eq_nil_or_concat' lines with rfl | ⟨init, last, rfl⟩
  · exact absurd filled (by decide)
  · let start : SendBuffer :=
      { writer := ⟨List.replicate init.length (.fails .brokenPipe) ++ [.accepts 1],
          some .brokenPipe⟩ }
    obtain ⟨pending, writer⟩ := afterAll_of_fails (b := start)
      (fun line there => ended line (List.mem_append_left _ there)) (Nat.zero_le _) rfl
    have final := ended last (by simp)
    have step : afterAll ((init ++ [last]).map .send) start =
        (Command.perform (.send last) (afterAll (init.map .send) start)).after := by
      rw [List.map_append, afterAll_append]
      rfl
    generalize afterAll (init.map .send) start = b at pending writer step
    have limited : b.pending.length ≤ capacity := by
      rw [pending]
      exact List.length_take_le _ _
    have full : ((b.pending ++ last).take capacity).length = capacity := by
      rw [pending, List.nil_append, take_take_append, List.length_take]
      exact Nat.min_eq_left (by simpa using filled)
    -- the byte that is taken is followed by the failure that stops the flush
    have some_ : ((b.pending ++ last).take capacity).drop 1 ≠ [] := by
      rw [← List.length_pos_iff, List.length_drop, full]
      decide
    obtain ⟨calls, drained⟩ : ∃ calls,
        drain b.writer.brokenBy b.writer.script ((b.pending ++ last).take capacity) =
          ⟨some .brokenPipe, ((b.pending ++ last).take capacity).drop 1, [], calls⟩ := by
      rw [writer, drain_accepts (filled_ne_nil final b.pending) (by decide),
        drain_broken some_]
      exact ⟨_, rfl⟩
    obtain ⟨held, left, -⟩ := perform_of_drain limited final drained
    have length : (afterAll ((init ++ [last]).map .send) start).pending.length = capacity - 1 := by
      rw [step, held, List.length_drop, full]
    refine ⟨start.writer, ?_, ?_, ?_⟩
    · show (afterAll ((init ++ [last]).map .send) start).writer = _
      rw [step, left, writer]
    · show (afterAll ((init ++ [last]).map .send) start).pending.length < capacity
      rw [length]
      decide
    · show capacity < (afterAll ((init ++ [last]).map .send) start).pending.length + message.length
      rw [length]
      omega

/-- A line for which there is some room, but not enough, is cut if the writer fails. -/
theorem kept_of_tight (line : message.getLast? = some Bytes.newline) (tight : Tight b message) :
    (Command.perform (.send message) b).kept ≠ [] ∧
      (Command.perform (.send message) b).kept ≠ message := by
  have drained := drain_broken (filled_ne_nil line b.pending) .brokenPipe
  obtain ⟨-, -, grown⟩ :=
    perform_of_drain tight.room.le line (by rw [tight.broken]; exact drained)
  have kept := Done.kept_eq (d := Command.perform (.send message) b)
    (by rw [perform_before]; exact grown)
  have length := congrArg List.length kept
  have room := tight.room
  have long := tight.long
  rw [List.length_take] at length
  constructor
  · intro same
    rw [same, List.length_nil] at length
    omega
  · intro same
    rw [same] at length
    omega

/-- What is kept of whole lines is a selection of them. -/
theorem exists_sublist_of_whole (messages : List Bytes) (b : SendBuffer)
    (whole : ∀ d ∈ performAll (messages.map .send) b, d.kept = [] ∨ d.kept = d.command.message) :
    ∃ chosen : List Bytes, chosen.Sublist messages ∧
      ((performAll (messages.map .send) b).map Done.kept).flatten = chosen.flatten := by
  induction messages generalizing b with
  | nil => exact ⟨[], .slnil, rfl⟩
  | cons message rest ih =>
      obtain ⟨chosen, sub, same⟩ := ih (Command.perform (.send message) b).after
        fun d later => whole d (List.mem_cons_of_mem _ later)
      rw [List.map_cons, performAll, List.map_cons, List.flatten_cons, same]
      rcases whole _ List.mem_cons_self with dropped | kept
      · rw [dropped]
        exact ⟨chosen, sub.cons message, rfl⟩
      · rw [kept, perform_command]
        exact ⟨message :: chosen, sub.cons_cons message, rfl⟩

/-- Whatever the writer does, each message is in the stream entirely or not at all. -/
def NeverCut (messages : List Bytes) : Prop :=
  ∀ w : Writer, ∀ d ∈ performAll (messages.map .send) { writer := w },
    d.kept = [] ∨ d.kept = d.command.message

/-- Each line that can be divided fits into the buffer with all lines before it. -/
def AllFit (messages : List Bytes) : Prop :=
  ∀ before message after, messages = before ++ message :: after →
    message ≠ [Bytes.newline] → before.flatten.length + message.length ≤ capacity

/-- No writer, however it fails, can cut a line exactly if every line that can be
divided fits into the buffer with all lines before it. Then what the writer has taken
and what is pending are together a selection of the lines, in their order. -/
theorem neverCut_iff_allFit {messages : List Bytes}
    (ended : ∀ message ∈ messages, message.getLast? = some Bytes.newline) :
    (NeverCut messages ↔ AllFit messages) ∧
      (AllFit messages → ∀ w : Writer, ∃ chosen : List Bytes, chosen.Sublist messages ∧
        (afterAll (messages.map .send) { writer := w }).taken ++
          (afterAll (messages.map .send) { writer := w }).pending = chosen.flatten) := by
  have nonempty : [] ∉ messages := by
    intro empty
    nomatch ended [] empty
  have whole (fit : AllFit messages) : NeverCut messages := by
    intro w
    apply kept_of_all_fit nonempty (Nat.zero_le _)
    intro before message after shape divisible
    simpa using fit before message after shape divisible
  refine ⟨⟨?_, whole⟩, ?_⟩
  · intro never before message after shape divisible
    by_contra long
    have line := ended message (by simp [shape])
    have two : 2 ≤ message.length := by
      match message, line, divisible with
      | [last], line, divisible => exact absurd (by simpa using line) divisible
      | _ :: _ :: _, _, _ => simp
    have earlier : ∀ line ∈ before, line.getLast? = some Bytes.newline :=
      fun line there => ended line (by simp [shape, there])
    -- either the lines before leave room of their own, or the writer makes some
    obtain ⟨w, tight⟩ : ∃ w : Writer,
        Tight (afterAll (before.map .send) { writer := w }) message := by
      by_cases room : before.flatten.length < capacity
      · exact exists_tight_of_lt earlier room (by omega)
      · exact exists_tight_of_le earlier (by omega) two
    obtain ⟨some_, cut⟩ := kept_of_tight line tight
    have done := never w (Command.perform (.send message)
      (afterAll (before.map .send) { writer := w }))
    rw [shape, List.map_append, performAll_append, perform_command] at done
    rcases done (List.mem_append_right _ List.mem_cons_self) with none | all
    · exact some_ none
    · exact cut all
  · intro fit w
    obtain ⟨chosen, sub, same⟩ := exists_sublist_of_whole messages _ (whole fit w)
    exact ⟨chosen, sub, (stream_afterAll _ _).trans same⟩

theorem allFit_of_length {messages : List Bytes} (short : messages.flatten.length ≤ capacity) :
    AllFit messages := by
  intro before message after shape _
  rw [shape, List.flatten_append, List.flatten_cons, List.length_append,
    List.length_append] at short
  omega

theorem neverCut_short_lines :
    NeverCut [Bytes.ofText "-dir /w/ -file f\n", suspendLine, resumeLine] :=
  (neverCut_iff_allFit (by decide)).1.mpr (allFit_of_length (by decide))

/-- In front of a writer that fails once, a line that is a newline too long for the
buffer loses that newline, and the next line follows what is left of it. -/
theorem stream_of_line_too_long (e : IoError) {text : Bytes} (full : text.length = capacity)
    (line : Bytes) :
    (afterAll [.send (text ++ [Bytes.newline]), .send line]
      { writer := { script := [.fails e] } }).stream = text ++ line := by
  let start : SendBuffer := { writer := { script := [.fails e] } }
  have last : (text ++ [Bytes.newline]).getLast? = some Bytes.newline := List.getLast?_concat
  obtain ⟨-, writer, cut⟩ := perform_of_drain (b := start) (Nat.zero_le _) last
    (drain_fails (filled_ne_nil last start.pending) e)
  have reliable :
      (Command.perform (.send (text ++ [Bytes.newline])) start).after.writer.Reliable := by
    rw [writer]
    exact ⟨rfl, List.not_mem_nil, fun _ => List.not_mem_nil⟩
  obtain ⟨b', sent, -⟩ := send_reliable line reliable
  have second : afterAll [.send (text ++ [Bytes.newline]), .send line] start = b' := by
    change (Command.perform (.send line) _).after = b'
    rw [Command.perform, Command.op, sent]
  have none : start.stream = [] ∧ start.pending.length = 0 := ⟨rfl, rfl⟩
  rw [second, (send_ok sent).1, cut, none.1, none.2, Nat.sub_zero, ← full, List.take_left,
    List.nil_append]

/-- The lengths of the lines tell that their streams do not agree with one that has a
line without its newline. -/
theorem not_selection_of_cut {text line : Bytes} (long : line.length < text.length)
    (divisible : 1 < line.length) :
    ¬ ∃ chosen : List Bytes, chosen.Sublist [text ++ [Bytes.newline], line] ∧
      text ++ line = chosen.flatten := by
  rintro ⟨chosen, sub, same⟩
  have total := congrArg List.length same
  rw [List.length_append] at total
  rcases List.sublist_cons_iff.mp sub with without | ⟨rest, rfl, others⟩
  · rcases List.sublist_singleton.mp without with rfl | rfl
    · rw [List.flatten_nil, List.length_nil] at total
      omega
    · rw [List.flatten_singleton] at total
      omega
  · rw [List.flatten_cons, List.length_append, List.length_append, List.length_singleton] at total
    rcases List.sublist_singleton.mp others with rfl | rfl
    · rw [List.flatten_nil, List.length_nil] at total
      omega
    · rw [List.flatten_singleton] at total
      omega

/-- A request of 4097 bytes and the line of a suspension after it. -/
theorem suspendLine_follows_cut_line :
    let start : SendBuffer := { writer := { script := [.fails .brokenPipe] } }
    let request : Bytes := List.replicate capacity 97 ++ [Bytes.newline]
    let final := afterAll [.send request, .send suspendLine] start
    request.getLast? = some Bytes.newline ∧ suspendLine.getLast? = some Bytes.newline ∧
      final.taken ++ final.pending = List.replicate capacity 97 ++ suspendLine ∧
      ¬ ∃ chosen : List Bytes, chosen.Sublist [request, suspendLine] ∧
        final.taken ++ final.pending = chosen.flatten := by
  have full : (List.replicate capacity (97 : UInt8)).length = capacity := List.length_replicate
  have stream := stream_of_line_too_long .brokenPipe full suspendLine
  have long : suspendLine.length < (List.replicate capacity (97 : UInt8)).length := by
    rw [full]
    decide
  refine ⟨List.getLast?_concat, by decide, stream, ?_⟩
  rintro ⟨chosen, sub, same⟩
  exact not_selection_of_cut long (by decide) ⟨chosen, sub, stream.symm.trans same⟩

end EditorClient.SendBuffer
