/-
# What has been shown

The log of a reader says what reached the two outputs, among all else that happened. The
text of a log is what reached standard output, or what reached both outputs, in the order
in which it was written: on a terminal the two are one text.

The reader keeps a flag for whether the output is at the start of a line, and never looks
at what it wrote. So the flag is right only as far as it follows the text. What an action
adds to the text and does to the flag depends on nothing but the action, and `dispatch_text`
reads off the actions of each reply that a set flag still means a closed line afterwards.
It has one exception, and it is an exception on both outputs alone: an error without a text
is reported on the other output, and the flag is left as it was.
-/

import EditorClient.Proofs.Reply.Invariants

namespace EditorClient

variable {σ ε : Type}

namespace Lines

/-- No line of a text is left open. -/
def Closed (text : Bytes) : Prop := text = [] ∨ text.getLast? = some Bytes.newline

instance : DecidablePred Closed := fun text =>
  inferInstanceAs (Decidable (text = [] ∨ text.getLast? = some Bytes.newline))

theorem closed_nil : Closed [] := .inl rfl

theorem closed_concat_newline (text : Bytes) : Closed (text ++ [Bytes.newline]) :=
  .inr List.getLast?_concat

/-- Only what was added last matters. -/
theorem Closed.append {more : Bytes} (ended : more.getLast? = some Bytes.newline)
    (text : Bytes) : Closed (text ++ more) := by
  right
  rw [List.getLast?_append, ended]
  rfl

end Lines

/-- What an event adds to the text on standard output, or on both outputs. -/
def Event.text (both : Bool) : Event ε → Bytes
  | .out bytes => bytes
  | .err bytes => if both then bytes else []
  | _ => []

/-- What an action that succeeds adds to the text on standard output, or on both outputs. -/
def Action.text (both : Bool) : Action → Bytes
  | .out bytes => bytes
  | .err bytes => if both then bytes else []
  | _ => []

/-- Where an action that succeeds leaves the flag. -/
def Action.flag (now : Bool) : Action → Bool
  | .atLineStart next => next
  | _ => now

namespace ReplyReader

/-- What has been written to standard output, or to both outputs, in order. -/
def text (both : Bool) (r : ReplyReader σ ε) : Bytes := r.events.flatMap (Event.text both)

theorem text_record (both : Bool) (events : List (Event ε)) (r : ReplyReader σ ε) :
    (record events r).text both = r.text both ++ events.flatMap (Event.text both) := by
  rw [text, events_record, List.flatMap_append]
  rfl

/-! ## Actions -/

/-- What is written is part of the text, where the sink takes all of it. -/
theorem text_written (both : Bool) {sink : Sink} {bytes : Bytes}
    (works : sink.failure bytes = none) (event : Bytes → Event ε)
    (nothing : (event []).text both = []) :
    (if sink.taken bytes = [] then [] else [event (sink.taken bytes)]).flatMap
      (Event.text both) = (event bytes).text both := by
  rw [Sink.taken_of_works works]
  split
  case isTrue empty =>
    rw [empty, nothing]
    rfl
  case isFalse => exact List.flatMap_singleton _ _

/-- The reports of a handler are not shown. -/
theorem text_handler (both : Bool) (reports : List ε) :
    (reports.map Event.handler).flatMap (Event.text both) = [] := by
  rw [List.flatMap_map]
  exact List.flatMap_eq_nil_iff.mpr fun _ _ => rfl

variable {h : ReplyHandler σ ε} {both : Bool} {r q : ReplyReader σ ε}

theorem text_acted (both : Bool) (f : σ → Except ClientError Unit × σ × List ε)
    (r : ReplyReader σ ε) : (acted f r).text both = r.text both := by
  rw [acted, text_record, text_handler, List.append_nil]
  rfl

theorem text_wroteOut {bytes : Bytes} (works : r.out.failure bytes = none) :
    (wroteOut bytes r).text both = r.text both ++ bytes := by
  rw [wroteOut, text_record, text_written both works .out rfl]
  rfl

theorem text_reported {bytes : Bytes} (works : r.err.failure bytes = none) :
    (reported bytes r).text both = r.text both ++ if both then bytes else [] := by
  change (wroteErr bytes r).text both = _
  rw [wroteErr, text_record, text_written both works .err (ite_self [])]
  rfl

/-- An action that succeeds adds its text, and leaves the flag as it says. -/
theorem perform_text (both : Bool) {action : Action} (done : perform h action r = .ok () q) :
    q.text both = r.text both ++ action.text both ∧
      q.atLineStart = action.flag r.atLineStart := by
  cases action with
  | out bytes =>
      obtain ⟨works, rfl⟩ := writeOut_ok done
      exact ⟨text_wroteOut works, rfl⟩
  | err bytes =>
      obtain ⟨works, -, rfl⟩ := perform_err_ok done
      exact ⟨text_reported works, rfl⟩
  | flush =>
      obtain ⟨-, rfl⟩ := flushOut_ok done
      exact ⟨text_record both [.flushed] _, rfl⟩
  | serverPid pid =>
      cases done
      exact ⟨text_record both [.serverPid pid] _, rfl⟩
  | atLineStart | serverError =>
      cases done
      exact ⟨(List.append_nil _).symm, rfl⟩
  | unsupported =>
      rw [perform_unsupported] at done
      obtain ⟨-, rfl⟩ := act_ok done
      exact ⟨(text_acted both _ _).trans (text_record both [.unsupported] r), rfl⟩
  | suspend =>
      rw [perform_suspend] at done
      obtain ⟨-, rfl⟩ := act_ok done
      exact ⟨(text_acted both _ _).trans (text_record both [.suspend] r), rfl⟩

/-- Actions that succeed add their texts in order, and move the flag one after the other. -/
theorem performAll_text (both : Bool) {actions : List Action}
    (done : performAll h actions r = .ok () q) :
    q.text both = r.text both ++ actions.flatMap (Action.text both) ∧
      q.atLineStart = actions.foldl Action.flag r.atLineStart := by
  induction actions generalizing r with
  | nil =>
      cases done
      exact ⟨(List.append_nil _).symm, rfl⟩
  | cons action rest ih =>
      obtain ⟨_, middle, first, later⟩ := bind_eq_ok.mp done
      obtain ⟨text, flag⟩ := perform_text both first
      obtain ⟨text', flag'⟩ := ih later
      rw [text'.trans (congrArg (· ++ _) text), List.append_assoc, flag', flag]
      exact ⟨rfl, rfl⟩

theorem performAll_append (h : ReplyHandler σ ε) (first later : List Action) :
    performAll h (first ++ later) = performAll h first >>= fun _ => performAll h later :=
  List.forM_append

/-- A set flag means that no line is open. -/
def FlagHolds (both : Bool) (r : ReplyReader σ ε) : Prop :=
  r.atLineStart = true → Lines.Closed (r.text both)

/-- A flush shows nothing. -/
theorem FlagHolds.flushed (holds : FlagHolds both r) : FlagHolds both (flushedOut r) := by
  intro set
  rw [flushedOut, text_record]
  change Lines.Closed (r.text both ++ [])
  rw [List.append_nil]
  exact holds set

end ReplyReader

/-! ## Replies -/

namespace Reply

open Lines

variable {flag both : Bool} {before text : Bytes}

/-- After the line end that is due no line is open. -/
theorem closed_freshLine (both : Bool) (holds : flag = true → Closed before) :
    Closed (before ++ (freshLine flag).flatMap (Action.text both)) := by
  cases flag with
  | true =>
      change Closed (before ++ [])
      rw [List.append_nil]
      exact holds rfl
  | false => exact closed_concat_newline before

theorem flag_freshLine (now : Bool) : (freshLine flag).foldl Action.flag now = now := by
  cases flag <;> rfl

theorem text_recordEnd : (recordEnd text).flatMap (Action.text both) = [] := by
  unfold recordEnd
  split <;> rfl

/-- The flag is as it was after an empty text, and otherwise says how the text ends. -/
theorem flag_recordEnd (set : (recordEnd text).foldl Action.flag flag = true) :
    (text = [] ∧ flag = true) ∨ text.getLast? = some Bytes.newline := by
  unfold recordEnd at set
  split at set
  case h_1 empty => exact .inl ⟨List.getLast?_eq_none_iff.mp empty, set⟩
  case h_2 b last =>
      right
      rw [last]
      exact congrArg some (of_decide_eq_true set)

/-- A text and what there is to record of it leave no line open, if none was open before. -/
theorem closed_recordEnd (holds : flag = true → Closed before)
    (set : (recordEnd text).foldl Action.flag flag = true) : Closed (before ++ text) := by
  rcases flag_recordEnd set with ⟨rfl, unmoved⟩ | ended
  · rw [List.append_nil]
    exact holds unmoved
  · exact .append ended before

/-- What is done about a reply sets the flag only where no line is open, and leaves it set
only there. The exception is an error without a text, which says nothing about the flag
although something has been reported. -/
theorem closed_actions (reply : Reply) (suppressed : Bool) (holds : flag = true → Closed before)
    (telling : both = true → flag = true → reply ≠ .error [])
    (set : (reply.actions flag suppressed).foldl Action.flag flag = true) :
    Closed (before ++ (reply.actions flag suppressed).flatMap (Action.text both)) := by
  have fresh := closed_freshLine both holds
  have silent : flag = true → Closed (before ++ []) := by
    rw [List.append_nil]
    exact holds
  cases reply with
  | serverPid | windowSystemUnsupported => exact silent set
  | print text =>
      cases suppressed with
      | true => exact silent set
      | false =>
          change ((freshLine flag ++ .out text :: recordEnd text).foldl Action.flag flag) = true
            at set
          change Closed (before ++
            (freshLine flag ++ .out text :: recordEnd text).flatMap (Action.text both))
          rw [List.foldl_append, flag_freshLine] at set
          rw [List.flatMap_append, List.flatMap_cons, text_recordEnd, List.append_nil,
            ← List.append_assoc]
          exact closed_recordEnd (fun _ => fresh) set
  | printNoNewline text =>
      cases suppressed with
      | true => exact silent set
      | false =>
          change ((Action.out text :: recordEnd text).foldl Action.flag flag) = true at set
          change Closed (before ++
            (Action.out text :: recordEnd text).flatMap (Action.text both))
          rw [List.flatMap_cons, text_recordEnd, List.append_nil]
          exact closed_recordEnd holds set
  | error text =>
      rw [actions, List.foldl_append, List.foldl_append, flag_freshLine] at set
      rw [actions, List.flatMap_append, List.flatMap_append, List.flatMap_cons,
        List.flatMap_cons, text_recordEnd, ← List.append_assoc, ← List.append_assoc]
      cases both with
      | false =>
          change Closed (_ ++ [] ++ [])
          rw [List.append_nil, List.append_nil]
          exact fresh
      | true =>
          change Closed (_ ++ (Bytes.ofText "*ERROR*: " ++ (text ++ [])) ++ [])
          rw [List.append_nil, List.append_nil]
          rcases flag_recordEnd set with ⟨rfl, unmoved⟩ | ended
          · exact absurd rfl (telling rfl unmoved)
          · rw [← List.append_assoc]
            exact .append ended _
  | suspend =>
      change Closed (before ++ (freshLine flag ++ _).flatMap (Action.text both))
      rw [List.flatMap_append, ← List.append_assoc]
      change Closed (_ ++ [])
      rw [List.append_nil]
      exact fresh
  | unknown line =>
      change Closed (before ++ (freshLine flag ++ _).flatMap (Action.text both))
      rw [List.flatMap_append, ← List.append_assoc]
      change Closed (_ ++ (Bytes.ofText "*ERROR*: Unknown message: " ++ (line ++ [Bytes.newline])))
      rw [← List.append_assoc, ← List.append_assoc]
      exact closed_concat_newline _

end Reply

namespace ReplyReader

variable {h : ReplyHandler σ ε} {both : Bool} {r q : ReplyReader σ ε}

/-- Acting on a line keeps the flag right, unless it reports an error without a text. -/
theorem dispatch_flagHolds {line : Bytes} (holds : FlagHolds both r)
    (telling : both = true → r.atLineStart = true → Reply.parse line ≠ .error [])
    (done : dispatch h line r = .ok () q) : FlagHolds both q := by
  by_cases empty : line = []
  · subst empty
    cases done
    exact holds
  · rw [dispatch_of_ne_nil h empty] at done
    obtain ⟨text, flag⟩ := performAll_text both done
    intro set
    rw [text]
    exact Reply.closed_actions _ _ holds telling (flag ▸ set)

/-- The line end that is due leaves no line open. -/
theorem freshLine_closed (holds : FlagHolds both r)
    (done : performAll h (Reply.freshLine r.atLineStart) r = .ok () q) :
    Lines.Closed (q.text both) := by
  rw [(performAll_text both done).1]
  exact Reply.closed_freshLine both holds

/-- A message that is shown leaves its line open, and says so. -/
theorem showOpen_flagHolds (both : Bool) {message : String}
    (done : showOpen h message r = .ok () q) : FlagHolds both q := by
  intro set
  rw [(performAll_text both done).2] at set
  nomatch set

theorem closing_apply (h : ReplyHandler σ ε) (r : ReplyReader σ ε) :
    closing h r = (performAll h (Reply.closeLine r.atLineStart) >>= fun _ =>
      get >>= fun s => pure s.outcome) r := rfl

/-- At the end no line is open. -/
theorem closing_closed (holds : FlagHolds both r) {outcome : Outcome}
    (done : closing h r = .ok outcome q) : Lines.Closed (q.text both) := by
  rw [closing_apply] at done
  obtain ⟨_, t, closed, ended⟩ := bind_eq_ok.mp done
  cases ended
  rw [(performAll_text both closed).1]
  cases flag : r.atLineStart with
  | true =>
      change Lines.Closed (r.text both ++ [])
      rw [List.append_nil]
      exact holds flag
  | false => exact Lines.closed_concat_newline (r.text both)

/-! ## Turns -/

/-- What a session has a reader do: show a message, take in bytes, or come to the end. -/
inductive Turn
  | message (text : String)
  | feed (bytes : Bytes)
  | finish
  deriving DecidableEq, Repr

/-- What a turn does. -/
def Turn.run (h : ReplyHandler σ ε) : Turn → Step σ ε Unit
  | .message text => showOpen h text
  | .feed bytes => ReplyReader.feed h bytes
  | .finish => do let _ ← ReplyReader.finish h

/-- Turns one after the other, until one fails. -/
def runTurns (h : ReplyHandler σ ε) (turns : List Turn) : Step σ ε Unit :=
  turns.forM (Turn.run h)

end ReplyReader

end EditorClient
