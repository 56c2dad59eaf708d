/-
# Errors of the server are shown

A session that ends with an error of the server has shown the text of one: what was written to
standard error holds the mark of an error, followed by the text that some reply gave. What is
known of the error and what was shown of it are recorded by different actions, so the invariant
speaks of both.
-/

import EditorClient.CommandLine
import EditorClient.Proofs.Reply.Errors
import EditorClient.Proofs.Session.Stages

namespace EditorClient.CommandLine

open ReplyReader

/-- What stands before the text of an error of the server. -/
def errorMark : Bytes := Bytes.ofText "*ERROR*: "

/-- What was written to standard error holds the text of an error of the server. -/
def ShowsError (errors : Bytes) : Prop :=
  ∃ line text, Reply.parse line = .error text ∧ errorMark ++ text <:+: errors

/-- What an action that succeeds writes to standard error. -/
def errorsOfAction : Action → Bytes
  | .err bytes => bytes
  | _ => []

variable {h : ReplyHandler Session SessionEvent} {r q : ReplyReader Session SessionEvent}

theorem errorsOf_record (more : List (Event SessionEvent))
    (r : ReplyReader Session SessionEvent) :
    errorsOf (r.record more).events = errorsOf r.events ++ errorsOf more := by
  rw [events_record, errorsOf, List.flatMap_append]
  rfl

/-- What the handler reports is not written to standard error. -/
theorem errorsOf_acted (f : Session → Except ClientError Unit × Session × List SessionEvent)
    (r : ReplyReader Session SessionEvent) :
    errorsOf (acted f r).events = errorsOf r.events := by
  have silent : errorsOf ((f r.state).2.2.map .handler) = [] := by
    rw [errorsOf, List.flatMap_map]
    exact List.flatMap_eq_nil_iff.mpr fun _ _ => rfl
  rw [acted, errorsOf_record, silent, List.append_nil]
  rfl

theorem errorsOf_reported {bytes : Bytes} (works : r.err.failure bytes = none) :
    errorsOf (reported bytes r).events = errorsOf r.events ++ bytes := by
  have one : errorsOf [.err bytes] = bytes := List.append_nil bytes
  change errorsOf (wroteErr bytes r).events = errorsOf r.events ++ bytes
  rw [wroteErr, errorsOf_record, Sink.taken_of_works works]
  split
  case isTrue nothing => exact nothing ▸ rfl
  case isFalse => exact congrArg (errorsOf r.events ++ ·) one

theorem errorsOf_wroteOut (bytes : Bytes) (r : ReplyReader Session SessionEvent) :
    errorsOf (wroteOut bytes r).events = errorsOf r.events := by
  rw [wroteOut, errorsOf_record]
  split <;> exact List.append_nil _

theorem perform_errors {action : Action} (done : perform h action r = .ok () q) :
    errorsOf q.events = errorsOf r.events ++ errorsOfAction action := by
  cases action with
  | out bytes =>
      obtain ⟨-, rfl⟩ := writeOut_ok done
      exact (errorsOf_wroteOut bytes r).trans (List.append_nil _).symm
  | err bytes =>
      obtain ⟨works, -, rfl⟩ := perform_err_ok done
      exact errorsOf_reported works
  | flush =>
      obtain ⟨-, rfl⟩ := flushOut_ok done
      exact errorsOf_record [.flushed] _
  | serverPid pid =>
      cases done
      exact errorsOf_record [.serverPid pid] _
  | atLineStart | serverError =>
      cases done
      exact (List.append_nil _).symm
  | unsupported =>
      rw [perform_unsupported] at done
      obtain ⟨-, rfl⟩ := act_ok done
      exact (errorsOf_acted _ _).trans (errorsOf_record [.unsupported] r)
  | suspend =>
      rw [perform_suspend] at done
      obtain ⟨-, rfl⟩ := act_ok done
      exact (errorsOf_acted _ _).trans (errorsOf_record [.suspend] r)

/-- Actions that succeed write their parts in order. -/
theorem performAll_errors {actions : List Action} (done : performAll h actions r = .ok () q) :
    errorsOf q.events = errorsOf r.events ++ actions.flatMap errorsOfAction := by
  induction actions generalizing r with
  | nil =>
      cases done
      exact (List.append_nil _).symm
  | cons action rest ih =>
      obtain ⟨_, middle, first, later⟩ := bind_eq_ok.mp done
      rw [ih later, perform_errors first, List.append_assoc]
      rfl

/-- What a reply that reports an error makes the client write. -/
theorem errorsOf_error (text : Bytes) (atLineStart suppressed : Bool) :
    ((Reply.error text).actions atLineStart suppressed).flatMap errorsOfAction =
      errorMark ++ text := by
  have fresh : (Reply.freshLine atLineStart).flatMap errorsOfAction = [] := by
    cases atLineStart <;> rfl
  have recorded : (Reply.recordEnd text).flatMap errorsOfAction = [] := by
    rw [Reply.recordEnd]
    split <;> rfl
  simp only [Reply.actions, List.flatMap_append, List.flatMap_cons, List.flatMap_nil, fresh,
    recorded, errorsOfAction, errorMark, List.nil_append, List.append_nil]

/-! ## A session -/

/-- An error that is known has been shown. -/
def Shown (r : ReplyReader Session SessionEvent) : Prop :=
  r.outcome = .serverError → ShowsError (errorsOf r.events)

theorem ShowsError.append {errors : Bytes} (shows : ShowsError errors) (more : Bytes) :
    ShowsError (errors ++ more) := by
  obtain ⟨line, text, reply, there⟩ := shows
  exact ⟨line, text, reply, there.trans (List.infix_append' [] errors more)⟩

/-- Steps after which the same is known, and as much has been written. -/
theorem Shown.same (shown : Shown r) (outcome : q.outcome = r.outcome)
    (errors : errorsOf q.events = errorsOf r.events) : Shown q := by
  rw [Shown, outcome, errors]
  exact shown

/-- Actions that do not concern errors of the server. -/
theorem performAll_shown {actions : List Action} (others : .serverError ∉ actions) :
    Keeps Shown (performAll h actions) := by
  intro r _ q shown done known
  rw [performAll_outcome done, or_iff_left others] at known
  rw [performAll_errors done]
  exact (shown known).append _

theorem dispatch_shown (line : Bytes) : Keeps Shown (dispatch h line) := by
  intro r _ q shown done
  by_cases empty : line = []
  · subst empty
    cases done
    exact shown
  · rw [dispatch_of_ne_nil h empty] at done
    by_cases reports : ∃ text, Reply.parse line = .error text
    · obtain ⟨text, reply⟩ := reports
      intro
      rw [performAll_errors done, reply, errorsOf_error]
      exact ⟨line, text, reply, List.suffix_append _ _ |>.isInfix⟩
    · exact performAll_shown (mt Reply.serverError_mem_actions_iff.mp reports) shown done

theorem feed_shown (bytes : Bytes) : Keeps Shown (feed h bytes) := by
  intro r _ q shown done
  obtain ⟨t, lines, rfl⟩ := feed_ok done
  have begun : Shown { r with pending := r.pending ++ bytes } := shown
  have acted : Shown t := Keeps.forM _ dispatch_shown begun lines
  exact acted.same rfl ((errorsOf_record [.flushed] _).trans (List.append_nil _))

variable {c : Config} {p : Platform} {items : List Item}

theorem showWaiting_shown : Keeps Shown (Session.showWaiting c h) := by
  intro r _ q shown done
  rw [Session.showWaiting_apply] at done
  split at done
  · exact performAll_shown (by simp [Reply.openLine]) shown done
  · cases done
    exact shown

theorem afterRead_shown : Keeps Shown (Session.afterRead c h) := by
  intro r _ q shown done
  have seen : Shown { r with state := { r.state with resent := false } } := shown
  rw [Session.afterRead_apply] at done
  split at done
  · exact showWaiting_shown seen done
  · cases done
    exact seen

theorem beforeRead_shown : Keeps Shown Session.beforeRead := by
  intro r _ q shown done
  rw [Session.beforeRead_apply] at done
  split at done
  · cases done
    exact shown.same rfl ((errorsOf_record [.handler .reading] _).trans (List.append_nil _))
  · cases done
    exact shown

theorem readFailed_shown (error : IoError) : Keeps Shown (Session.readFailed error) := by
  intro r _ q shown done
  rw [Session.readFailed] at done
  split at done <;> cases done
  exact shown

/-- Reading to the end. The induction is on the reads. -/
theorem readAll_shown (ending : Ending) (reads : List Bytes) :
    Keeps Shown (Session.readAll c h ending reads) := by
  induction reads with
  | nil =>
      unfold Session.readAll
      refine beforeRead_shown.bind fun failure => ?_
      cases failure with
      | some error => exact readFailed_shown error
      | none =>
          cases ending with
          | closed => exact .skip none
          | failed error => exact readFailed_shown error
          | dropped reading writing =>
              exact .bind (.update fun _ shown => shown) fun _ => readFailed_shown reading
  | cons bytes rest ih =>
      unfold Session.readAll
      refine beforeRead_shown.bind fun failure => ?_
      cases failure with
      | some error => exact readFailed_shown error
      | none => exact (feed_shown bytes).bind fun _ => afterRead_shown.bind fun _ => ih

theorem finish_shown : Keeps Shown (finish h) := by
  intro r _ q shown done
  rw [finish_apply] at done
  obtain ⟨_, t, last, closes⟩ := bind_eq_ok.mp done
  have idle : Shown { r with pending := [] } := shown
  rw [closing_apply] at closes
  obtain ⟨_, u, closed, ended⟩ := bind_eq_ok.mp closes
  have none : .serverError ∉ Reply.closeLine t.atLineStart := by
    rw [Reply.closeLine]
    split <;> simp
  cases ended
  exact performAll_shown none (dispatch_shown r.pending idle last) closed

/-- A session from its first request to its end. -/
theorem converse_shown (connection : Connection) :
    Keeps Shown (Session.converse c p items connection) := by
  have limits : Keeps Shown (Session.setTimeout c.timeout) := by
    intro r _ q shown done
    rw [Session.setTimeout] at done
    split at done <;> cases done
    exact shown
  have asks : Keeps Shown (act (Session.request c p items (Request.opening c))) := by
    intro r _ q shown done
    obtain ⟨-, rfl⟩ := act_ok done
    exact shown.same rfl (errorsOf_acted _ _)
  unfold Session.converse
  refine limits.bind fun _ => asks.bind fun _ => showWaiting_shown.bind fun _ =>
    (readAll_shown _ _).bind fun failure => finish_shown.bind fun outcome =>
      .bind (.update fun _ shown => shown) fun _ => ?_
  cases failure with
  | some error =>
      intro _ _ _ _ done
      cases done
  | none => exact .skip outcome

/-- The outcome of a session is the one that its reader has come to. -/
theorem converse_told {connection : Connection} {outcome : Outcome}
    {r q : ReplyReader Session SessionEvent}
    (done : Session.converse c p items connection r = .ok outcome q) : q.outcome = outcome := by
  unfold Session.converse at done
  obtain ⟨_, _, -, rest⟩ := bind_eq_ok.mp done
  obtain ⟨_, _, -, rest⟩ := bind_eq_ok.mp rest
  obtain ⟨_, _, -, rest⟩ := bind_eq_ok.mp rest
  obtain ⟨failure, u, -, rest⟩ := bind_eq_ok.mp rest
  obtain ⟨_, v, finished, rest⟩ := bind_eq_ok.mp rest
  obtain ⟨_, _, closed, rest⟩ := bind_eq_ok.mp rest
  have told := Session.finish_told (Session.handler c p items) u
  rw [finished] at told
  cases closed
  cases failure with
  | some error => cases rest
  | none =>
      cases rest
      exact told.post_of_ok

/-- A session that ends with an error of the server has shown one. -/
theorem showsError_of_run {input : Bytes} {connection : Connection} {out err : Sink}
    (ended : (Session.run c p input connection out err).result = .ok .serverError) :
    ShowsError (errorsOf (Session.run c p input connection out err).events) := by
  obtain ⟨begun, start⟩ : ∃ begun : ReplyReader Session SessionEvent, begun =
    { suppressed := c.suppressOutput, out, err, state := .start c connection } := ⟨_, rfl⟩
  have fresh : Shown begun := by
    rw [start]
    exact nofun
  cases comes : Session.converse c p (Item.all c input) connection begun with
  | error error q =>
      rw [start] at comes
      rw [Session.run_of_error comes] at ended
      nomatch ended
  | ok outcome q =>
      have shown : Shown q := converse_shown connection fresh comes
      have known : q.outcome = outcome := converse_told comes
      rw [start] at comes
      rw [Session.run_of_ok comes] at ended ⊢
      cases ended
      exact shown known

end EditorClient.CommandLine
