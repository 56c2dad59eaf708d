/-
# Where a session looks for its frame

Each refusal of the server takes a session one step back, to the next target. Nothing
else moves the target: no request, whether it could be sent or not, no signal and no
output. So the target says how often the server has refused (`OnCourse`), and what is
known of targets that are tried one after the other holds of any session, however long
the server goes on refusing: it goes from one display to another at most once, and then
to the terminal, where it stays.
-/

import EditorClient.Proofs.Request.Targets
import EditorClient.Proofs.Session.Stages

namespace EditorClient.Session

open ReplyReader

/-- The target of a session is the one that as many steps back lead to as the server has
refused. -/
def OnCourse (c : Config) (r : ReplyReader Session SessionEvent) : Prop :=
  r.state.target = (FrameTarget.ofConfig c).fallBackTimes (timesRefused r.events)

variable {c : Config} {p : Platform} {items : List Item}
  {r q : ReplyReader Session SessionEvent}

/-! ## What leaves the target as it is -/

/-- A step without a refusal. -/
theorem OnCourse.record (on : OnCourse c r) (target : q.state.target = r.state.target)
    (log : q.log = r.log) {more : List (Event SessionEvent)} (none : .unsupported ∉ more) :
    OnCourse c (q.record more) := by
  have same : q.events = r.events := congrArg List.reverse log
  have unrefused : timesRefused more = 0 := List.count_eq_zero.mpr none
  rw [OnCourse, events_record, timesRefused_append, same, unrefused, Nat.add_zero]
  exact target.trans on

/-- A step that reports nothing. -/
theorem OnCourse.silent (on : OnCourse c r) (target : q.state.target = r.state.target)
    (log : q.log = r.log) : OnCourse c q :=
  on.record target log List.not_mem_nil

/-- A step of the handler. -/
theorem OnCourse.acted (on : OnCourse c r)
    {f : Session → Except ClientError Unit × Session × List SessionEvent}
    (target : (f r.state).2.1.target = r.state.target) : OnCourse c (acted f r) :=
  on.record (q := { r with state := (f r.state).2.1 }) target rfl (by simp)

theorem target_request (opening : Request) (s : Session) :
    (request c p items opening s).2.1.target = s.target := by
  have asked : (asking c s).target = s.target := by rw [asking_eq]
  rw [request_eq]
  dsimp only
  split
  · exact asked
  · split
    · exact asked
    · split <;> exact asked

theorem target_suspend (p : Platform) (s : Session) : (suspend p s).1.target = s.target := by
  rw [suspend]
  split
  · rw [signals_eq]
  · rfl

theorem target_flush (s : Session) : s.flush.2.target = s.target := by
  rw [flush]
  split <;> rfl

theorem target_close (s : Session) : s.close.target = s.target := by
  rw [close]
  split
  · rfl
  · exact target_flush s

/-! ## Tasks -/

theorem OnCourse.wroteErr (on : OnCourse c r) (bytes : Bytes) :
    OnCourse c (ReplyReader.wroteErr bytes r) := by
  rw [ReplyReader.wroteErr]
  exact on.record rfl rfl (by split <;> simp)

/-- No action but that on a refusal, whether it works or fails. -/
theorem perform_onCourse {action : Action} (other : action ≠ .unsupported) :
    Preserves (OnCourse c) (perform (handler c p items) action) := by
  intro r on
  cases action with
  | out bytes =>
      have wrote : OnCourse c (wroteOut bytes r) := by
        rw [wroteOut]
        exact on.record rfl rfl (by split <;> simp)
      exact writeOut_ends wrote fun _ => wrote
  | err bytes =>
      have wrote := on.wroteErr bytes
      have reported : OnCourse c (reported bytes r) := wrote.silent rfl rfl
      exact perform_err_ends reported (fun _ => wrote) fun _ => reported
  | flush => exact flushOut_ends (on.record rfl rfl (by simp)) fun _ => on.silent rfl rfl
  | atLineStart | serverError => exact .ok (on.silent rfl rfl)
  | serverPid pid => exact .ok (on.record rfl rfl (by simp))
  | unsupported => exact absurd rfl other
  | suspend =>
      have told : OnCourse c (r.record [.suspend]) := on.record rfl rfl (by simp)
      have left := told.acted (f := fun s => (.ok (), suspend p s)) (target_suspend p r.state)
      rw [perform_suspend]
      exact act_ends (fun _ => left) fun _ _ => left

/-- A refusal is one more step back. -/
theorem OnCourse.refused (on : OnCourse c r) :
    OnCourse c ({ r with state := fallen r.state }.record [.unsupported]) := by
  have once : timesRefused [.unsupported] = 1 := rfl
  rw [OnCourse, events_record, timesRefused_append, once, FrameTarget.fallBackTimes_succ]
  exact congrArg FrameTarget.fallBack on

theorem work_onCourse (task : Task) : Preserves (OnCourse c) (task.work c p items) := by
  intro r on
  cases task with
  | limit =>
      change Ends _ _ (setTimeout c.timeout r)
      rw [setTimeout]
      split
      · exact .error on
      · exact .ok on
  | request first =>
      have left : OnCourse c (acted (request c p items (leadingPart c first)) r) :=
        on.acted (target_request _ r.state)
      exact act_ends (fun _ => left) fun _ _ => left
  | tell | tellAgain | line | keep | lastLine | closeLine => exact .ok (on.silent rfl rfl)
  | flushErrors => exact flushErr_ends (on.silent rfl rfl) fun _ => on.silent rfl rfl
  | act action =>
      by_cases asks : action = .unsupported
      · subst asks
        exact .ok on.refused
      · have left : Ends (fun _ => OnCourse c) (fun _ => OnCourse c)
            (perform (handler c p items) action r) := perform_onCourse asks on
        cases action with
        | unsupported => exact absurd rfl asks
        | err bytes => exact writeErr_ends (on.wroteErr bytes) fun _ => on.wroteErr bytes
        | _ => exact left

/-! ## Changes -/

variable {w w' : Situation}

theorem advance_onCourse (on : OnCourse c w.reader) :
    OnCourse c (advance c p items w).reader := by
  obtain ⟨r, stage, held⟩ := w
  cases stage with
  | waiting | finished => exact on
  | busy todo goal =>
      cases todo with
      | nil =>
          cases goal with
          | result broken => exact on.silent (target_close r.state) rfl
          | read =>
              have wrote := target_flush r.state
              simp only [advance]
              rcases flushed : r.state.flush with ⟨result, state⟩
              rw [flushed] at wrote
              cases result with
              | error error => exact on.silent wrote rfl
              | ok _ => exact on.record (q := { r with state }) wrote rfl (by simp)
      | cons task todo => exact reader_advance (work_onCourse task on)

theorem Outside.onCourse (happens : Outside w w') (on : OnCourse c w.reader) :
    OnCourse c w'.reader := by
  cases happens with
  | arrives bytes waits => exact on.silent rfl rfl
  | closes waits => exact on
  | breaks error waits => exact on
  | interrupts waits => exact on.record rfl rfl (by simp)
  | drops error => exact on.silent rfl rfl
  | signal number foreground fails bridged =>
      exact on.record (q := { w.reader with state := { w.reader.state with buffer := _ } }) rfl rfl
        (by simp)

/-- A session is on its course at every moment. The induction is on the changes. -/
theorem onCourse_of_changes {connection : Connection} {out err : Sink}
    (changes : Changes c p items (.start c connection out err) w) : OnCourse c w.reader := by
  induction changes with
  | refl => rfl
  | tail _ change on =>
      cases change with
      | own busy => exact advance_onCourse on
      | outside happens => exact happens.onCourse on

/-! ## Convergence -/

/-- Falling back converges and never goes back. From any target on, a target that is the
terminal is followed by such targets only, and a client that waits goes on waiting. After
the first step the display is the alternate display, if there was one, for good. After the
second step, or after the first if there was no alternate display, nothing else is left to
try and no step changes anything.

A session on its way, whatever happens to it, has the target to which so many steps lead
as the server has refused. -/
theorem fallback_settles :
    (∀ t : FrameTarget,
      (∀ earlier more, (t.fallBackTimes (earlier + more)).Follows (t.fallBackTimes earlier)) ∧
      (∀ number, 1 ≤ number → (t.fallBackTimes number).display = t.altDisplay.or t.display) ∧
      ∀ number, 2 ≤ number ∨ 1 ≤ number ∧ t.altDisplay = none →
        (t.fallBackTimes number).AtLast ∧
          ∀ more, (t.fallBackTimes number).fallBackTimes more = t.fallBackTimes number) ∧
    ∀ c p items connection out err w, Changes c p items (.start c connection out err) w →
      w.reader.state.target =
        (FrameTarget.ofConfig c).fallBackTimes (timesRefused w.reader.events) := by
  refine ⟨fun t => ⟨?_, ?_, ?_⟩, fun c p items connection out err w => onCourse_of_changes⟩
  · intro earlier more
    rw [FrameTarget.fallBackTimes_add]
    exact FrameTarget.fallBackTimes_follows more _
  · intro number some_
    obtain ⟨others, rfl⟩ := Nat.exists_eq_add_of_le' some_
    exact FrameTarget.display_fallBackTimes others t
  · intro number enough
    have last : (t.fallBackTimes number).AtLast := by
      rcases enough with two | ⟨one, spent⟩
      · have spent : (t.fallBackTimes 1).altDisplay = none := FrameTarget.altDisplay_fallBack t
        exact FrameTarget.atLast_of_spent two spent
      · have spent : (t.fallBackTimes 0).altDisplay = none := spent
        exact FrameTarget.atLast_of_spent one spent
    exact ⟨last, last.fallBackTimes_eq⟩

end EditorClient.Session
