/-
# What a session sends

Whatever the terminal answers, whichever output fails and whenever signals reach the bridge:
once the connection is closed, the server has been sent what the connection began with, and
then the requests for the targets that its refusals lead to, one after the other, with nothing
but lines of the bridge among them.

`Hears` is a course of a session on which the server takes all that it is sent, together with
the bytes that have arrived. The proof follows such a course. `Underway` says which of the
lines the session has looked at and which are ahead of it, and where among its tasks the next
request is. Every change keeps that, and `Halted` is what remains of it when the session is
over.
-/

import EditorClient.Machine.Endpoint
import EditorClient.Proofs.Session.Ahead
import EditorClient.Proofs.Session.Messages

namespace EditorClient.Session

open ReplyReader

variable {c : Config} {p : Platform} {items : List Item} {lead arrived kept : Bytes}
  {requests : Nat} {passed : List Bytes} {todo : List Task} {goal : Goal}
  {result : Except ClientError Outcome} {r q : ReplyReader Session SessionEvent}
  {w w' : Situation}

/-! ## Tasks that send no request -/

/-- Whether a task neither makes a request nor leads to one at once. -/
def Task.isCalm : Task → Bool
  | .limit | .request _ | .act .unsupported => false
  | _ => true

/-- What a step leaves that neither makes a request nor is a refusal, where this is kept of a
line. -/
structure Calms (c : Config) (p : Platform) (items : List Item) (kept : Bytes)
    (r q : ReplyReader Session SessionEvent) : Prop where
  adds : Adds c p items r.state q.state
  refused : timesRefused q.events = timesRefused r.events
  pending : q.pending = kept

theorem refused_record {more : List (Event SessionEvent)} (none : .unsupported ∉ more)
    (r : ReplyReader Session SessionEvent) :
    timesRefused (r.record more).events = timesRefused r.events := by
  have never : timesRefused more = 0 := List.count_eq_zero.mpr none
  rw [events_record, timesRefused_append, never, Nat.add_zero]

theorem refused_acted (f : Session → Except ClientError Unit × Session × List SessionEvent)
    (r : ReplyReader Session SessionEvent) :
    timesRefused (acted f r).events = timesRefused r.events := by
  rw [events_acted, timesRefused_append, timesRefused_reports, Nat.add_zero]

theorem work_calms {task : Task} (calm : task.isCalm = true)
    (reliable : r.state.buffer.writer.Reliable) :
    Ends (fun _ => Calms c p items (task.keeps r.pending) r)
      (fun _ => Calms c p items (task.keeps r.pending) r) (task.work c p items r) := by
  have same : Adds c p items r.state r.state := .refl reliable
  cases task with
  | limit | request => nomatch calm
  | tell | line | keep | lastLine | closeLine => exact .ok ⟨same, rfl, rfl⟩
  | tellAgain => exact .ok ⟨.same reliable rfl rfl rfl rfl, rfl, rfl⟩
  | flushErrors => exact flushErr_ends ⟨same, rfl, rfl⟩ fun _ => ⟨same, rfl, rfl⟩
  | act action =>
      cases action with
      | unsupported => nomatch calm
      | out bytes =>
          have wrote : Calms c p items r.pending r (wroteOut bytes r) :=
            ⟨same, refused_record (by split <;> simp) _, rfl⟩
          exact writeOut_ends wrote fun _ => wrote
      | err bytes =>
          have wrote : Calms c p items r.pending r (wroteErr bytes r) :=
            ⟨same, refused_record (by split <;> simp) _, rfl⟩
          exact writeErr_ends wrote fun _ => wrote
      | flush =>
          exact flushOut_ends ⟨same, refused_record (by simp) _, rfl⟩ fun _ => ⟨same, rfl, rfl⟩
      | atLineStart | serverError => exact .ok ⟨same, rfl, rfl⟩
      | serverPid pid =>
          exact .ok ⟨.same reliable rfl rfl rfl rfl, refused_record (by simp) _, rfl⟩
      | suspend =>
          have begun : timesRefused (r.record [.suspend]).events = timesRefused r.events :=
            refused_record (by simp) r
          have left : Calms c p items r.pending r
              (acted (fun s => (.ok (), suspend p s)) (r.record [.suspend])) :=
            ⟨adds_suspend reliable, (refused_acted _ _).trans begun, rfl⟩
          change Ends _ _ (perform (handler c p items) .suspend r)
          rw [perform_suspend]
          exact act_ends (fun _ => left) fun _ _ => left

/-- Only a refusal is answered by a request. -/
theorem unsupported_not_mem_actions {reply : Reply} (other : reply ≠ .windowSystemUnsupported)
    (atLineStart suppressed : Bool) : .unsupported ∉ reply.actions atLineStart suppressed := by
  rw [Reply.mem_actions_iff rfl]
  cases reply with
  | windowSystemUnsupported => exact absurd rfl other
  | serverPid | error | suspend => exact fun there => nomatch List.mem_singleton.mp there
  | print | printNoNewline | unknown => exact List.not_mem_nil

theorem calm_acts {actions : List Action} (none : .unsupported ∉ actions) :
    ∀ task ∈ acts actions, task.isCalm = true := by
  intro task there
  obtain ⟨action, among, rfl⟩ := List.mem_map.mp there
  cases action with
  | unsupported => exact absurd among none
  | _ => rfl

/-- What a calm task leaves is calm, unless it looked at a refusal. -/
theorem calm_more {task : Task} (calm : task.isCalm = true)
    (r : ReplyReader Session SessionEvent) :
    (∀ later ∈ task.more c r, later.isCalm = true) ∧ task.looks.countP isRefusal = 0 ∨
      task.more c r = [.act .unsupported] ∧ task.looks.countP isRefusal = 1 := by
  have nothing : ∀ later ∈ ([] : List Task), later.isCalm = true := List.forall_mem_nil _
  have shows : ∀ later ∈ acts (Reply.openLine waitingMessage), later.isCalm = true :=
    calm_acts (by simp [Reply.openLine])
  cases task with
  | limit | request => cases calm
  | flushErrors | keep => exact .inl ⟨nothing, rfl⟩
  | tell =>
      refine .inl ⟨?_, rfl⟩
      rw [Task.more]
      split
      · exact shows
      · exact nothing
  | tellAgain =>
      refine .inl ⟨?_, rfl⟩
      rw [Task.more]
      split
      · exact List.forall_mem_singleton.mpr rfl
      · exact nothing
  | act action =>
      cases action with
      | unsupported => cases calm
      | err bytes => exact .inl ⟨List.forall_mem_singleton.mpr rfl, rfl⟩
      | _ => exact .inl ⟨nothing, rfl⟩
  | lastLine => exact .inl ⟨List.forall_mem_singleton.mpr rfl, rfl⟩
  | closeLine =>
      refine .inl ⟨calm_acts ?_, rfl⟩
      cases r.atLineStart <;> simp [Reply.closeLine]
  | line bytes =>
      have counted : (Task.line bytes).looks.countP isRefusal = if isRefusal bytes then 1 else 0 :=
        List.countP_singleton
      rw [Task.more, counted]
      cases refuses : isRefusal bytes with
      | true =>
          have parsed : Reply.parse bytes = .windowSystemUnsupported := by
            simpa [isRefusal] using refuses
          rw [if_neg (ne_nil_of_isRefusal refuses), parsed]
          exact .inr ⟨rfl, rfl⟩
      | false =>
          have other : Reply.parse bytes ≠ .windowSystemUnsupported := by
            simpa [isRefusal] using refuses
          refine .inl ⟨?_, rfl⟩
          split
          · exact nothing
          · exact calm_acts (unsupported_not_mem_actions other _ _)

/-! ## A session on its way -/

/-- Where among tasks the next request is, when so many requests were sent, the session has
fallen back so often and so many refusals were looked at. -/
inductive Due (c : Config) : (requests falls refusals : Nat) → List Task → Prop
  /-- The first request is still to come. -/
  | start : Due c 0 0 0 [.limit, .request true, .tell]
  /-- It is next. -/
  | next {number : Nat} {first : Bool} {todo : List Task}
      (opening : leadingPart c first = openingOf c number)
      (calm : ∀ task ∈ todo, task.isCalm = true) :
      Due c number number number (.request first :: todo)
  /-- It follows the refusal that is next. -/
  | refused {number : Nat} {todo : List Task} (calm : ∀ task ∈ todo, task.isCalm = true) :
      Due c (number + 1) number (number + 1) (.act .unsupported :: todo)
  /-- There is none. -/
  | never {number : Nat} {todo : List Task} (calm : ∀ task ∈ todo, task.isCalm = true) :
      Due c (number + 1) number number todo

/-- A session that has begun to act on these of the lines that arrived, and has sent so many
requests. -/
structure Underway (c : Config) (p : Platform) (items : List Item) (lead arrived : Bytes)
    (requests : Nat) (passed : List Bytes) (todo : List Task) (goal : Goal)
    (r : ReplyReader Session SessionEvent) : Prop where
  sends : Sending c p items lead requests (timesRefused r.events) r.state
  due : Due c requests (timesRefused r.events) (passed.countP isRefusal) todo
  looks : Looks arrived passed todo goal r.pending

/-- A session that came to this result when it had begun to act on these of the lines that
arrived, and had sent so many requests. -/
structure Halted (c : Config) (p : Platform) (items : List Item) (lead arrived : Bytes)
    (requests : Nat) (passed : List Bytes) (result : Except ClientError Outcome)
    (r : ReplyReader Session SessionEvent) : Prop where
  sent : Sent c p items lead requests r.state
  refused : timesRefused r.events = passed.countP isRefusal
  /-- The last request was sent, or could not be built. -/
  last : requests = timesRefused r.events + 1 ∨ requests = timesRefused r.events ∧
    ∃ e, requestLine c p items requests = .error e ∧ result = .error e
  among : passed <+: Lines.complete arrived ++ [Lines.tail arrived]
  whole : ∀ outcome, result = .ok outcome → passed = Lines.complete arrived ++ [Lines.tail arrived]

/-- What holds of a session on its way when this has arrived. -/
def Delivering (c : Config) (p : Platform) (items : List Item) (lead arrived : Bytes)
    (w : Situation) : Prop :=
  ∃ requests passed,
    match w.stage with
    | .busy todo goal => Underway c p items lead arrived requests passed todo goal w.reader
    | .waiting _ => Underway c p items lead arrived requests passed [] .read w.reader
    | .finished result => Halted c p items lead arrived requests passed result w.reader

theorem Underway.calms (under : Underway c p items lead arrived requests passed todo goal r)
    (calms : Calms c p items r.pending r q) :
    Underway c p items lead arrived requests passed todo goal q where
  sends := calms.refused ▸ under.sends.adds calms.adds
  due := calms.refused ▸ under.due
  looks := calms.pending ▸ under.looks

theorem Halted.calms (halted : Halted c p items lead arrived requests passed result r)
    (calms : Calms c p items r.pending r q) :
    Halted c p items lead arrived requests passed result q where
  sent := halted.sent.adds calms.adds
  refused := calms.refused ▸ halted.refused
  last := calms.refused ▸ halted.last
  among := halted.among
  whole := halted.whole

/-! ## What the session does -/

theorem due_nil {falls refusals : Nat} (due : Due c requests falls refusals []) :
    requests = falls + 1 ∧ refusals = falls := by
  cases due with
  | never calm => exact ⟨rfl, rfl⟩

/-- A session that has nothing to do before reading can be told that no more will arrive. -/
theorem Underway.ending (under : Underway c p items lead arrived requests passed [] .read r)
    (broken : Option IoError) :
    Underway c p items lead arrived requests passed [.lastLine, .closeLine] (.result broken) r where
  sends := under.sends
  due := by
    have due := under.due
    obtain ⟨rfl, counted⟩ := due_nil due
    rw [counted] at due ⊢
    exact .never (by simp [Task.isCalm])
  looks := under.looks.ending broken

/-- Or that reading fails. -/
theorem Underway.broken (under : Underway c p items lead arrived requests passed [] .read r)
    (error : IoError) (held : Bytes) :
    Delivering c p items lead arrived ⟨r, .broken error, held⟩ := by
  rw [Stage.broken]
  split
  case isTrue =>
      obtain ⟨sent, counted⟩ := due_nil under.due
      exact ⟨requests, passed, under.sends.toSent, counted.symm, .inl sent, under.looks.among,
        fun _ ended => by cases ended⟩
  case isFalse => exact ⟨requests, passed, under.ending (some error)⟩

/-- A request that is next is sent, or the session is over. -/
theorem Underway.asks {first : Bool} {held : Bytes}
    (under : Underway c p items lead arrived requests passed (.request first :: todo) goal r) :
    Delivering c p items lead arrived
      (advance c p items ⟨r, .busy (.request first :: todo) goal, held⟩) := by
  obtain ⟨sends, due, looks⟩ := under
  have refused := refused_acted (request c p items (leadingPart c first)) r
  generalize counted : timesRefused r.events = falls at sends due refused
  generalize looked : passed.countP isRefusal = refusals at due
  cases due with
  | next opening calm =>
      obtain ⟨works, fails⟩ := request_sends sends
      rw [← opening] at works fails
      cases built : requestLine c p items requests with
      | ok line =>
          obtain ⟨done, sending⟩ := works line built
          have sent : (Task.request first).work c p items r =
              .ok () (acted (request c p items (leadingPart c first)) r) := act_of_ok done
          simp only [advance, sent]
          refine ⟨requests + 1, passed, ?_, ?_, ⟨looks.lines, looks.rest⟩⟩
          · rw [refused]
            exact sending
          · rw [refused, looked]
            exact .never calm
      | error e =>
          obtain ⟨failed, sent⟩ := fails e built
          have stops : (Task.request first).work c p items r =
              .error e (acted (request c p items (leadingPart c first)) r) := act_of_error failed
          simp only [advance, stops]
          exact ⟨requests, passed, sent, refused.trans looked.symm,
            .inr ⟨refused.symm, e, built, rfl⟩, looks.among, fun _ ended => by cases ended⟩
  | never calm => cases calm _ List.mem_cons_self

/-- A refusal that is next makes a request due. -/
theorem Underway.fallsBack {held : Bytes}
    (under : Underway c p items lead arrived requests passed (.act .unsupported :: todo) goal r) :
    Delivering c p items lead arrived
      (advance c p items ⟨r, .busy (.act .unsupported :: todo) goal, held⟩) := by
  obtain ⟨sends, due, looks⟩ := under
  have once : timesRefused ({ r with state := fallen r.state }.record [.unsupported]).events =
      timesRefused r.events + 1 := by
    rw [events_record, timesRefused_append]
    rfl
  generalize counted : timesRefused r.events = falls at sends due once
  generalize looked : passed.countP isRefusal = refusals at due
  cases due with
  | never calm => nomatch calm _ List.mem_cons_self
  | refused calm =>
      have moved : (Task.act .unsupported).work c p items r =
          .ok () ({ r with state := fallen r.state }.record [.unsupported]) := rfl
      simp only [advance, moved]
      refine ⟨falls + 1, passed, ?_, ?_, ⟨looks.lines, looks.rest⟩⟩
      · rw [once]
        refine ⟨⟨sends.stream, sends.reliable, sends.flushed, sends.built⟩, ?_, sends.asked⟩
        rw [FrameTarget.fallBackTimes_succ, ← sends.target]
        rfl
      · rw [once, looked]
        exact .next rfl calm

/-- Any other task, if no request is due. -/
theorem Underway.calm {task : Task} {held : Bytes} (calm : task.isCalm = true)
    (under : Underway c p items lead arrived requests passed (task :: todo) goal r) :
    Delivering c p items lead arrived
      (advance c p items ⟨r, .busy (task :: todo) goal, held⟩) := by
  obtain ⟨sends, due, looks⟩ := under
  have works : Ends (fun _ => Calms c p items (task.keeps r.pending) r)
      (fun _ => Calms c p items (task.keeps r.pending) r) (task.work c p items r) :=
    work_calms calm sends.reliable
  generalize counted : timesRefused r.events = falls at sends due
  generalize looked : passed.countP isRefusal = refusals at due
  cases due with
  | start | next | refused => cases calm
  | never others =>
      have later : ∀ other ∈ todo, other.isCalm = true :=
        fun other there => others other (List.mem_cons_of_mem _ there)
      cases done : task.work c p items r with
      | error e q =>
          rw [done] at works
          obtain ⟨adds, refused, -⟩ := works.failed_of_error
          simp only [advance, done]
          rw [counted] at refused
          exact ⟨falls + 1, passed, sends.toSent.adds adds, refused.trans looked.symm,
            .inl (congrArg (· + 1) refused.symm), looks.among, fun _ ended => by cases ended⟩
      | ok _ q =>
          rw [done] at works
          obtain ⟨adds, refused, pending⟩ := works.post_of_ok
          simp only [advance, done]
          rw [counted] at refused
          refine ⟨falls + 1, passed ++ task.looks, ?_, ?_, ?_⟩
          · rw [refused]
            exact sends.adds adds
          · rw [refused, List.countP_append, looked]
            -- A refusal that was looked at makes a request due, and is the first thing to do.
            rcases calm_more (c := c) calm r with ⟨calm, none⟩ | ⟨only, once⟩
            · rw [none]
              exact .never (List.forall_mem_append.mpr ⟨calm, later⟩)
            · rw [only, once]
              exact .refused later
          · rw [pending]
            exact looks.more

/-- The first request is next when the time that a read may take has been limited. -/
theorem Underway.begins
    (under : Underway c p items lead arrived requests passed (.limit :: todo) goal r) :
    Underway c p items lead arrived requests passed todo goal r := by
  obtain ⟨sends, due, looks⟩ := under
  refine ⟨sends, ?_, ⟨looks.lines, looks.rest⟩⟩
  generalize timesRefused r.events = falls at due ⊢
  generalize passed.countP isRefusal = refusals at due ⊢
  cases due with
  | start => exact .next rfl (by simp [Task.isCalm])
  | never calm => nomatch calm _ List.mem_cons_self

/-- A session that has nothing to do writes what is pending, and waits for the server. -/
theorem Underway.reads {held : Bytes}
    (under : Underway c p items lead arrived requests passed [] .read r) :
    Delivering c p items lead arrived (advance c p items ⟨r, .busy [] .read, held⟩) := by
  have wrote : Adds c p items r.state r.state.flush.2 := adds_flush under.sends.reliable
  simp only [advance]
  rcases flushed : r.state.flush with ⟨result, state⟩
  rw [flushed] at wrote
  cases result with
  | ok _ =>
      have begun : Calms c p items r.pending r ({ r with state }.record [.handler .reading]) :=
        ⟨wrote, refused_record (by simp) _, rfl⟩
      exact ⟨requests, passed, under.calms begun⟩
  | error error =>
      have blocked : Calms c p items r.pending r { r with state } := ⟨wrote, rfl, rfl⟩
      exact (under.calms blocked).broken error held

/-- A session that has done everything is over. -/
theorem Underway.ends {broken : Option IoError} {held : Bytes}
    (under : Underway c p items lead arrived requests passed [] (.result broken) r) :
    Delivering c p items lead arrived (advance c p items ⟨r, .busy [] (.result broken), held⟩) := by
  obtain ⟨sent, counted⟩ := due_nil under.due
  exact ⟨requests, passed, under.sends.toSent.adds (adds_close under.sends.reliable),
    counted.symm, .inl sent, under.looks.among, fun _ _ => under.looks.all⟩

/-- What the session does by itself keeps what is known of it. -/
theorem delivering_advance (lasting : c.timeout ≠ some ⟨0⟩)
    (here : Delivering c p items lead arrived w) :
    Delivering c p items lead arrived (advance c p items w) := by
  obtain ⟨r, stage, held⟩ := w
  cases stage with
  | waiting | finished => exact here
  | busy todo goal =>
      obtain ⟨requests, passed, under⟩ := here
      cases todo with
      | cons task todo =>
          by_cases calm : task.isCalm = true
          · exact under.calm calm
          · cases task with
            | request first => exact under.asks
            | limit =>
                have limited : Task.limit.work c p items r = .ok () r :=
                  setTimeout_of_lasting lasting r
                simp only [advance, limited]
                exact ⟨requests, passed, under.begins⟩
            | act action =>
                cases action with
                | unsupported => exact under.fallsBack
                | _ => exact absurd rfl calm
            | _ => exact absurd rfl calm
      | nil =>
          cases goal with
          | read => exact under.reads
          | result broken => exact under.ends

/-! ## What happens around the session -/

/-- The bytes that arrive are looked at. -/
theorem Underway.arrives (under : Underway c p items lead arrived requests passed [] .read r)
    (bytes : Bytes) :
    Underway c p items lead (arrived ++ bytes) requests passed
      (takeIn (r.pending ++ bytes) ++ [.tellAgain]) .read
      { r with pending := r.pending ++ bytes } := by
  obtain ⟨sends, due, looks⟩ := under
  obtain ⟨sent, counted⟩ := due_nil due
  refine ⟨sends, ?_, looks.arrives bytes⟩
  rw [counted, sent]
  refine .never ?_
  rw [takeIn]
  simp only [List.forall_mem_append, List.forall_mem_map]
  exact ⟨⟨fun _ _ => rfl, by simp [Task.isCalm]⟩, by simp [Task.isCalm]⟩

theorem calms_signalled (number : Signal) (foreground : Foreground)
    (fails : JobCall → Option IoError) (reliable : r.state.buffer.writer.Reliable) :
    Calms c p items r.pending r (signalled number foreground fails r) where
  adds := adds_handle (r.state.sees foreground fails) number reliable
  refused := refused_record (by simp) _
  pending := rfl

theorem Outside.delivering {bytes : Bytes} (happens : Outside w w')
    (said : w'.reader.pending = w.reader.pending ++ bytes)
    (takes : w'.reader.state.buffer.writer.Reliable)
    (here : Delivering c p items lead arrived w) :
    Delivering c p items lead (arrived ++ bytes) w' := by
  have silent (same : w'.reader.pending = w.reader.pending) : arrived ++ bytes = arrived := by
    rw [same] at said
    rw [List.self_eq_append_right.mp said, List.append_nil]
  obtain ⟨r, stage, held⟩ := w
  obtain ⟨requests, passed, here⟩ := here
  cases happens with
  | arrives more waits =>
      cases waits
      cases List.append_cancel_left said
      exact ⟨requests, passed, here.arrives bytes⟩
  | closes waits =>
      cases waits
      rw [silent rfl]
      exact ⟨requests, passed, here.ending none⟩
  | breaks error waits =>
      cases waits
      rw [silent rfl]
      exact here.broken error held
  | interrupts waits =>
      cases waits
      rw [silent rfl]
      have begun : Calms c p items r.pending r (r.record [.handler .reading]) :=
        ⟨.refl here.sends.reliable, refused_record (by simp) r, rfl⟩
      exact ⟨requests, passed, here.calms begun⟩
  | drops error => nomatch takes.lasting
  | signal number foreground fails bridged =>
      rw [silent rfl]
      refine ⟨requests, passed, ?_⟩
      cases stage with
      | busy todo goal =>
          exact Underway.calms here (calms_signalled number foreground fails here.sends.reliable)
      | waiting undisturbed =>
          exact Underway.calms here (calms_signalled number foreground fails here.sends.reliable)
      | finished result =>
          exact Halted.calms here (calms_signalled number foreground fails here.sent.reliable)

/-! ## Courses -/

/-- A course of a session from there, with the bytes that have arrived on it. Signals reach the
bridge whenever they will, and the server takes all that it is sent. -/
inductive Hears (c : Config) (p : Platform) (items : List Item) (begun : Situation) :
    Bytes → Situation → Prop
  | start : Hears c p items begun [] begun
  | own {arrived : Bytes} {w : Situation} {todo : List Task} {goal : Goal}
      (before : Hears c p items begun arrived w) (busy : w.stage = .busy todo goal) :
      Hears c p items begun arrived (advance c p items w)
  | outside {arrived bytes : Bytes} {w w' : Situation} (before : Hears c p items begun arrived w)
      (happens : Outside w w') (said : w'.reader.pending = w.reader.pending ++ bytes)
      (takes : w'.reader.state.buffer.writer.Reliable) :
      Hears c p items begun (arrived ++ bytes) w'

/-- Something that happens while nothing arrives. -/
theorem Hears.meanwhile {begun : Situation} (before : Hears c p items begun arrived w)
    (happens : Outside w w') (silent : w'.reader.pending = w.reader.pending)
    (takes : w'.reader.state.buffer.writer.Reliable) : Hears c p items begun arrived w' := by
  have said : w'.reader.pending = w.reader.pending ++ [] := by rw [silent, List.append_nil]
  have hears := before.outside happens said takes
  rwa [List.append_nil] at hears

/-- A session that is left to itself for so many steps. -/
theorem Hears.advance {begun : Situation} (before : Hears c p items begun arrived w)
    (steps : Nat) : Hears c p items begun arrived ((advance c p items)^[steps] w) := by
  have one {w : Situation} (before : Hears c p items begun arrived w) :
      Hears c p items begun arrived (Session.advance c p items w) := by
    obtain ⟨r, stage, held⟩ := w
    cases stage with
    | busy todo goal => exact before.own rfl
    | waiting | finished => exact before
  induction steps generalizing w with
  | zero => exact before
  | succ steps ih => exact ih (one before)

/-- They are courses that a session can take. -/
theorem Hears.changes {begun : Situation} (hears : Hears c p items begun arrived w) :
    Changes c p items begun w := by
  induction hears with
  | start => exact .refl
  | own _ busy ih => exact ih.tail (.own busy)
  | outside _ happens _ _ ih => exact ih.tail (.outside happens)

section

variable {connection : Connection} {out err : Sink}

theorem delivering_start (reliable : connection.buffer.writer.Reliable) :
    Delivering c p items connection.buffer.stream [] (.start c connection out err) :=
  ⟨0, [], sending_start reliable rfl rfl rfl rfl, .start, .start true⟩

/-- What is known of a session on its way. The induction is on its course. -/
theorem delivering_of_hears (lasting : c.timeout ≠ some ⟨0⟩)
    (reliable : connection.buffer.writer.Reliable)
    (hears : Hears c p items (.start c connection out err) arrived w) :
    Delivering c p items connection.buffer.stream arrived w := by
  induction hears with
  | start => exact delivering_start reliable
  | own _ _ ih => exact delivering_advance lasting ih
  | outside _ happens said takes ih => exact happens.delivering said takes ih

/-- A session that is told not to wait at all ends before its first request, and nothing can
happen to it. -/
theorem unchanged_of_instant (instant : c.timeout = some ⟨0⟩)
    (hears : Hears c p items (.start c connection out err) arrived w) :
    w.reader = (Situation.start c connection out err).reader ∧
      (w.stage = (Situation.start c connection out err).stage ∨
        w.stage = .finished (.error (.io "failed to set read timeout" .zeroTimeout))) := by
  induction hears with
  | start => exact ⟨rfl, .inl rfl⟩
  | @own _ w _ _ _ busy ih =>
      obtain ⟨r, stage, held⟩ := w
      obtain ⟨rfl, rfl | rfl⟩ := ih
      · have fails : Task.limit.work c p items (Situation.start c connection out err).reader =
            .error (.io "failed to set read timeout" .zeroTimeout) _ :=
          setTimeout_of_instant instant _
        simp only [Situation.start] at fails ⊢
        simp only [Session.advance, fails]
        exact ⟨trivial, .inr trivial⟩
      · cases busy
  | @outside _ _ w w' _ happens _ takes ih =>
      obtain ⟨r, stage, held⟩ := w
      obtain ⟨rfl, stages⟩ := ih
      cases happens with
      | arrives _ waits | closes waits | breaks _ waits | interrupts waits =>
          cases waits
          rcases stages with same | same <;> cases same
      | drops error => cases takes.lasting
      | signal number foreground fails bridged => cases bridged

/-- The server has taken all that it was sent, and takes more. -/
theorem Hears.reliable (hears : Hears c p items (.start c connection out err) arrived w)
    (reliable : connection.buffer.writer.Reliable) :
    w.reader.state.buffer.writer.Reliable := by
  by_cases instant : c.timeout = some ⟨0⟩
  · rw [(unchanged_of_instant instant hears).1]
    exact reliable
  · have delivering := delivering_of_hears instant reliable hears
    obtain ⟨r, stage, held⟩ := w
    obtain ⟨requests, passed, here⟩ := delivering
    cases stage with
    | busy todo goal => exact here.sends.reliable
    | waiting undisturbed => exact here.sends.reliable
    | finished result => exact here.sent.reliable

theorem Hears.arrives (hears : Hears c p items (.start c connection out err) arrived w)
    (reliable : connection.buffer.writer.Reliable) (bytes : Bytes)
    {undisturbed : Bool} (waits : w.stage = .waiting undisturbed) :
    Hears c p items (.start c connection out err) (arrived ++ bytes)
      { w with
        reader := { w.reader with pending := w.reader.pending ++ bytes }
        stage := .busy (takeIn (w.reader.pending ++ bytes) ++ [.tellAgain]) .read } := by
  have takes := hears.reliable reliable
  exact hears.outside (.arrives bytes waits) rfl takes

theorem Hears.closes (hears : Hears c p items (.start c connection out err) arrived w)
    (reliable : connection.buffer.writer.Reliable)
    {undisturbed : Bool} (waits : w.stage = .waiting undisturbed) :
    Hears c p items (.start c connection out err) arrived { w with stage := .ending none } := by
  have takes := hears.reliable reliable
  exact hears.meanwhile (.closes waits) rfl takes

theorem Hears.signalled (hears : Hears c p items (.start c connection out err) arrived w)
    (reliable : connection.buffer.writer.Reliable) (number : Signal)
    (foreground : Foreground) (fails : JobCall → Option IoError)
    (bridged : w.reader.state.bridged = true) :
    Hears c p items (.start c connection out err) arrived
      { w with
        reader := Session.signalled number foreground fails w.reader
        stage := w.stage.disturbed } := by
  have calms : Calms c p items w.reader.pending w.reader
      (Session.signalled number foreground fails w.reader) :=
    calms_signalled number foreground fails (hears.reliable reliable)
  exact hears.meanwhile (.signal number foreground fails bridged) rfl calms.adds.reliable

/-- A run over a connection that is not dropped is such a course. -/
theorem keptInRuns_hears (reliable : connection.buffer.writer.Reliable) {ending : Ending}
    (stays : ∀ reading writing, ending ≠ .dropped reading writing) :
    KeptInRuns c p items ending (Hears c p items (.start c connection out err)) where
  own _ _ _ _ busy here := here.own busy
  arrives here bytes waits := here.arrives reliable bytes waits
  closes here _ waits := here.closes reliable waits
  breaks here error _ waits := by
    have takes := here.reliable reliable
    exact here.meanwhile (.breaks error waits) rfl takes
  drops _ reading writing dropped := absurd dropped (stays reading writing)

end

/-! ## What the server has been sent -/

/-- The buffer of a connection that has just been opened: over the network the secret is on
its way. -/
def opened (w : Writer) : Option Bytes → SendBuffer
  | none => { writer := w }
  | some token =>
    match SendBuffer.send (authentication token) { writer := w } with
    | .ok _ buffer | .error _ buffer => buffer

/-- What a connection sends before its first line. -/
def leadOf : Option Bytes → Bytes
  | none => []
  | some token => authentication token

/-- The secret of an endpoint, if it has one. -/
def secretOf : Endpoint → Option Bytes
  | .socket _ => none
  | .network _ token => some token

/-- The connections of a machine are opened so. -/
theorem connect_opened {m : Machine} {endpoint : Endpoint} {link : Link}
    (connected : endpoint.connect m = .ok link) :
    link.connection.buffer = opened {} (secretOf endpoint) ∧ link.connection.ending = .closed := by
  cases endpoint with
  | socket path =>
      rw [Endpoint.connect] at connected
      split at connected
      · cases connected
        exact ⟨rfl, rfl⟩
      · split at connected <;> nomatch connected
  | network address token =>
      rw [Endpoint.connect] at connected
      split at connected
      · nomatch connected
      · split at connected
        case h_1 _ _ buffer sent =>
          cases connected
          rw [secretOf, opened, sent]
          exact ⟨rfl, rfl⟩
        case h_2 => nomatch connected

theorem stream_opened {w : Writer} (reliable : w.Reliable) (token : Option Bytes) :
    (opened w token).stream = leadOf token ∧ (opened w token).writer.Reliable := by
  cases token with
  | none => exact ⟨rfl, reliable⟩
  | some token =>
      obtain ⟨final, sent, still⟩ :=
        SendBuffer.send_reliable (b := { writer := w }) (authentication token) reliable
      rw [opened, sent]
      exact ⟨(SendBuffer.send_ok sent).1, still⟩

/-- What the server has been sent when the connection is closed, by a session that came to this
result when this had arrived. -/
structure Delivers (c : Config) (p : Platform) (items : List Item) (lead arrived : Bytes)
    (result : Except ClientError Outcome) (s : Session) (events : List (Event SessionEvent)) :
    Prop where
  /-- It was sent what the connection began with, and then one request for each number in order,
  and only lines of the bridge among them. -/
  sent : ∃ messages : List Message,
    s.close.buffer.taken = lead ++ messages.flatMap (Message.bytes c p items) ∧
      messages.filter Message.isRequest = (List.range (timesRefused events + 1)).map .request
  /-- The refusals are those among the lines of the server on which the session acted. -/
  refusals : ∃ begun, begun <+: Lines.segments arrived ∧
    timesRefused events = begun.countP isRefusal ∧
    ∀ outcome, result = .ok outcome → begun = Lines.segments arrived
  /-- All requests but the last could be built. -/
  built : ∀ number < timesRefused events, ∃ line, requestLine c p items number = .ok line
  /-- If the last could not, that is how the session ended. -/
  stops : ∀ e, requestLine c p items (timesRefused events) = .error e →
    result = .error e ∧ ∃ reason : TerminalError, e = .terminal reason.message

/-- A request that could not be built has no bytes, so it can be counted among those that were
sent. -/
theorem Halted.messages (halted : Halted c p items lead arrived requests passed result r) :
    ∃ messages, r.state.close.buffer.taken = lead ++ messages.flatMap (Message.bytes c p items) ∧
      Requests (timesRefused r.events + 1) messages := by
  obtain ⟨messages, stream, counted⟩ := halted.sent.stream
  rw [halted.sent.taken_close]
  rcases halted.last with sent | ⟨same, e, failed, -⟩
  · exact ⟨messages, stream, sent ▸ counted⟩
  · have none : Message.bytes c p items (.request requests) = [] := by
      rw [Message.bytes, failed]
      rfl
    refine ⟨messages ++ [.request requests], ?_, ?_⟩
    · rw [List.flatMap_append, List.flatMap_singleton, none, List.append_nil, stream]
    · rw [← same]
      exact counted.concat

theorem delivers_of_halted (halted : Halted c p items lead arrived requests passed result r) :
    Delivers c p items lead arrived result r.state r.events where
  sent := halted.messages
  refusals := by
    refine ⟨passed.filter (· ≠ []), ?_, ?_, fun outcome done => ?_⟩
    · rw [Lines.segments_eq]
      exact halted.among.filter _
    · rw [halted.refused, List.countP_filter]
      refine List.countP_congr fun line _ => ⟨fun refuses => ?_, fun both => ?_⟩
      · simp [refuses, ne_nil_of_isRefusal refuses]
      · exact (Bool.and_eq_true_iff.mp both).1
    · rw [halted.whole outcome done, Lines.segments_eq]
  built number below := by
    apply halted.sent.built number
    rcases halted.last with sent | ⟨same, -⟩
    · exact sent ▸ Nat.lt_succ_of_lt below
    · exact same ▸ below
  stops e failed := by
    obtain ⟨reason, -, -, shape⟩ := requestLine_error failed
    refine ⟨?_, reason, shape⟩
    rcases halted.last with sent | ⟨same, e', failed', ends⟩
    · have below : timesRefused r.events < requests := by
        rw [sent]
        exact Nat.lt_succ_self _
      obtain ⟨line, built⟩ := halted.sent.built _ below
      rw [built] at failed
      nomatch failed
    · rw [same, failed] at failed'
      cases failed'
      exact ends

/-- In every course of a session whose server takes all that is sent, of which each run over a
connection that is not dropped is one, and however many signals reach the bridge at whatever
moment: if the session can wait for the server as long as it is told to, then the server has
been sent, once the connection is closed, what the connection began with, the first request
with its opening, and for each refusal on which the session acts the request for the next
target; among these stand only the lines of the bridge. The first request that cannot be built,
for want of a terminal, ends the session. A session that is told not to wait at all ends before
its first request. -/
theorem session_delivers (c : Config) (p : Platform) (input : Bytes) {writer : Writer}
    (reliable : writer.Reliable) (token : Option Bytes) (arriving : List Bytes) {ending : Ending}
    (stays : ∀ reading writing, ending ≠ .dropped reading writing) (out err : Sink) :
    let items := Item.all c input
    let connection : Connection := { buffer := opened writer token, arriving, ending }
    let begun := Situation.start c connection out err
    let report := run c p input connection out err
    (∃ arrived w, Hears c p items begun arrived w ∧ arrived <+: arriving.flatten ∧
      (∀ outcome, report.result = .ok outcome → arrived = arriving.flatten) ∧
      w.stage = .finished report.result ∧ w.reader.state = report.session ∧
      w.reader.events = report.events) ∧
    ∀ arrived w result, Hears c p items begun arrived w → w.stage = .finished result →
      if c.timeout = some ⟨0⟩ then
        w.reader.state.close.buffer.taken = leadOf token ∧
          result = .error (.io "failed to set read timeout" .zeroTimeout)
      else
        Delivers c p items (leadOf token) arrived result w.reader.state w.reader.events := by
  intro items connection begun report
  obtain ⟨stream, still⟩ := stream_opened reliable token
  refine ⟨run_kept (keptInRuns_hears still stays) .start, ?_⟩
  intro arrived w result hears ended
  split
  case isTrue instant =>
      obtain ⟨same, stages⟩ := unchanged_of_instant instant hears
      have idle : Sent c p items (leadOf token) 0 begun.reader.state :=
        (sending_start still stream rfl rfl rfl).toSent
      rw [ended] at stages
      refine ⟨?_, ?_⟩
      · rw [same]
        exact idle.taken_close.trans stream
      · rcases stages with never | ends
        · cases never
        · cases ends
          rfl
  case isFalse lasting =>
      obtain ⟨requests, passed, halted⟩ := delivering_of_hears lasting still hears
      rw [ended] at halted
      exact stream ▸ delivers_of_halted halted

/-- A client with two displays that is asked to stop and is then refused twice, the second time
in a line that no newline ends, when its terminal has gone. A signal to stop it comes while it
waits, and another between the first refusal and the request that answers it. The secret is all
newlines, and the socket is slow. -/
theorem requests_sent_between_signals :
    let c := { twoDisplays with env := ⟨[(Bytes.ofText "TERM", Bytes.ofText "xterm")]⟩ }
    let p : Platform :=
      { terminal := fun number =>
          if number < 2 then Terminal.ofEnvironment (some (Bytes.ofText "/dev/pts/3")) c.env
          else .error .noName
        whileStopped := [(Signal.terminalStop, .yes), (Signal.continued, .yes)] }
    let items := Item.all c []
    let writer : Writer := { script := [.accepts 5, .interrupted] }
    let token := List.replicate 64 Bytes.newline
    let replies := Bytes.ofText "-suspend\n-window-system-unsupported\n-window-sys"
    let last := Bytes.ofText "tem-unsupported"
    let begun := Situation.start c { buffer := opened writer (some token) } {} {}
    let stopped (w : Situation) : Situation :=
      { w with
        reader := signalled Signal.terminalStop .yes (fun _ => none) w.reader
        stage := w.stage.disturbed }
    let told (bytes : Bytes) (w : Situation) : Situation :=
      { w with
        reader := { w.reader with pending := w.reader.pending ++ bytes }
        stage := .busy (takeIn (w.reader.pending ++ bytes) ++ [.tellAgain]) .read }
    let waiting := stopped ((advance c p items)^[7] begun)
    let acting := (advance c p items)^[7] (told replies waiting)
    let refused := stopped acting
    let again := (advance c p items)^[9] refused
    let read := (advance c p items)^[4] (told last again)
    let w := (advance c p items)^[4] { read with stage := .ending none }
    writer.Reliable ∧ Hears c p items begun (replies ++ last) w ∧
      w.stage = .finished (.error (.terminal "could not get terminal name")) ∧
      Delivers c p items (leadOf (some token)) (replies ++ last)
        (.error (.terminal "could not get terminal name")) w.reader.state w.reader.events ∧
      w.reader.state.close.buffer.taken = Bytes.ofText "-auth " ++ token ++ Bytes.ofText
        " -env TERM=xterm -dir /w/ -display :9 -tty /dev/pts/3 xterm -window-system -file f \n" ++
        suspendLine ++ suspendLine ++ resumeLine ++ suspendLine ++
        Bytes.ofText "-display :8 -tty /dev/pts/3 xterm -window-system -file f \n" := by
  intro c p items writer token replies last begun stopped told waiting acting refused again read w
  have reliable : writer.Reliable := ⟨rfl, by decide, by simp [writer]⟩
  have still : (opened writer (some token)).writer.Reliable :=
    (stream_opened reliable (some token)).2
  have starts : Hears c p items begun [] ((advance c p items)^[7] begun) := .advance .start 7
  have bridged : ((advance c p items)^[7] begun).reader.state.bridged = true := by decide +kernel
  have waits : waiting.stage = .waiting false := by decide +kernel
  have bridged' : acting.reader.state.bridged = true := by decide +kernel
  have waits' : again.stage = .waiting true := by decide +kernel
  have waits'' : read.stage = .waiting true := by decide +kernel
  have stops := starts.signalled still Signal.terminalStop .yes (fun _ => none) bridged
  have stops : Hears c p items begun [] waiting := stops
  have hears : Hears c p items begun replies (told replies waiting) :=
    stops.arrives still replies waits
  have acts : Hears c p items begun replies acting := hears.advance 7
  have refuses := acts.signalled still Signal.terminalStop .yes (fun _ => none) bridged'
  have refuses : Hears c p items begun replies refused := refuses
  have asks : Hears c p items begun replies again := refuses.advance 9
  have hears : Hears c p items begun (replies ++ last) (told last again) :=
    asks.arrives still last waits'
  have hears : Hears c p items begun (replies ++ last) read := hears.advance 4
  have closes := hears.closes still waits''
  have hears : Hears c p items begun (replies ++ last) w := closes.advance 4
  have ended : w.stage = .finished (.error (.terminal "could not get terminal name")) := by
    decide +kernel
  obtain ⟨-, each⟩ := session_delivers c p [] reliable (some token) []
    (fun reading writing => (nofun : Ending.closed ≠ .dropped reading writing)) {} {}
  have delivers := each _ w _ hears ended
  rw [if_neg (by decide)] at delivers
  exact ⟨reliable, hears, ended, delivers, by decide +kernel⟩

/-- A client that is told to wait for no time at all: not even its first request is sent. -/
theorem instant_session_sends_nothing :
    let c := { twoDisplays with
      createFrame := false, display := none, altDisplay := none, timeout := some ⟨0⟩ }
    let items := Item.all c []
    let report := run c withoutTerminal [] { arriving := [Bytes.ofText "-print x\n"] } {} {}
    requestLine c withoutTerminal items 0 =
        .ok (Bytes.ofText "-dir /w/ -current-frame -file f \n") ∧
      report.sent = [] ∧
      ∀ arrived, ¬ Delivers c withoutTerminal items (leadOf none) arrived report.result
        report.session report.events := by
  intro c items report
  have built : requestLine c withoutTerminal items 0 =
      .ok (Bytes.ofText "-dir /w/ -current-frame -file f \n") := by decide +kernel
  have nothing : report.sent = [] := by decide +kernel
  refine ⟨built, nothing, fun arrived delivers => ?_⟩
  obtain ⟨messages, sent, requests⟩ := delivers.sent
  have first : .request 0 ∈ messages := by
    apply List.mem_of_mem_filter (p := Message.isRequest)
    rw [requests]
    exact List.mem_map_of_mem (List.mem_range.mpr (Nat.succ_pos _))
  have silent : messages.flatMap (Message.bytes c withoutTerminal items) = [] :=
    sent.symm.trans nothing
  have unsent := List.flatMap_eq_nil_iff.mp silent _ first
  rw [Message.bytes, built] at unsent
  exact absurd unsent (by decide)

end EditorClient.Session
