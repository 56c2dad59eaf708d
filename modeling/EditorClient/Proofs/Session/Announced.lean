/-
# Signals go to the process that was announced

The process number that a session knows is that of the last line that gave one. The bridge
forwards signals to that number and to no other, and to none if it is not positive.

Only a line that gives a number changes it. Every other line leaves it as it is, also where
acting on the line fails, and whatever signals the bridge acts on while the process is
stopped. A line that ought to give a number and does not is reported, and that is all.
-/

import EditorClient.Proofs.Reply.Output
import EditorClient.Proofs.Reply.ProcessNumber
import EditorClient.Proofs.Session.Effects
import EditorClient.Proofs.Session.Messages

namespace EditorClient

open Bytes

/-! ## The last announcement -/

namespace Reply

/-- The last of these lines that gives a process number gives this one. -/
def LastAnnounced (lines : List Bytes) (pid : Int32) : Prop :=
  ∃ before line after, lines = before ++ line :: after ∧ Announces line pid ∧
    ∀ other ∈ after, ∀ number, ¬ Announces other number

/-- What is known after these lines: the number that was announced last, and 0 before any
was. -/
def KnownAfter (lines : List Bytes) (pid : Int32) : Prop :=
  LastAnnounced lines pid ∨ (∀ line ∈ lines, ∀ number, ¬ Announces line number) ∧ pid = 0

variable {lines : List Bytes} {line : Bytes} {pid : Int32}

theorem KnownAfter.announced (announces : Announces line pid) : KnownAfter (lines ++ [line]) pid :=
  .inl ⟨lines, line, [], rfl, announces, List.forall_mem_nil _⟩

theorem KnownAfter.other (known : KnownAfter lines pid)
    (silent : ∀ number, ¬ Announces line number) : KnownAfter (lines ++ [line]) pid := by
  rcases known with ⟨before, announcing, after, rfl, announces, last⟩ | ⟨none, rfl⟩
  · left
    refine ⟨before, announcing, after ++ [line], ?_, announces, ?_⟩
    · rw [List.append_assoc, List.cons_append]
    · intro other there
      rcases List.mem_append.mp there with early | late
      · exact last other early
      · exact List.mem_singleton.mp late ▸ silent
  · right
    refine ⟨?_, rfl⟩
    intro other there
    rcases List.mem_append.mp there with early | late
    · exact none other early
    · exact List.mem_singleton.mp late ▸ silent

/-- A positive number that is known was announced. -/
theorem KnownAfter.of_pos (known : KnownAfter lines pid) (positive : 0 < pid) :
    LastAnnounced lines pid := by
  rcases known with announced | ⟨-, rfl⟩
  · exact announced
  · exact absurd positive (by decide)

end Reply

namespace Session

/-! ## What the bridge forwards -/

/-- Signals are forwarded to this process only, and to none if its number is not positive. -/
def ForwardsTo (pid : Int32) (calls : List JobCall) : Prop :=
  ∀ goal number, .forward goal number ∈ calls → 0 < goal ∧ goal = pid

theorem forwardsTo_due (b : Bridge) (number : Signal) :
    ForwardsTo b.pid ((b.due number).filterMap Bridge.Effect.call?) := by
  intro goal passed there
  rw [Bridge.due_eq] at there
  cases meaning : intent number b.foreground b.onTerminal with
  | forward number =>
      rw [meaning, Bridge.effectsOf] at there
      split at there
      case isTrue positive =>
          cases List.mem_singleton.mp there
          exact ⟨positive, rfl⟩
      case isFalse => exact absurd there List.not_mem_nil
  | stopGroup | suspend =>
      rw [meaning] at there
      cases List.mem_singleton.mp there
  | resume | ignore =>
      rw [meaning] at there
      exact absurd there List.not_mem_nil

/-- Whatever fails, the bridge forwards to the number that it sees. -/
theorem forwardsTo_handle (b : Bridge) (number : Signal) (buffer : SendBuffer) :
    ForwardsTo b.pid (b.handle number buffer).calls := by
  rw [Bridge.calls_handle]
  exact forwardsTo_due b number

theorem ForwardsTo.append {pid : Int32} {first later : List JobCall}
    (here : ForwardsTo pid first) (after : ForwardsTo pid later) :
    ForwardsTo pid (first ++ later) := fun goal number there =>
  (List.mem_append.mp there).elim (here goal number) (after goal number)

theorem forwardsTo_nil (pid : Int32) : ForwardsTo pid [] :=
  fun _ _ there => absurd there List.not_mem_nil

/-- The call that an event is, if it is one. -/
def callOf : Event SessionEvent → Option JobCall
  | .handler (.job call) => some call
  | _ => none

/-- The calls among events, in order. -/
def callsOf (events : List (Event SessionEvent)) : List JobCall := events.filterMap callOf

theorem callsOf_append (events more : List (Event SessionEvent)) :
    callsOf (events ++ more) = callsOf events ++ callsOf more :=
  List.filterMap_append

/-- What a part of a session leaves: the process number is the same, and signals have been
forwarded to it only. -/
structure Leaves (s s' : Session) (reports : List SessionEvent) : Prop where
  pid : s'.pid = s.pid
  forwards : ForwardsTo s.pid (callsOf (reports.map .handler))

variable {c : Config} {p : Platform} {items : List Item}

/-- What the bridge sees when a signal arrives, and how the system fails. -/
def sees (s : Session) (foreground : Foreground)
    (fails : JobCall → Option IoError := fun _ => none) : Bridge :=
  { foreground, onTerminal := s.onTerminal, pid := s.pid, fails }

theorem callsOf_jobs (calls : List JobCall) :
    callsOf ((calls.map SessionEvent.job).map .handler) = calls := by
  rw [callsOf, List.map_map, List.filterMap_map]
  exact List.filterMap_some

theorem callsOf_signal (s : Session) (number : Signal) (foreground : Foreground) :
    callsOf ((s.signal number foreground).2.map .handler) =
      ((s.sees foreground).handle number s.buffer).calls := by
  rw [signal, List.map_append, callsOf_append, callsOf_jobs]
  split <;> exact List.append_nil _

theorem leaves_signal (s : Session) (number : Signal) (foreground : Foreground) :
    Leaves s (s.signal number foreground).1 (s.signal number foreground).2 where
  pid := rfl
  forwards := by
    rw [callsOf_signal]
    exact forwardsTo_handle (s.sees foreground) number s.buffer

theorem leaves_signals (list : List (Signal × Foreground)) (s : Session) :
    Leaves s (signals list s).1 (signals list s).2 := by
  induction list generalizing s with
  | nil => exact ⟨rfl, forwardsTo_nil _⟩
  | cons first rest ih =>
      have here := leaves_signal s first.1 first.2
      have later := ih (s.signal first.1 first.2).1
      refine ⟨later.pid.trans here.pid, ?_⟩
      rw [signals, List.map_append, callsOf_append]
      apply here.forwards.append
      exact here.pid ▸ later.forwards

theorem leaves_suspend (p : Platform) (s : Session) :
    Leaves s (suspend p s).1 (suspend p s).2 := by
  rw [suspend]
  split
  · exact leaves_signals p.whileStopped s
  · exact ⟨rfl, forwardsTo_nil _⟩

/-- Sending a request has nothing to do with the process number, and the bridge no part
in it. -/
theorem quiet_request (c : Config) (p : Platform) (items : List Item) (opening : Request)
    (s : Session) :
    (request c p items opening s).2.1.pid = s.pid ∧
      callsOf ((request c p items opening s).2.2.map .handler) = [] := by
  have counted : (asking c s).pid = s.pid := by
    rw [asking_eq]
  have events : callsOf ((if c.wantsTerminal then
      [SessionEvent.terminal (p.terminal s.asked).isOk] else []).map .handler) = [] := by
    split <;> rfl
  rw [request_eq]
  dsimp only
  split
  · exact ⟨counted, events⟩
  · split
    · exact ⟨counted, events⟩
    · split
      · refine ⟨counted, ?_⟩
        rw [List.map_append, callsOf_append, events]
        rfl
      · exact ⟨counted, events⟩

theorem leaves_fallBack (c : Config) (p : Platform) (items : List Item) (s : Session) :
    Leaves s (fallBack c p items s).2.1 (fallBack c p items s).2.2 := by
  obtain ⟨same, quiet⟩ := quiet_request c p items []
    { s with target := s.target.fallBack, onTerminal := s.target.fallBack.terminal, resent := true }
  refine ⟨same, ?_⟩
  rw [fallBack]
  exact quiet ▸ forwardsTo_nil _

/-! ## What a reader is left with -/

/-- What has been recorded since then, in which signals are forwarded to the number that was
known then. -/
def Forwarded (r q : ReplyReader Session SessionEvent) : Prop :=
  ∃ more, q.events = r.events ++ more ∧ ForwardsTo r.state.pid (callsOf more)

/-- The bridge has made no call since then. -/
def NoCalls (r q : ReplyReader Session SessionEvent) : Prop :=
  ∃ more, q.events = r.events ++ more ∧ callsOf more = []

/-- Only the output has changed since then. -/
structure Shows (r q : ReplyReader Session SessionEvent) : Prop where
  state : q.state = r.state
  pending : q.pending = r.pending
  events : NoCalls r q

/-- The process number has not changed since then, nor what was kept of a line, and the
bridge has made no call. -/
structure Apart (r q : ReplyReader Session SessionEvent) : Prop where
  pid : q.state.pid = r.state.pid
  pending : q.pending = r.pending
  events : NoCalls r q

/-- The process number has not changed since then, and signals have been forwarded to it
only. -/
structure Stays (r q : ReplyReader Session SessionEvent) : Prop where
  pid : q.state.pid = r.state.pid
  events : Forwarded r q

variable {r q t : ReplyReader Session SessionEvent}

theorem noCalls_of_log (same : q.log = r.log) : NoCalls r q :=
  ⟨[], by rw [ReplyReader.events, same, List.append_nil, ReplyReader.events], rfl⟩

theorem NoCalls.trans (here : NoCalls r q) (later : NoCalls q t) : NoCalls r t := by
  obtain ⟨more, grown, quiet⟩ := here
  obtain ⟨others, grown', quiet'⟩ := later
  refine ⟨more ++ others, ?_, ?_⟩
  · rw [grown', grown, List.append_assoc]
  · rw [callsOf_append, quiet, quiet', List.append_nil]

theorem NoCalls.forwarded (none : NoCalls r q) : Forwarded r q := by
  obtain ⟨more, grown, quiet⟩ := none
  exact ⟨more, grown, quiet ▸ forwardsTo_nil _⟩

theorem Shows.refl (r : ReplyReader Session SessionEvent) : Shows r r :=
  ⟨rfl, rfl, noCalls_of_log rfl⟩

theorem Shows.trans (here : Shows r q) (later : Shows q t) : Shows r t where
  state := later.state.trans here.state
  pending := later.pending.trans here.pending
  events := here.events.trans later.events

theorem Shows.apart (shown : Shows r q) : Apart r q :=
  ⟨congrArg Session.pid shown.state, shown.pending, shown.events⟩

theorem Apart.refl (r : ReplyReader Session SessionEvent) : Apart r r := (Shows.refl r).apart

theorem Apart.trans (here : Apart r q) (later : Apart q t) : Apart r t where
  pid := later.pid.trans here.pid
  pending := later.pending.trans here.pending
  events := here.events.trans later.events

theorem Apart.stays (apart : Apart r q) : Stays r q := ⟨apart.pid, apart.events.forwarded⟩

theorem Stays.refl (r : ReplyReader Session SessionEvent) : Stays r r := (Apart.refl r).stays

theorem Stays.trans (here : Stays r q) (later : Stays q t) : Stays r t := by
  obtain ⟨more, grown, forwards⟩ := here.events
  obtain ⟨others, grown', forwards'⟩ := later.events
  refine ⟨later.pid.trans here.pid, more ++ others, ?_, ?_⟩
  · rw [grown', grown, List.append_assoc]
  · rw [callsOf_append]
    exact forwards.append (here.pid ▸ forwards')

/-- Events that are no calls are recorded. -/
theorem shows_record {more : List (Event SessionEvent)} (quiet : callsOf more = [])
    (state : q.state = r.state) (pending : q.pending = r.pending) (log : q.log = r.log) :
    Shows r (q.record more) := by
  refine ⟨state, pending, more, ?_, quiet⟩
  rw [ReplyReader.events_record, ReplyReader.events, log, ReplyReader.events]

/-- An action that concerns the output only. -/
theorem perform_shows (h : ReplyHandler Session SessionEvent) {action : Action}
    (output : action.isOutput = true) (r : ReplyReader Session SessionEvent) :
    Ends (fun _ => Shows r) (fun _ => Shows r) (ReplyReader.perform h action r) := by
  cases action with
  | out bytes =>
      have wrote : Shows r (ReplyReader.wroteOut bytes r) :=
        shows_record (by split <;> rfl) rfl rfl rfl
      exact ReplyReader.writeOut_ends wrote fun _ => wrote
  | err bytes =>
      have wrote : Shows r (ReplyReader.wroteErr bytes r) :=
        shows_record (by split <;> rfl) rfl rfl rfl
      have reported : Shows r (ReplyReader.reported bytes r) :=
        ⟨wrote.state, wrote.pending, wrote.events⟩
      exact ReplyReader.perform_err_ends reported (fun _ => wrote) fun _ => reported
  | flush =>
      have unflushed : Shows r { r with out := r.out.flushed } := ⟨rfl, rfl, noCalls_of_log rfl⟩
      exact ReplyReader.flushOut_ends (shows_record rfl rfl rfl rfl) fun _ => unflushed
  | atLineStart => exact .ok ⟨rfl, rfl, noCalls_of_log rfl⟩
  | serverError | serverPid | unsupported | suspend => nomatch output

theorem performAll_shows (h : ReplyHandler Session SessionEvent) {actions : List Action}
    (output : ∀ action ∈ actions, action.isOutput = true)
    (r : ReplyReader Session SessionEvent) :
    Ends (fun _ => Shows r) (fun _ => Shows r) (ReplyReader.performAll h actions r) := by
  have kept : ∀ action ∈ actions, Preserves (Shows r) (ReplyReader.perform h action) := by
    intro action there q here
    exact (perform_shows h (output action there) q).mono (fun _ _ => here.trans)
      fun _ _ => here.trans
  exact Preserves.forM kept (Shows.refl r)

theorem performAll_apart (h : ReplyHandler Session SessionEvent) {actions : List Action}
    (output : ∀ action ∈ actions, action.isOutput = true)
    (r : ReplyReader Session SessionEvent) :
    Ends (fun _ => Apart r) (fun _ => Apart r) (ReplyReader.performAll h actions r) :=
  (performAll_shows h output r).mono (fun _ _ => Shows.apart) fun _ _ => Shows.apart

/-! ## Acting on lines -/

theorem act_stays {f : Session → Except ClientError Unit × Session × List SessionEvent}
    (leaves : ∀ s, Leaves s (f s).2.1 (f s).2.2) (r : ReplyReader Session SessionEvent) :
    Ends (fun _ => Stays r) (fun _ => Stays r) (ReplyReader.act f r) := by
  have stays : Stays r (ReplyReader.acted f r) :=
    ⟨(leaves r.state).pid, _, ReplyReader.events_acted f r, (leaves r.state).forwards⟩
  exact ReplyReader.act_ends (fun _ => stays) fun _ _ => stays

/-- Only one action changes the number. -/
theorem perform_stays {action : Action} (other : ∀ pid, action ≠ .serverPid pid)
    (r : ReplyReader Session SessionEvent) :
    Ends (fun _ => Stays r) (fun _ => Stays r)
      (ReplyReader.perform (handler c p items) action r) := by
  cases action with
  | out | err | flush | atLineStart =>
      exact (perform_shows _ rfl r).mono (fun _ _ shown => shown.apart.stays)
        fun _ _ shown => shown.apart.stays
  | serverError => exact .ok ⟨rfl, (Stays.refl r).events⟩
  | serverPid pid => exact absurd rfl (other pid)
  | unsupported =>
      have told : Stays r (r.record [.unsupported]) :=
        (shows_record rfl rfl rfl rfl).apart.stays
      rw [ReplyReader.perform_unsupported]
      exact (act_stays (leaves_fallBack c p items) _).mono (fun _ _ => told.trans)
        fun _ _ => told.trans
  | suspend =>
      have told : Stays r (r.record [.suspend]) := (shows_record rfl rfl rfl rfl).apart.stays
      rw [ReplyReader.perform_suspend]
      exact (act_stays (leaves_suspend p) _).mono (fun _ _ => told.trans) fun _ _ => told.trans

theorem performAll_stays {actions : List Action} (other : ∀ pid, .serverPid pid ∉ actions)
    (r : ReplyReader Session SessionEvent) :
    Ends (fun _ => Stays r) (fun _ => Stays r)
      (ReplyReader.performAll (handler c p items) actions r) := by
  apply Ends.forM_same (I := Stays r) _ (Stays.refl r)
  intro action there q stays
  have not_pid : ∀ pid, action ≠ .serverPid pid := fun pid same => other pid (same ▸ there)
  exact (perform_stays not_pid q).mono (fun _ _ => stays.trans) fun _ _ => stays.trans

/-- A line that gives no number leaves the one that is known, also where acting on it
fails. -/
theorem dispatch_stays {line : Bytes} (silent : ∀ pid, ¬ Reply.Announces line pid)
    (r : ReplyReader Session SessionEvent) :
    Ends (fun _ => Stays r) (fun _ => Stays r)
      (ReplyReader.dispatch (handler c p items) line r) := by
  by_cases empty : line = []
  · subst empty
    exact .ok (Stays.refl r)
  · rw [ReplyReader.dispatch_of_ne_nil _ empty]
    apply performAll_stays
    intro pid there
    rw [Reply.mem_actions_iff rfl] at there
    have given : Reply.parse line = .serverPid pid := by
      cases reply : Reply.parse line with
      | serverPid number =>
          rw [reply] at there
          cases List.mem_singleton.mp there
          rfl
      | windowSystemUnsupported | error | suspend =>
          rw [reply] at there
          nomatch List.mem_singleton.mp there
      | print | printNoNewline | unknown =>
          rw [reply] at there
          nomatch there
    exact silent pid (Reply.parse_eq_serverPid_iff.mp given)

/-- A line that gives a number makes it known, and nothing else happens. -/
theorem dispatch_announces {line : Bytes} {pid : Int32} (announces : Reply.Announces line pid)
    (r : ReplyReader Session SessionEvent) :
    ReplyReader.dispatch (handler c p items) line r =
      .ok () (ReplyReader.record [.serverPid pid] { r with state := { r.state with pid } }) := by
  have nonempty : line ≠ [] := by
    rintro rfl
    nomatch Reply.parse_eq_serverPid_iff.mpr announces
  rw [ReplyReader.dispatch_of_ne_nil _ nonempty, Reply.parse_eq_serverPid_iff.mpr announces]
  rfl

/-- What is shown of a line that is not known, on a line of its own. -/
def unknownMessage (atLineStart : Bool) (line : Bytes) : Bytes :=
  (if atLineStart then [] else [newline]) ++
    (ofText "*ERROR*: Unknown message: " ++ (line ++ [newline]))

/-- A line that ought to give a number and does not is reported, and changes nothing but the
output. -/
theorem dispatch_malformed (h : ReplyHandler Session SessionEvent) {line : Bytes}
    (form : Reply.IsPidLine line) (malformed : ∀ pid, ¬ Reply.Announces line pid)
    (r : ReplyReader Session SessionEvent) :
    Ends (fun _ q => q.state = r.state ∧
        q.text false = r.text false ++ unknownMessage r.atLineStart line)
      (fun _ q => q.state = r.state) (ReplyReader.dispatch h line r) := by
  have nonempty : line ≠ [] := by
    rintro rfl
    nomatch form
  rw [ReplyReader.dispatch_of_ne_nil _ nonempty, Reply.parse_of_not_announces form malformed]
  have output : ∀ action ∈ (Reply.unknown line).actions r.atLineStart r.suppressed,
      action.isOutput = true := by
    cases r.atLineStart <;> simp [Reply.actions, Reply.freshLine, Action.isOutput]
  have message : ((Reply.unknown line).actions r.atLineStart r.suppressed).flatMap
      (Action.text false) = unknownMessage r.atLineStart line := by
    cases r.atLineStart <;> simp [Reply.actions, Reply.freshLine, Action.text, unknownMessage]
  have shown := performAll_shows h output r
  generalize ended : ReplyReader.performAll h _ r = result at shown ⊢
  cases shown with
  | ok shown => exact .ok ⟨shown.state, message ▸ (ReplyReader.performAll_text false ended).1⟩
  | error shown => exact .error shown.state

end Session

end EditorClient
