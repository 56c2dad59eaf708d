/-
# What standard output is like when control is given away

A process that is stopped leaves the terminal to the one that started it, and so does a
run that has come to its end. Whoever comes next should find the cursor at the start of a
line, and nothing should come up on the terminal later.

`HandedOver` says this of all that has happened up to some moment. It is a matter of
standard output alone, since no more than standard output is ever flushed here. Then a set
flag is always right (`dispatch_flagHolds`), whatever the replies say, and so every stop
finds standard output handed over, also in a run that fails later.
-/

import EditorClient.Proofs.Reply.Output

namespace EditorClient

variable {σ ε : Type}

/-- All that reached standard output has been flushed. -/
def Flushed (events : List (Event ε)) : Prop :=
  ∀ before bytes after, events = before ++ .out bytes :: after → .flushed ∈ after

/-- Standard output has been flushed, and no line is open on it. -/
structure HandedOver (events : List (Event ε)) : Prop where
  closed : Lines.Closed (events.flatMap (Event.text false))
  flushed : Flushed events

/-- Standard output is handed over whenever the handler is told to stop the process. -/
def StopsHandedOver (events : List (Event ε)) : Prop :=
  ∀ before after, events = before ++ .suspend :: after → HandedOver before

variable {events more : List (Event ε)}

theorem flushed_concat (events : List (Event ε)) : Flushed (events ++ [.flushed]) := by
  intro before bytes after same
  rcases List.eq_nil_or_concat after with rfl | ⟨others, last, rfl⟩
  · nomatch (List.append_inj' same rfl).2
  · rw [List.concat_eq_append, ← List.cons_append, ← List.append_assoc] at same
    have ends : [.flushed] = [last] := (List.append_inj' same rfl).2
    rw [List.concat_eq_append, ← ends]
    exact List.mem_concat_self

/-- A flush hands over what has no open line. -/
theorem handedOver_concat (closed : Lines.Closed (events.flatMap (Event.text false))) :
    HandedOver (events ++ [.flushed]) where
  closed := by
    rw [List.flatMap_append]
    change Lines.Closed (_ ++ [])
    rwa [List.append_nil]
  flushed := flushed_concat events

theorem stopsHandedOver_nil : StopsHandedOver ([] : List (Event ε)) := by
  intro before after same
  exact absurd same.symm (List.append_ne_nil_of_right_ne_nil before (List.cons_ne_nil _ _))

/-- What brings no stop makes no difference. -/
theorem StopsHandedOver.append (stops : StopsHandedOver events) (none : .suspend ∉ more) :
    StopsHandedOver (events ++ more) := by
  intro before after same
  rcases List.append_eq_append_iff.mp same with ⟨rest, rfl, late⟩ | ⟨rest, early, late⟩
  · exact absurd (late ▸ List.mem_append_right rest List.mem_cons_self) none
  · cases rest with
    | nil =>
        rw [List.nil_append] at late
        exact absurd (late ▸ List.mem_cons_self) none
    | cons event rest =>
        rw [List.cons_append] at late
        obtain ⟨rfl, -⟩ := List.cons.inj late
        exact stops before rest early

/-- A stop where standard output is handed over. -/
theorem StopsHandedOver.concat (stops : StopsHandedOver events) (here : HandedOver events) :
    StopsHandedOver (events ++ [.suspend]) := by
  intro before after same
  rcases List.eq_nil_or_concat after with rfl | ⟨others, last, rfl⟩
  · exact (List.append_inj' same rfl).1 ▸ here
  · rw [List.concat_eq_append, ← List.cons_append, ← List.append_assoc] at same
    exact stops before others (List.append_inj' same rfl).1

namespace ReplyReader

variable {h : ReplyHandler σ ε} {r q : ReplyReader σ ε}

/-! ## Actions -/

theorem stopsHandedOver_record (stops : StopsHandedOver r.events) {events : List (Event ε)}
    (none : .suspend ∉ events) : StopsHandedOver (record events r).events := by
  rw [events_record]
  exact stops.append none

theorem stopsHandedOver_acted {f : σ → Except ClientError Unit × σ × List ε}
    (stops : StopsHandedOver r.events) : StopsHandedOver (acted f r).events :=
  stopsHandedOver_record (r := { r with state := (f r.state).2.1 }) stops (by simp)

/-- An action that is no stop. -/
theorem perform_stopsHandedOver (h : ReplyHandler σ ε) {action : Action}
    (other : action ≠ .suspend) :
    Preserves (fun r => StopsHandedOver r.events) (perform h action) := by
  intro r stops
  have still (q : ReplyReader σ ε) (did : Did action r q) : StopsHandedOver q.events := by
    obtain ⟨more, same, quiet⟩ := did.events
    rw [same]
    exact stops.append fun there => other (quiet there)
  exact (perform_did h action r).mono (fun _ => still) fun _ => still

/-- A stop where standard output is handed over. -/
theorem suspend_stopsHandedOver (stops : StopsHandedOver r.events) (here : HandedOver r.events) :
    Ends (fun _ q => StopsHandedOver q.events) (fun _ q => StopsHandedOver q.events)
      (perform h .suspend r) := by
  have told : StopsHandedOver (r.record [.suspend]).events := by
    rw [events_record]
    exact stops.concat here
  rw [perform_suspend]
  exact act_ends (fun _ => stopsHandedOver_acted told) fun _ _ => stopsHandedOver_acted told

/-- Actions without a stop. -/
theorem performAll_stopsHandedOver (h : ReplyHandler σ ε) {actions : List Action}
    (others : .suspend ∉ actions) :
    Preserves (fun r => StopsHandedOver r.events) (performAll h actions) :=
  .forM fun _ there => perform_stopsHandedOver h fun same => others (same ▸ there)

/-- Actions and a flush hand over what has no open line after them. -/
theorem flush_handsOver {actions : List Action}
    (closed : Lines.Closed (r.text false ++ actions.flatMap (Action.text false)))
    (done : performAll h (actions ++ [.flush]) r = .ok () q) : HandedOver q.events := by
  rw [performAll_append] at done
  obtain ⟨_, t, first, flushes⟩ := bind_eq_ok.mp done
  rw [performAll, forM_singleton] at flushes
  obtain ⟨-, rfl⟩ := flushOut_ok flushes
  rw [flushedOut, events_record]
  apply handedOver_concat
  change Lines.Closed (t.text false)
  rwa [(performAll_text false first).1]

/-! ## Lines -/

/-- A reader whose flag is right, and that has handed over at every stop. -/
structure Tidy (r : ReplyReader σ ε) : Prop where
  flag : FlagHolds false r
  stops : StopsHandedOver r.events

/-- Before it stops the process, a reader ends its line and flushes. -/
theorem suspension_stopsHandedOver (tidy : Tidy r) :
    Ends (fun _ q => StopsHandedOver q.events) (fun _ q => StopsHandedOver q.events)
      (performAll h (Reply.suspend.actions r.atLineStart r.suppressed) r) := by
  let due := Reply.freshLine r.atLineStart ++ [.atLineStart true]
  have parts : Reply.suspend.actions r.atLineStart r.suppressed =
      (due ++ [.flush]) ++ [.suspend] := by
    simp [Reply.actions, due]
  have others : .suspend ∉ due ++ [.flush] := by
    simp only [due]
    cases r.atLineStart <;> simp [Reply.freshLine]
  have closed : Lines.Closed (r.text false ++ due.flatMap (Action.text false)) := by
    rw [List.flatMap_append, ← List.append_assoc]
    change Lines.Closed (_ ++ [])
    rw [List.append_nil]
    exact Reply.closed_freshLine false tidy.flag
  have before := (performAll_stopsHandedOver h others tidy.stops).and
    (.of_ok fun _ _ done => flush_handsOver closed done)
  rw [parts, performAll_append]
  apply (before.mono_failed fun _ _ failed => failed.1).bind
  rintro _ t ⟨stops, handed⟩
  rw [performAll, forM_singleton]
  exact suspend_stopsHandedOver stops handed

theorem suspend_not_mem_actions {reply : Reply} (other : reply ≠ .suspend)
    (atLineStart suppressed : Bool) : .suspend ∉ reply.actions atLineStart suppressed := by
  rw [Reply.mem_actions_iff rfl]
  cases reply with
  | suspend => exact absurd rfl other
  | serverPid | windowSystemUnsupported | error =>
      exact fun there => nomatch List.mem_singleton.mp there
  | print | printNoNewline | unknown => exact List.not_mem_nil

/-- Acting on a line keeps a reader tidy, and one that fails has handed over at every stop. -/
theorem dispatch_tidy (line : Bytes) (tidy : Tidy r) :
    Ends (fun _ => Tidy) (fun _ q => StopsHandedOver q.events) (dispatch h line r) := by
  have stops : Ends (fun _ q => StopsHandedOver q.events) (fun _ q => StopsHandedOver q.events)
      (dispatch h line r) := by
    by_cases empty : line = []
    · subst empty
      exact .ok tidy.stops
    · rw [dispatch_of_ne_nil h empty]
      by_cases suspends : Reply.parse line = .suspend
      · rw [suspends]
        exact suspension_stopsHandedOver tidy
      · exact performAll_stopsHandedOver h (suspend_not_mem_actions suspends _ _) tidy.stops
  have flag : Ends (fun _ q => FlagHolds false q) (fun _ _ => True) (dispatch h line r) :=
    .of_ok fun _ _ done => dispatch_flagHolds tidy.flag nofun done
  exact (stops.and flag).mono (fun _ _ both => ⟨both.2, both.1⟩) fun _ _ failed => failed.1

/-! ## Turns -/

/-- Where a reader comes to its end, it hands over standard output. -/
theorem closing_handsOver (tidy : Tidy r) :
    Ends (fun _ q => Tidy q ∧ HandedOver q.events) (fun _ q => StopsHandedOver q.events)
      (closing h r) := by
  let due : List Action :=
    if r.atLineStart then [] else [.out [Bytes.newline], .atLineStart true]
  have others : .suspend ∉ due ++ [.flush] := by
    simp only [due]
    split <;> simp
  have closed : Lines.Closed (r.text false ++ due.flatMap (Action.text false)) := by
    simp only [due]
    split
    case isTrue set =>
      change Lines.Closed (r.text false ++ [])
      rw [List.append_nil]
      exact tidy.flag set
    case isFalse => exact Lines.closed_concat_newline (r.text false)
  have closes := (performAll_stopsHandedOver h others tidy.stops).and
    (.of_ok fun _ _ done => flush_handsOver closed done)
  rw [closing_apply]
  apply (closes.mono_failed fun _ _ failed => failed.1).bind
  rintro _ t ⟨stops, handed⟩
  exact .ok ⟨⟨fun _ => handed.closed, stops⟩, handed⟩

theorem finish_handsOver (tidy : Tidy r) :
    Ends (fun _ q => Tidy q ∧ HandedOver q.events) (fun _ q => StopsHandedOver q.events)
      (finish h r) := by
  have idle : Tidy { r with pending := [] } := ⟨tidy.flag, tidy.stops⟩
  rw [finish_apply]
  apply (dispatch_tidy r.pending idle).bind
  intro _ t tidy
  exact closing_handsOver tidy

/-- Taking in bytes acts on lines, and then flushes. -/
theorem feed_tidy (bytes : Bytes) (tidy : Tidy r) :
    Ends (fun _ => Tidy) (fun _ q => StopsHandedOver q.events) (feed h bytes r) := by
  have arrived : Tidy { r with pending := r.pending ++ bytes } := ⟨tidy.flag, tidy.stops⟩
  have lines := Ends.forM (fun _ => Tidy) (fun _ _ q => StopsHandedOver q.events)
    (Lines.complete (r.pending ++ bytes)) (fun _ line _ _ tidy => dispatch_tidy (h := h) line tidy)
    [] arrived
  rw [feed_apply]
  apply (lines.mono_failed fun _ _ ⟨_, _, failed⟩ => failed).bind
  intro _ t tidy
  have kept : Tidy { t with pending := Lines.tail (r.pending ++ bytes) } :=
    ⟨tidy.flag, tidy.stops⟩
  have flushed : Tidy (flushedOut { t with pending := Lines.tail (r.pending ++ bytes) }) :=
    ⟨kept.flag.flushed, stopsHandedOver_record kept.stops (by simp)⟩
  exact flushOut_ends flushed fun _ => kept.stops

/-- A turn keeps a reader tidy, and one that fails has handed over at every stop. -/
theorem turn_tidy (turn : Turn) (tidy : Tidy r) :
    Ends (fun _ q => Tidy q ∧ (turn = .finish → HandedOver q.events))
      (fun _ q => StopsHandedOver q.events) (turn.run h r) := by
  cases turn with
  | message text =>
      have others : .suspend ∉ Reply.openLine text := by simp [Reply.openLine]
      have shows := (performAll_stopsHandedOver h others tidy.stops).and
        (.of_ok fun _ _ done => showOpen_flagHolds false done)
      exact shows.mono (fun _ _ ended => ⟨⟨ended.2, ended.1⟩, nofun⟩) fun _ _ failed => failed.1
  | feed bytes => exact (feed_tidy bytes tidy).mono (fun _ _ tidy => ⟨tidy, nofun⟩) fun _ _ => id
  | finish => exact (finish_handsOver tidy).bind fun _ _ ended => .ok ⟨ended.1, fun _ => ended.2⟩

/-- Any turns. The induction is on the turns, and each begins where the last one left a
tidy reader. -/
theorem runTurns_tidy (turns : List Turn) (tidy : Tidy r) :
    Ends (fun _ q => Tidy q ∧ (turns.getLast? = some .finish → HandedOver q.events))
      (fun _ q => StopsHandedOver q.events) (runTurns h turns r) := by
  induction turns generalizing r with
  | nil => exact .ok ⟨tidy, nofun⟩
  | cons turn rest ih =>
      apply (turn_tidy turn tidy).bind
      rintro _ t ⟨tidy, handed⟩
      cases rest with
      | nil => exact .ok ⟨tidy, fun last => handed (Option.some.inj last)⟩
      | cons next others => exact ih tidy

/-- Whatever a new reader is given to read and to show, in any order, and however its
handler answers: wherever the handler is told to stop the process, standard output has been
flushed and has no open line on it, also in a run that fails later. And so it is where the
run has come to its end. -/
theorem runTurns_handsOver (h : ReplyHandler σ ε) (suppressed : Bool) (out err : Sink) (s : σ)
    (turns : List Turn) :
    Ends (fun _ q => StopsHandedOver q.events ∧
        (turns.getLast? = some .finish → HandedOver q.events))
      (fun _ q => StopsHandedOver q.events)
      (runTurns h turns { suppressed, out, err, state := s }) := by
  have new : Tidy ({ suppressed, out, err, state := s } : ReplyReader σ ε) :=
    ⟨fun _ => Lines.closed_nil, stopsHandedOver_nil⟩
  apply (runTurns_tidy turns new).mono
  · rintro _ q ⟨tidy, handed⟩
    exact ⟨tidy.stops, handed⟩
  · intro _ _ stops
    exact stops

end ReplyReader

end EditorClient
