/-
# Signals at any time

Signals arrive between any two lines, while bytes are awaited, and while the process is
stopped. So a session is taken apart into moves. One takes in bytes, one acts on a line, one
lets the bridge act on a signal, and one stands for all that does not concern the process
number. Whichever moves are made in whichever order, and whichever of them fail, the number
that is known is that of the last line that gave one and has been acted on, and signals are
forwarded to it only. A session in which signals arrive only while it is stopped is such a
run of moves.
-/

import EditorClient.Proofs.Session.Announced
import EditorClient.Proofs.Session.WaitingMessage
import Mathlib.Logic.Relation

namespace EditorClient.Session

open Bytes

variable {c : Config} {p : Platform} {items : List Item}
  {r q : ReplyReader Session SessionEvent}

/-! ## Moves -/

/-- What a session is about. -/
inductive Phase
  /-- It waits for bytes. -/
  | awaiting
  /-- It acts on lines that have arrived, and will keep what follows them. -/
  | acting (lines : List Bytes) (rest : Bytes)
  /-- It has acted on the last line, which no newline ended. -/
  | finished

/-- A session on its way: besides the reader, the bytes that have arrived and the lines that
have been acted on. -/
structure Progress where
  reader : ReplyReader Session SessionEvent
  phase : Phase := .awaiting
  arrived : Bytes := []
  passed : List Bytes := []

/-- The state in which a step leaves a reader, whether it works or fails. -/
def leftBy {α : Type} (step : Step α) (r : ReplyReader Session SessionEvent) :
    ReplyReader Session SessionEvent :=
  match step r with
  | .ok _ q => q
  | .error _ q => q

/-- The reader after the bridge acted on a signal. -/
def signalled (number : Signal) (foreground : Foreground) (fails : JobCall → Option IoError)
    (r : ReplyReader Session SessionEvent) : ReplyReader Session SessionEvent :=
  let handled := (r.state.sees foreground fails).handle number r.state.buffer
  ReplyReader.record ((handled.calls.map SessionEvent.job).map .handler)
    { r with state := { r.state with buffer := handled.buffer } }

/-- The moves of a session. -/
inductive Move (h : ReplyHandler Session SessionEvent) (w : Progress) : Progress → Prop
  /-- Bytes arrive. -/
  | arrives (bytes : Bytes) (awaiting : w.phase = .awaiting) :
      Move h w { w with
        reader := { w.reader with pending := w.reader.pending ++ bytes }
        phase := .acting (Lines.complete (w.reader.pending ++ bytes))
          (Lines.tail (w.reader.pending ++ bytes))
        arrived := w.arrived ++ bytes }
  /-- The next line is acted on. -/
  | line {line : Bytes} {lines : List Bytes} {rest : Bytes}
      (next : w.phase = .acting (line :: lines) rest) :
      Move h w { w with
        reader := leftBy (ReplyReader.dispatch h line) w.reader
        phase := .acting lines rest
        passed := w.passed ++ [line] }
  /-- All lines have been acted on, and standard output is flushed, if that works. -/
  | keeps {rest : Bytes} (acted : w.phase = .acting [] rest) :
      Move h w { w with
        reader := leftBy ReplyReader.flushOut { w.reader with pending := rest }
        phase := .awaiting }
  /-- No more bytes will arrive, and what was kept is the last line. -/
  | ends (awaiting : w.phase = .awaiting) :
      Move h w { w with
        reader := leftBy (ReplyReader.dispatch h w.reader.pending) { w.reader with pending := [] }
        phase := .finished
        passed := w.passed ++ [w.reader.pending] }
  /-- A signal arrives. -/
  | signal (number : Signal) (foreground : Foreground) (fails : JobCall → Option IoError) :
      Move h w { w with reader := signalled number foreground fails w.reader }
  /-- Anything else is done that has nothing to do with the process number. -/
  | other {reader : ReplyReader Session SessionEvent} (apart : Apart w.reader reader) :
      Move h w { w with reader }

/-- Any number of moves. -/
def Moves (h : ReplyHandler Session SessionEvent) : Progress → Progress → Prop :=
  Relation.ReflTransGen (Move h)

/-- A session at the start of a connection. -/
def outset (c : Config) (connection : Connection) (out err : Sink) : Progress where
  reader := { suppressed := c.suppressOutput, out, err, state := start c connection }

/-! ## A session is a run of moves -/

/-- The state in which a step ends. -/
theorem leftBy_of_ends {α : Type} {step : Step α} {post : ReplyReader Session SessionEvent → Prop}
    (ends : Ends (fun _ => post) (fun _ => post) (step r)) : post (leftBy step r) := by
  rw [leftBy]
  cases done : step r with
  | ok a q =>
      rw [done] at ends
      exact ends.post_of_ok
  | error e q =>
      rw [done] at ends
      exact ends.failed_of_error

/-- A step ends, in one way or the other, in the state in which it leaves the reader. -/
theorem ends_leftBy {α : Type} {step : Step α}
    {post failed : ReplyReader Session SessionEvent → Prop} (works : post (leftBy step r))
    (fails : failed (leftBy step r)) : Ends (fun _ => post) (fun _ => failed) (step r) := by
  rw [leftBy] at works fails
  cases done : step r with
  | ok a q =>
      rw [done] at works
      exact .ok works
  | error e q =>
      rw [done] at fails
      exact .error fails

/-- Moves lead from there to this reader when all of the stream but what is left has arrived,
and the session is about this. -/
def ReachedIn (h : ReplyHandler Session SessionEvent) (begun : Progress) (stream : Bytes)
    (phase : Phase) (left : Bytes) (r : ReplyReader Session SessionEvent) : Prop :=
  ∃ arrived passed, arrived ++ left = stream ∧
    Moves h begun { reader := r, phase, arrived, passed }

/-- Moves lead from there to this reader when no more than the stream has arrived. -/
def Reached (h : ReplyHandler Session SessionEvent) (begun : Progress) (stream : Bytes)
    (r : ReplyReader Session SessionEvent) : Prop :=
  ∃ phase left, ReachedIn h begun stream phase left r

section

variable {h : ReplyHandler Session SessionEvent} {begun : Progress} {stream left : Bytes}
  {phase : Phase}

theorem ReachedIn.reached (here : ReachedIn h begun stream phase left r) :
    Reached h begun stream r := ⟨phase, left, here⟩

theorem ReachedIn.apart (here : ReachedIn h begun stream phase left r) (apart : Apart r q) :
    ReachedIn h begun stream phase left q := by
  obtain ⟨arrived, passed, whole, moves⟩ := here
  exact ⟨arrived, passed, whole, moves.tail (.other apart)⟩

/-- A step that has nothing to do with the process number. -/
theorem ReachedIn.step_apart {α : Type} {step : Step α}
    (here : ReachedIn h begun stream phase left r)
    (apart : Ends (fun _ => Apart r) (fun _ => Apart r) (step r)) :
    Ends (fun _ => ReachedIn h begun stream phase left) (fun _ => Reached h begun stream)
      (step r) :=
  apart.mono (fun _ _ => here.apart) fun _ _ apart => (here.apart apart).reached

/-- Lines are acted on one after the other, up to one that fails. The induction is on them. -/
theorem ReachedIn.lines {lines : List Bytes} {rest : Bytes}
    (here : ReachedIn h begun stream (.acting lines rest) left r) :
    Ends (fun _ => ReachedIn h begun stream (.acting [] rest) left)
      (fun _ => Reached h begun stream) (lines.forM (ReplyReader.dispatch h) r) := by
  induction lines generalizing r with
  | nil => exact .ok here
  | cons line lines ih =>
      obtain ⟨arrived, passed, whole, moves⟩ := here
      have next : ReachedIn h begun stream (.acting lines rest) left
          (leftBy (ReplyReader.dispatch h line) r) := ⟨_, _, whole, moves.tail (.line rfl)⟩
      exact (ends_leftBy next next.reached).bind fun _ _ => ih

theorem ReachedIn.feed {bytes : Bytes}
    (here : ReachedIn h begun stream .awaiting (bytes ++ left) r) :
    Ends (fun _ => ReachedIn h begun stream .awaiting left) (fun _ => Reached h begun stream)
      (ReplyReader.feed h bytes r) := by
  obtain ⟨arrived, passed, whole, moves⟩ := here
  rw [← List.append_assoc] at whole
  have arrives : ReachedIn h begun stream
      (.acting (Lines.complete (r.pending ++ bytes)) (Lines.tail (r.pending ++ bytes))) left
      { r with pending := r.pending ++ bytes } := ⟨_, _, whole, moves.tail (.arrives bytes rfl)⟩
  rw [ReplyReader.feed_apply]
  apply arrives.lines.bind
  intro _ q acted
  obtain ⟨arrived, passed, whole, moves⟩ := acted
  have kept : ReachedIn h begun stream .awaiting left
      (leftBy ReplyReader.flushOut { q with pending := Lines.tail (r.pending ++ bytes) }) :=
    ⟨_, _, whole, moves.tail (.keeps rfl)⟩
  exact ends_leftBy kept kept.reached

theorem ReachedIn.finish (here : ReachedIn h begun stream .awaiting left r) :
    Ends (fun _ => Reached h begun stream) (fun _ => Reached h begun stream)
      (ReplyReader.finish h r) := by
  obtain ⟨arrived, passed, whole, moves⟩ := here
  have last : ReachedIn h begun stream .finished left
      (leftBy (ReplyReader.dispatch h r.pending) { r with pending := [] }) :=
    ⟨_, _, whole, moves.tail (.ends rfl)⟩
  rw [ReplyReader.finish_apply]
  apply (ends_leftBy last last.reached).bind
  intro _ q finished
  have output : ∀ action ∈ Reply.closeLine q.atLineStart, action.isOutput = true := by
    cases q.atLineStart <;> simp [Reply.closeLine, Action.isOutput]
  rw [ReplyReader.closing_apply]
  apply (finished.step_apart (performAll_apart h output q)).bind
  intro _ _ closed
  exact .ok closed.reached

theorem showWaiting_apart (r : ReplyReader Session SessionEvent) :
    Ends (fun _ => Apart r) (fun _ => Apart r) (showWaiting c h r) := by
  rw [showWaiting_apply]
  split
  · have output : ∀ action ∈ Reply.openLine waitingMessage, action.isOutput = true := by
      simp [Reply.openLine, Action.isOutput]
    exact performAll_apart h output r
  · exact .ok (.refl r)

theorem afterRead_apart (r : ReplyReader Session SessionEvent) :
    Ends (fun _ => Apart r) (fun _ => Apart r) (afterRead c h r) := by
  have seen : Apart r { r with state := { r.state with resent := false } } :=
    ⟨rfl, rfl, noCalls_of_log rfl⟩
  rw [afterRead_apply]
  split
  · exact (showWaiting_apart _).mono (fun _ _ => seen.trans) fun _ _ => seen.trans
  · exact .ok seen

theorem pid_flush (s : Session) : s.flush.2.pid = s.pid := by
  rw [flush]
  split <;> rfl

theorem beforeRead_apart (r : ReplyReader Session SessionEvent) :
    Ends (fun _ => Apart r) (fun _ => Apart r) (beforeRead r) := by
  rw [beforeRead_apply]
  split
  · exact .ok ⟨pid_flush r.state, rfl, _, ReplyReader.events_record _ _, rfl⟩
  · exact .ok ⟨pid_flush r.state, rfl, noCalls_of_log rfl⟩

theorem readFailed_apart (error : IoError) (r : ReplyReader Session SessionEvent) :
    Ends (fun _ => Apart r) (fun _ => Apart r) (readFailed error r) := by
  rw [readFailed]
  split
  · exact .error (.refl r)
  · exact .ok (.refl r)

/-- Reading waits for bytes before every read, and at the end. The induction is on the
reads. -/
theorem ReachedIn.readAll {reads : List Bytes}
    (here : ReachedIn h begun stream .awaiting reads.flatten r) (ending : Ending) :
    Ends (fun _ q => ∃ left, ReachedIn h begun stream .awaiting left q)
      (fun _ => Reached h begun stream) (readAll c h ending reads r) := by
  have failed {left : Bytes} (error : IoError) {q : ReplyReader Session SessionEvent}
      (waits : ReachedIn h begun stream .awaiting left q) :
      Ends (fun _ q => ∃ left, ReachedIn h begun stream .awaiting left q)
        (fun _ => Reached h begun stream) (readFailed error q) :=
    (waits.step_apart (readFailed_apart error q)).mono (fun _ _ still => ⟨left, still⟩)
      fun _ _ reached => reached
  induction reads generalizing r with
  | nil =>
      apply (here.step_apart (beforeRead_apart r)).bind
      intro failure q begins
      cases failure with
      | some error => exact failed error begins
      | none =>
          cases ending with
          | closed => exact .ok ⟨_, begins⟩
          | failed error => exact failed error begins
          | dropped reading writing =>
              have cut : Apart q { q with state := q.state.cutOff writing } :=
                ⟨rfl, rfl, noCalls_of_log rfl⟩
              exact failed reading (begins.apart cut)
  | cons bytes rest ih =>
      rw [List.flatten_cons] at here
      apply (here.step_apart (beforeRead_apart r)).bind
      intro failure q begins
      cases failure with
      | some error => exact failed error begins
      | none =>
          apply begins.feed.bind
          intro _ q fed
          apply (fed.step_apart (afterRead_apart q)).bind
          intro _ q told
          exact ih told

end

theorem pid_close (s : Session) : s.close.pid = s.pid := by
  rw [close]
  split
  · rfl
  · exact pid_flush s

/-- The moves of a session, from its first request to the end of its replies. -/
theorem converse_reached {begun : Progress} {stream : Bytes} (connection : Connection)
    (here : ReachedIn (handler c p items) begun stream .awaiting connection.arriving.flatten r) :
    Ends (fun _ => Reached (handler c p items) begun stream)
      (fun _ => Reached (handler c p items) begun stream) (converse c p items connection r) := by
  have timed : Ends (fun _ => Apart r) (fun _ => Apart r) (setTimeout c.timeout r) := by
    rw [setTimeout]
    split
    · exact .error (.refl r)
    · exact .ok (.refl r)
  apply (here.step_apart timed).bind
  intro _ q timed
  have asked : Apart q (ReplyReader.acted (request c p items (Request.opening c)) q) := by
    obtain ⟨same, quiet⟩ := quiet_request c p items (Request.opening c) q.state
    exact ⟨same, rfl, _, ReplyReader.events_acted _ _, quiet⟩
  apply (timed.step_apart (ReplyReader.act_ends (fun _ => asked) fun _ _ => asked)).bind
  intro _ q asked
  apply (asked.step_apart (showWaiting_apart q)).bind
  intro _ q told
  rw [← reads_flatten] at told
  apply (told.readAll connection.ending).bind
  intro failure q read
  obtain ⟨left, read⟩ := read
  apply read.finish.bind
  intro outcome q finished
  obtain ⟨phase, left, finished⟩ := finished
  have closed : Apart q { q with state := q.state.close } :=
    ⟨pid_close q.state, rfl, noCalls_of_log rfl⟩
  cases failure with
  | none => exact .ok (finished.apart closed).reached
  | some error => exact .error (finished.apart closed).reached

/-- A session in which signals arrive only while it is stopped is a run of moves, in which
bytes of its connection arrive in their order. -/
theorem run_moves (c : Config) (p : Platform) (input : Bytes) (connection : Connection)
    (out err : Sink) :
    ∃ w, Moves (handler c p (Item.all c input)) (outset c connection out err) w ∧
      w.arrived <+: connection.arriving.flatten ∧
      w.reader.state = (run c p input connection out err).session ∧
      w.reader.events = (run c p input connection out err).events := by
  have begun : ReachedIn (handler c p (Item.all c input)) (outset c connection out err)
      connection.arriving.flatten .awaiting connection.arriving.flatten
      (outset c connection out err).reader := ⟨[], [], rfl, .refl⟩
  have reached := converse_reached connection begun
  cases comes : converse c p (Item.all c input) connection
      (outset c connection out err).reader with
  | ok outcome q =>
      rw [comes] at reached
      obtain ⟨phase, left, arrived, passed, whole, moves⟩ := reached.post_of_ok
      rw [run_of_ok comes]
      exact ⟨_, moves, ⟨left, whole⟩, rfl, rfl⟩
  | error error q =>
      rw [comes] at reached
      cases reached with
      | error holds =>
          obtain ⟨phase, left, arrived, passed, whole, moves⟩ := holds
          rw [run_of_error comes]
          exact ⟨_, moves, ⟨left, whole⟩, rfl, rfl⟩

/-! ## What moves preserve -/

/-- The lines that have been acted on, and those that wait for it, are the lines of what has
arrived. -/
def Accounted (w : Progress) : Prop :=
  match w.phase with
  | .awaiting =>
    w.passed = Lines.complete w.arrived ∧ w.reader.pending = Lines.tail w.arrived
  | .acting lines rest =>
    w.passed ++ lines = Lines.complete w.arrived ∧ rest = Lines.tail w.arrived
  | .finished => w.passed = Lines.complete w.arrived ++ [Lines.tail w.arrived]

theorem Accounted.passed_prefix {w : Progress} (accounted : Accounted w) :
    w.passed <+: Pieces.split newline w.arrived := by
  rw [← Lines.complete_concat_tail]
  cases phase : w.phase with
  | awaiting =>
      rw [Accounted, phase] at accounted
      rw [accounted.1]
      exact List.prefix_append _ _
  | acting lines rest =>
      rw [Accounted, phase] at accounted
      rw [← accounted.1, List.append_assoc]
      exact List.prefix_append _ _
  | finished =>
      rw [Accounted, phase] at accounted
      exact accounted ▸ List.prefix_rfl

/-- What holds wherever moves lead. -/
structure Sound (w : Progress) : Prop where
  accounted : Accounted w
  known : Reply.KnownAfter w.passed w.reader.state.pid

variable {w w' : Progress}

theorem stays_signalled (number : Signal) (foreground : Foreground)
    (fails : JobCall → Option IoError) (r : ReplyReader Session SessionEvent) :
    Stays r (signalled number foreground fails r) := by
  refine ⟨rfl, _, ReplyReader.events_record _ _, ?_⟩
  rw [callsOf_jobs]
  exact forwardsTo_handle (r.state.sees foreground fails) number r.state.buffer

/-- Acting on a line keeps what is known right, and forwards to what was known before. -/
theorem known_dispatch (c : Config) (p : Platform) (items : List Item) {passed : List Bytes}
    (line : Bytes) (known : Reply.KnownAfter passed r.state.pid) :
    Reply.KnownAfter (passed ++ [line])
        (leftBy (ReplyReader.dispatch (handler c p items) line) r).state.pid ∧
      Forwarded r (leftBy (ReplyReader.dispatch (handler c p items) line) r) := by
  by_cases announcing : ∃ pid, Reply.Announces line pid
  · obtain ⟨pid, announces⟩ := announcing
    rw [leftBy, dispatch_announces announces]
    exact ⟨.announced announces, _, ReplyReader.events_record _ _, forwardsTo_nil _⟩
  · have silent := not_exists.mp announcing
    have stays : Stays r (leftBy (ReplyReader.dispatch (handler c p items) line) r) :=
      leftBy_of_ends (dispatch_stays silent r)
    exact ⟨stays.pid ▸ known.other silent, stays.events⟩

/-- One move. The cases are the moves that there are. -/
theorem sound_move (sound : Sound w) (move : Move (handler c p items) w w') :
    Sound w' ∧ Forwarded w.reader w'.reader := by
  obtain ⟨accounted, known⟩ := sound
  cases move with
  | arrives bytes awaiting =>
      rw [Accounted, awaiting] at accounted
      obtain ⟨passed, kept⟩ := accounted
      refine ⟨⟨⟨?_, ?_⟩, known⟩, (Stays.refl w.reader).events⟩
      · rw [passed, kept]
        exact (Lines.complete_append w.arrived bytes).symm
      · rw [kept]
        exact (Lines.tail_append w.arrived bytes).symm
  | line next =>
      rw [Accounted, next] at accounted
      obtain ⟨known, forwarded⟩ := known_dispatch c p items _ known
      refine ⟨⟨⟨?_, accounted.2⟩, known⟩, forwarded⟩
      rw [← accounted.1, List.append_assoc, List.singleton_append]
  | @keeps rest acted =>
      rw [Accounted, acted] at accounted
      have flushes : Shows { w.reader with pending := rest }
          (leftBy ReplyReader.flushOut { w.reader with pending := rest }) :=
        leftBy_of_ends (@perform_shows (handler c p items) .flush rfl _)
      refine ⟨⟨⟨?_, flushes.pending.trans accounted.2⟩, ?_⟩, flushes.events.forwarded⟩
      · rw [← accounted.1, List.append_nil]
      · rw [flushes.state]
        exact known
  | ends awaiting =>
      rw [Accounted, awaiting] at accounted
      obtain ⟨passed, kept⟩ := accounted
      obtain ⟨known, forwarded⟩ := known_dispatch c p items
        (r := { w.reader with pending := [] }) w.reader.pending known
      refine ⟨⟨?_, known⟩, forwarded⟩
      show w.passed ++ [w.reader.pending] = _
      rw [passed, kept]
  | signal number foreground fails =>
      have stays := stays_signalled number foreground fails w.reader
      exact ⟨⟨accounted, known⟩, stays.events⟩
  | other apart =>
      refine ⟨⟨?_, apart.pid ▸ known⟩, apart.stays.events⟩
      rw [Accounted] at accounted ⊢
      dsimp only
      rw [apart.pending]
      exact accounted

/-- A run: what one move preserves holds wherever moves lead. -/
theorem sound_moves (connection : Connection) (out err : Sink)
    (moves : Moves (handler c p items) (outset c connection out err) w) : Sound w := by
  induction moves with
  | refl => exact ⟨⟨rfl, rfl⟩, .inr ⟨List.forall_mem_nil _, rfl⟩⟩
  | tail _ move ih => exact (sound_move ih move).1

/-- Wherever moves have led, and whichever move is made next: the number that is known is
that of the last line that gave one among those that have been acted on, which are the first
lines of what has arrived, however it was cut. Signals are forwarded to that number only, if
it is positive, and to none otherwise. A line that ought to give a number and does not
changes nothing and is reported as one that is not known. -/
theorem forwards_only_to_announced (c : Config) (p : Platform) (items : List Item)
    (connection : Connection) (out err : Sink) {w w' : Progress}
    (moves : Moves (handler c p items) (outset c connection out err) w)
    (move : Move (handler c p items) w w') :
    w.passed <+: Pieces.split newline w.arrived ∧
      Reply.KnownAfter w.passed w.reader.state.pid ∧
      (∃ more, w'.reader.events = w.reader.events ++ more ∧
        (∀ pid number, .forward pid number ∈ callsOf more →
          0 < pid ∧ Reply.LastAnnounced w.passed pid) ∧
        ((¬ ∃ pid, Reply.LastAnnounced w.passed pid ∧ 0 < pid) →
          ∀ pid number, .forward pid number ∉ callsOf more)) ∧
      ∀ line, Reply.IsPidLine line → (∀ pid, ¬ Reply.Announces line pid) → ∀ r,
        Ends (fun _ q => q.state = r.state ∧
            q.text false = r.text false ++ unknownMessage r.atLineStart line)
          (fun _ q => q.state = r.state)
          (ReplyReader.dispatch (handler c p items) line r) := by
  have sound := sound_moves connection out err moves
  obtain ⟨more, grown, forwards⟩ := (sound_move sound move).2
  have announced : ∀ pid number, .forward pid number ∈ callsOf more →
      0 < pid ∧ Reply.LastAnnounced w.passed pid := by
    intro pid number there
    obtain ⟨positive, rfl⟩ := forwards pid number there
    exact ⟨positive, sound.known.of_pos positive⟩
  refine ⟨sound.accounted.passed_prefix, sound.known, ⟨more, grown, announced, ?_⟩, ?_⟩
  · intro none pid number there
    obtain ⟨positive, last⟩ := announced pid number there
    exact none ⟨pid, last, positive⟩
  · intro line form malformed r
    exact dispatch_malformed _ form malformed r

/-- Bytes arrive that are two lines, and both are acted on. -/
theorem moves_two_lines (h : ReplyHandler Session SessionEvent) {stream first second : Bytes}
    (lines : Lines.complete stream = [first, second]) (rest : Lines.tail stream = [])
    {r : ReplyReader Session SessionEvent} (fresh : r.pending = []) :
    Moves h { reader := r }
      { reader := leftBy (ReplyReader.dispatch h second)
          (leftBy (ReplyReader.dispatch h first) { r with pending := stream })
        phase := .acting [] []
        arrived := stream
        passed := [first, second] } := by
  have arrives := Move.arrives (h := h) (w := { reader := r }) stream rfl
  dsimp only at arrives
  rw [fresh, List.nil_append, lines, rest] at arrives
  exact .tail (.tail (.single arrives) (.line rfl)) (.line rfl)

/-- A number that does not fit does not replace the one before it, and no other one is made
of it: the change of the window is passed on to process 7. -/
theorem forwards_after_number_that_does_not_fit :
    let h := handler twoDisplays withoutTerminal []
    let first := ofText "-emacs-pid  +7 of 9"
    let second := ofText "-emacs-pid 4294967304"
    let stream := first ++ newline :: (second ++ [newline])
    let begun := outset twoDisplays {} {} {}
    let w : Progress :=
      { reader := leftBy (ReplyReader.dispatch h second)
          (leftBy (ReplyReader.dispatch h first) { begun.reader with pending := stream })
        phase := .acting [] []
        arrived := stream
        passed := [first, second] }
    let w' : Progress :=
      { w with reader := signalled Signal.windowChanged .yes (fun _ => none) w.reader }
    Moves h begun w ∧ Move h w w' ∧ callsOf w'.reader.events = [.forward 7 Signal.windowChanged] ∧
      Reply.LastAnnounced w.passed 7 ∧ Reply.IsPidLine second ∧
      ∀ pid, ¬ Reply.Announces second pid := by
  intro h first second stream begun w w'
  have lines : Lines.complete stream = [first, second] := by decide +kernel
  have rest : Lines.tail stream = [] := by decide +kernel
  have moves : Moves h begun w := moves_two_lines h lines rest rfl
  have move : Move h w w' := .signal Signal.windowChanged .yes (fun _ => none)
  have before : callsOf w.reader.events = [] := by decide +kernel
  have after : callsOf w'.reader.events = [.forward 7 Signal.windowChanged] := by decide +kernel
  have unread : Reply.parse second = .unknown second := by decide +kernel
  clear_value w w'
  obtain ⟨-, -, ⟨more, grown, announced, -⟩, -⟩ :=
    forwards_only_to_announced twoDisplays withoutTerminal [] {} {} {} moves move
  have forwarded : callsOf more = [.forward 7 Signal.windowChanged] := by
    rw [← after, grown, callsOf_append, before, List.nil_append]
  have there : .forward 7 Signal.windowChanged ∈ callsOf more :=
    forwarded ▸ List.mem_singleton_self _
  have malformed : ∀ pid, ¬ Reply.Announces second pid := by
    intro pid announces
    rw [Reply.parse_eq_serverPid_iff.mpr announces] at unread
    nomatch unread
  exact ⟨moves, move, after, (announced 7 _ there).2, .inr ⟨_, rfl⟩, malformed⟩

end EditorClient.Session
