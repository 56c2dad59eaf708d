/-
# When the bridge is started

The bridge is for a frame on our terminal. It is started each time a request has been sent
that offers the terminal to the server, when the connection has taken the whole line, and at
no other time. A session that falls back to the terminal does not wait for that: the bridge
that runs already sees at once that the frame is on the terminal now, also when the request
cannot be sent then. So a client that is continued in the background stops again.

Whether a line offers the terminal is said of the line as the server reads it.
-/

import EditorClient.Proofs.Request.Contents
import EditorClient.Proofs.Session.Passing

namespace EditorClient

open Bytes

namespace Request

/-- Whether a line offers a terminal to the server that reads it. -/
def offersByLine (line : Bytes) : Bool := (decode? line).any (·.any fun d => d.name = "tty")

/-- A line offers the terminal if its body does. The opening has nothing to do with it. -/
theorem offersByLine_eq {c : Config} {t : FrameTarget} {items : List Item}
    {terminal : Except TerminalError Terminal} {made : Request}
    (built : Request.body c t items terminal = .ok made) (first : Bool) :
    offersByLine (Session.leadingPart c first ++ made).encode = made.offersTerminal := by
  obtain ⟨whole, again⟩ := decode?_request built
  cases first with
  | false => exact congrArg (Option.any _) again
  | true =>
      have none : (opening c).any (fun d => d.name = "tty") = false := by
        rw [List.any_eq_false]
        intro d there
        rcases name_opening there with named | named <;> simp [named]
      have reads : offersByLine (opening c ++ made).encode =
          (opening c ++ made).any fun d => d.name = "tty" := congrArg (Option.any _) whole
      rw [Session.leadingPart, if_pos rfl, reads, List.any_append, none, Bool.false_or]
      rfl

end Request

namespace Session

open ReplyReader

/-! ## Lines that are sent -/

variable {c : Config} {p : Platform} {items : List Item} {w w' : Situation} {line : Bytes}

/-- The line that sending a request sends, if the request can be built and the connection takes
the line. -/
def requestSends (c : Config) (p : Platform) (items : List Item) (opening : Request)
    (s : Session) : Option Bytes :=
  match Request.body c s.target items (p.terminal s.asked) with
  | .error _ => none
  | .ok body =>
    match SendBuffer.send (opening ++ body).encode s.buffer with
    | .error _ _ => none
    | .ok _ _ => some (opening ++ body).encode

/-- A request starts the bridge if its line is sent and offers the terminal. -/
theorem requestStarts_eq (c : Config) (p : Platform) (items : List Item) (first : Bool)
    (s : Session) :
    requestStarts c p items (leadingPart c first) s =
      if (requestSends c p items (leadingPart c first) s).any Request.offersByLine then
        [(knownPid s.pid, s.onTerminal)] else [] := by
  -- The body occurs in a decidable condition too, so it is named and not abstracted.
  obtain ⟨made, built⟩ : ∃ made, Request.body c s.target items (p.terminal s.asked) = made :=
    ⟨_, rfl⟩
  simp only [requestStarts, requestSends, built]
  cases made with
  | error error => rfl
  | ok body =>
      obtain ⟨result, sent⟩ :
          ∃ result, SendBuffer.send (leadingPart c first ++ body).encode s.buffer = result :=
        ⟨_, rfl⟩
      simp only [sent]
      cases result with
      | error error buffer => rfl
      | ok _ buffer => simp only [Option.any_some, Request.offersByLine_eq built]

/-- A line that was sent has been taken by the connection, with all that came before it, and
the request worked. -/
theorem requestSends_eq_some {opening : Request} {s : Session}
    (sends : requestSends c p items opening s = some line) :
    (request c p items opening s).1 = .ok () ∧
      (request c p items opening s).2.1.buffer.pending = [] ∧
      (request c p items opening s).2.1.buffer.taken = s.buffer.stream ++ line := by
  rw [requestSends] at sends
  rw [request_eq]
  cases built : Request.body c s.target items (p.terminal s.asked) with
  | error error =>
      rw [built] at sends
      nomatch sends
  | ok body =>
      rw [built] at sends
      dsimp only at sends ⊢
      cases sent : SendBuffer.send (opening ++ body).encode s.buffer with
      | error error buffer =>
          rw [sent] at sends
          nomatch sends
      | ok _ buffer =>
          rw [sent] at sends
          cases sends
          obtain ⟨grown, emptied⟩ := SendBuffer.send_ok sent
          have idle : buffer.pending = [] := emptied (encode_getLast _)
          have taken : buffer.taken = s.buffer.stream ++ (opening ++ body).encode := by
            rw [← grown, SendBuffer.stream, idle, List.append_nil]
          cases body.offersTerminal <;> exact ⟨rfl, idle, taken⟩

/-- The line that a session sends next in a request, if it does. -/
def Situation.sendsNext (c : Config) (p : Platform) (items : List Item) (w : Situation) :
    Option Bytes :=
  match w.stage with
  | .busy (.request first :: _) _ => requestSends c p items (leadingPart c first) w.reader.state
  | _ => none

/-- The bridge is started by a line that is sent and offers the terminal, and by nothing
else. -/
theorem startsNext_eq (c : Config) (p : Platform) (items : List Item) (w : Situation) :
    w.startsNext c p items =
      if (w.sendsNext c p items).any Request.offersByLine then
        [(knownPid w.reader.state.pid, w.reader.state.onTerminal)] else [] := by
  rcases w with ⟨r, ⟨_ | ⟨task, todo⟩, goal⟩ | _ | _, held⟩
  · rfl
  · cases task with
    | request first => exact requestStarts_eq c p items first r.state
    | _ => rfl
  · rfl
  · rfl

theorem taken_of_sendsNext (sends : w.sendsNext c p items = some line) :
    (advance c p items w).reader.state.buffer.pending = [] ∧
      (advance c p items w).reader.state.buffer.taken = w.reader.state.buffer.stream ++ line := by
  rcases w with ⟨r, ⟨_ | ⟨task, todo⟩, goal⟩ | _ | _, held⟩
  · cases sends
  · cases task with
    | request first =>
        obtain ⟨works, taken⟩ := requestSends_eq_some sends
        have sent : (Task.request first).work c p items r =
            .ok () (acted (request c p items (leadingPart c first)) r) := act_of_ok works
        simp only [advance, sent]
        exact taken
    | _ => cases sends
  · cases sends
  · cases sends

/-! ## Signals after a fallback -/

/-- A client that was continued in the background stops its group again if the bridge sees
that the frame is on the terminal. -/
theorem calls_continued (s : Session) (fails : JobCall → Option IoError) (buffer : SendBuffer) :
    ((s.sees .no fails).handle Signal.continued buffer).calls =
      if s.onTerminal then [.stopGroup] else [] := by
  have meaning : intent Signal.continued .no s.onTerminal =
      if s.onTerminal then .stopGroup else .ignore := rfl
  rw [Bridge.calls_handle, Bridge.due_eq, sees, meaning]
  cases s.onTerminal <;> rfl

theorem callsOf_signalled (number : Signal) (foreground : Foreground)
    (fails : JobCall → Option IoError) (r : ReplyReader Session SessionEvent) :
    callsOf (signalled number foreground fails r).events = callsOf r.events ++
      ((r.state.sees foreground fails).handle number r.state.buffer).calls := by
  rw [signalled, events_record, callsOf_append, callsOf_jobs]
  rfl

/-! ## Courses and the lines that were sent -/

/-- A course of a session, with the lines that were sent in requests, in order. -/
inductive Course (c : Config) (p : Platform) (items : List Item) (begun : Situation) :
    List Bytes → Situation → Prop
  | start : Course c p items begun [] begun
  | own {lines : List Bytes} {w : Situation} {todo : List Task} {goal : Goal}
      (before : Course c p items begun lines w) (busy : w.stage = .busy todo goal) :
      Course c p items begun (lines ++ (w.sendsNext c p items).toList) (advance c p items w)
  | outside {lines : List Bytes} {w w' : Situation} (before : Course c p items begun lines w)
      (happens : Outside w w') : Course c p items begun lines w'

/-- All courses are of this kind. -/
theorem exists_course {begun : Situation} (changes : Changes c p items begun w) :
    ∃ lines, Course c p items begun lines w := by
  induction changes with
  | refl => exact ⟨[], .start⟩
  | tail _ change ih =>
      obtain ⟨lines, before⟩ := ih
      cases change with
      | own busy => exact ⟨_, .own before busy⟩
      | outside happens => exact ⟨lines, .outside before happens⟩

/-- What holds of a session on its way: the bridge sees where the frame is, it has been started
once for each line that was sent and offers the terminal, and it runs from the first such line
on. -/
structure Attended (lines : List Bytes) (w : Situation) : Prop where
  level : Level w.reader.state
  counted : (startsOf w.reader.events).length = lines.countP Request.offersByLine
  running : w.reader.state.bridged = !(startsOf w.reader.events).isEmpty

theorem attended_start (connection : Connection) (out err : Sink) :
    Attended [] (.start c connection out err) := ⟨rfl, rfl, rfl⟩

/-- What a step that starts the bridge in this way leaves. -/
theorem Attended.passes {reads : Nat} {starts : List (Option Int32 × Bool)}
    {lines more : List Bytes} (attended : Attended lines w)
    (passes : Passes reads starts w.reader w'.reader)
    (counted : starts.length = more.countP Request.offersByLine) :
    Attended (lines ++ more) w' where
  level := passes.level attended.level
  counted := by
    rw [passes.starts, List.length_append, List.countP_append, attended.counted, counted]
  running := by
    rw [passes.bridged, passes.starts, attended.running]
    cases startsOf w.reader.events <;> simp

theorem length_startsNext (c : Config) (p : Platform) (items : List Item) (w : Situation) :
    (w.startsNext c p items).length =
      (w.sendsNext c p items).toList.countP Request.offersByLine := by
  rw [startsNext_eq]
  cases w.sendsNext c p items with
  | none => rfl
  | some line => cases offers : Request.offersByLine line <;> simp [offers]

theorem attended_of_course {connection : Connection} {out err : Sink} {lines : List Bytes}
    (course : Course c p items (.start c connection out err) lines w) : Attended lines w := by
  induction course with
  | start => exact attended_start connection out err
  | own before busy ih =>
      exact ih.passes (advance_passes c p items _) (length_startsNext c p items _)
  | @outside lines _ _ before happens ih =>
      obtain ⟨reads, passes, -⟩ := happens.passes
      have none : ([] : List (Option Int32 × Bool)).length = [].countP Request.offersByLine := rfl
      exact List.append_nil lines ▸ ih.passes passes none

/-! ## The bridge and the session -/

/-- How the bridge stands to a session that sent these lines in requests. -/
structure Served (c : Config) (p : Platform) (items : List Item) (lines : List Bytes)
    (w : Situation) : Prop extends Attended lines w where
  /-- What the session does next starts the bridge exactly if it sends a line that offers the
  terminal. -/
  next : startsOf (advance c p items w).reader.events = startsOf w.reader.events ++
    if (w.sendsNext c p items).any Request.offersByLine then
      [(knownPid w.reader.state.pid, w.reader.state.target.terminal)] else []
  /-- The connection has taken all of such a line by then. -/
  accepted : ∀ line, w.sendsNext c p items = some line →
    (advance c p items w).reader.state.buffer.pending = [] ∧
      (advance c p items w).reader.state.buffer.taken = w.reader.state.buffer.stream ++ line
  /-- Nothing that happens around the session starts it. -/
  around : ∀ w', Outside w w' → startsOf w'.reader.events = startsOf w.reader.events
  /-- A client that is continued in the background stops again if its frame is on the
  terminal. -/
  continued : ∀ fails, callsOf (signalled Signal.continued .no fails w.reader).events =
    callsOf w.reader.events ++ if w.reader.state.target.terminal then [.stopGroup] else []
  /-- It does so too when the server has it stopped and other signals came first. -/
  whileStopped : ∀ earlier,
    callsOf (((signals earlier w.reader.state).1.signal Signal.continued .no).2.map .handler) =
      if w.reader.state.target.terminal then [.stopGroup] else []

theorem served_of_attended (c : Config) (p : Platform) (items : List Item) {lines : List Bytes}
    (attended : Attended lines w) : Served c p items lines w where
  toAttended := attended
  next := by
    have level : w.reader.state.onTerminal = w.reader.state.target.terminal := attended.level
    rw [(advance_passes c p items w).starts, startsNext_eq, level]
  accepted _ := taken_of_sendsNext
  around w' happens := by
    obtain ⟨reads, passes, -⟩ := happens.passes
    rw [passes.starts, List.append_nil]
  continued fails := by
    have level : w.reader.state.onTerminal = w.reader.state.target.terminal := attended.level
    rw [callsOf_signalled, calls_continued, level]
  whileStopped earlier := by
    have level : w.reader.state.onTerminal = w.reader.state.target.terminal := attended.level
    rw [callsOf_signal, calls_continued, signals_eq, level]

/-- In every course that a session can take, of which each run is one: the bridge is started
once for each request that offers the terminal, when the connection has taken the whole line,
and not otherwise. It always sees whether the frame is on the terminal now. -/
theorem bridge_started_by_each_offer (c : Config) (p : Platform) (input : Bytes)
    (connection : Connection) (out err : Sink) :
    let items := Item.all c input
    let begun := Situation.start c connection out err
    let report := run c p input connection out err
    (∃ lines w, Course c p items begun lines w ∧ w.stage = .finished report.result ∧
      w.reader.state = report.session ∧ w.reader.events = report.events) ∧
    ∀ lines w, Course c p items begun lines w → Served c p items lines w := by
  intro items begun report
  obtain ⟨w, changes, finished⟩ := run_changes c p input connection out err
  obtain ⟨lines, course⟩ := exists_course changes
  exact ⟨⟨lines, w, course, finished⟩, fun lines w course =>
    served_of_attended c p items (attended_of_course course)⟩

/-- A session that falls back to another display and then to the terminal. The request that
offers the terminal for the second time has not been sent yet, but a client that is continued
in the background stops its group already. -/
theorem stopGroup_before_third_request :
    let c := { twoDisplays with env := ⟨[(ofText "TERM", ofText "xterm")]⟩ }
    let p : Platform :=
      { terminal := fun _ => Terminal.ofEnvironment (some (ofText "/dev/pts/3")) c.env }
    let items := Item.all c []
    let begun := Situation.start c {} {} {}
    let waiting := (advance c p items)^[7] begun
    let refusals := ofText "-window-system-unsupported \n-window-system-unsupported \n"
    let refused : Situation :=
      { waiting with
        reader := { waiting.reader with pending := refusals }
        stage := .busy (takeIn refusals ++ [.tellAgain]) .read }
    let w := (advance c p items)^[5] refused
    (∃ lines, Course c p items begun lines w ∧ lines.countP Request.offersByLine = 2) ∧
      startsOf w.reader.events = [(none, false), (none, false)] ∧
      callsOf (signalled Signal.continued .no (fun _ => none) w.reader).events = [.stopGroup] ∧
      startsOf (advance c p items w).reader.events =
        [(none, false), (none, false), (none, true)] := by
  intro c p items begun waiting refusals refused w
  have waits : waiting.stage = .waiting true := by decide +kernel
  have nothing : waiting.reader.pending = [] := by decide +kernel
  have arrives : Change c p items waiting refused := by
    have happens := Outside.arrives refusals waits
    rw [nothing] at happens
    exact .outside happens
  have changes : Changes c p items begun w :=
    ((changes_advance c p items 7 begun).tail arrives).trans (changes_advance c p items 5 refused)
  have starts : startsOf w.reader.events = [(none, false), (none, false)] := by decide +kernel
  have onTerminal : w.reader.state.target.terminal = true := by decide +kernel
  have quiet : callsOf w.reader.events = [] := by decide +kernel
  have third : startsOf (advance c p items w).reader.events =
      [(none, false), (none, false), (none, true)] := by decide +kernel
  obtain ⟨-, each⟩ := bridge_started_by_each_offer c p [] {} {} {}
  obtain ⟨lines, course⟩ := exists_course changes
  have served : Served c p items lines w := each lines w course
  have counted : lines.countP Request.offersByLine = 2 := by
    rw [← served.counted, starts]
    rfl
  have stops := served.continued fun _ => none
  rw [quiet, onTerminal] at stops
  exact ⟨⟨lines, course, counted⟩, starts, stops, third⟩

end Session

end EditorClient
