/-
# What a session does that can go wrong

A session builds requests and sends them, writes to its two outputs and flushes them, and
reads from its connection. Each of these is a `Deed`, with what came of it. What a session does
by itself are the deeds of its tasks, and each time it stops waiting a read has come to
something. `Does` is a course of a session together with all of its deeds in order, so that
there is none behind the one that ended it, and what was only planned is not among them. All
courses that a session can take have their deeds, by `changes_iff_does`, and so has a run.

Signals that reach the bridge, and a server that takes nothing from now on, are no deeds of the
session. They show in what comes of its deeds.
-/

import EditorClient.Proofs.Session.Stages

namespace EditorClient.Session

open ReplyReader

/-- Something that a session does, and what came of it. -/
inductive Deed
  /-- A request was to be built. -/
  | build (result : Except ClientError Bytes)
  /-- A line was to be sent. -/
  | send (line : Bytes) (result : Except IoError Unit)
  /-- Bytes were to be written to standard output, which failed with this error or did not. -/
  | out (bytes : Bytes) (failure : Option IoError)
  /-- Standard output was to be flushed. -/
  | flushOut (failure : Option IoError)
  /-- Bytes were to be written to standard error. -/
  | err (bytes : Bytes) (failure : Option IoError)
  /-- Standard error was to be flushed. -/
  | flushErr (failure : Option IoError)
  /-- The connection was read: bytes had arrived, it was at its end, or the read failed. -/
  | read (result : Except IoError (Option Bytes))
  deriving DecidableEq, Repr

/-- Whether a deed worked. -/
def Deed.worked : Deed → Bool
  | .build (.error _) | .send _ (.error _) | .read (.error _) => false
  | .out _ failure | .flushOut failure | .err _ failure | .flushErr failure => failure.isNone
  | _ => true

/-- The bytes that a deed brought. -/
def Deed.brought : Deed → Bytes
  | .read (.ok (some bytes)) => bytes
  | _ => []

/-- The bytes that were read. -/
def bytesRead (deeds : List Deed) : Bytes := deeds.flatMap Deed.brought

section

variable (c : Config) (p : Platform) (items : List Item)

/-- The deeds of a request with this opening. -/
def requestDeeds (opening : Request) (s : Session) : List Deed :=
  match Request.body c s.target items (p.terminal s.asked) with
  | .error error => [.build (.error error)]
  | .ok body =>
    let line := (opening ++ body).encode
    [.build (.ok line), .send line (match SendBuffer.send line s.buffer with
      | .ok _ _ => .ok ()
      | .error error _ => .error error)]

/-- The deeds of working at a task. -/
def Task.deeds (r : ReplyReader Session SessionEvent) : Task → List Deed
  | .request first => requestDeeds c p items (leadingPart c first) r.state
  | .act (.out bytes) => [.out bytes (r.out.failure bytes)]
  | .act .flush => [.flushOut r.out.flushFailure]
  | .act (.err bytes) => [.err bytes (r.err.failure bytes)]
  | .flushErrors => [.flushErr r.err.flushFailure]
  | _ => []

/-- The deeds of what a session does next by itself. Before a read all that is pending is
written, and if that fails then the read has failed. -/
def Situation.deeds (w : Situation) : List Deed :=
  match w.stage with
  | .busy (task :: _) _ => task.deeds c p items w.reader
  | .busy [] .read =>
    match w.reader.state.flush.1 with
    | .ok _ => []
    | .error error => [.read (.error error)]
  | _ => []

end

/-- A session for which a read came to this. -/
def Situation.told (w : Situation) : Except IoError (Option Bytes) → Situation
  | .ok (some bytes) =>
    { w with
      reader := { w.reader with pending := w.reader.pending ++ bytes }
      stage := .busy (takeIn (w.reader.pending ++ bytes) ++ [.tellAgain]) .read }
  | .ok none => { w with stage := .ending none }
  | .error error => { w with stage := .broken error }

/-- A course of a session from there, with all of its deeds. -/
inductive Does (c : Config) (p : Platform) (items : List Item) (begun : Situation) :
    List Deed → Situation → Prop
  | start : Does c p items begun [] begun
  | own {done : List Deed} {w : Situation} {todo : List Task} {goal : Goal}
      (before : Does c p items begun done w) (busy : w.stage = .busy todo goal) :
      Does c p items begun (done ++ w.deeds c p items) (advance c p items w)
  /-- A read comes to something. -/
  | read {done : List Deed} {w : Situation} {undisturbed : Bool}
      (before : Does c p items begun done w) (waits : w.stage = .waiting undisturbed)
      (result : Except IoError (Option Bytes)) :
      Does c p items begun (done ++ [.read result]) (w.told result)
  /-- Something else happens around the session, and it goes on as it would have. -/
  | meanwhile {done : List Deed} {w w' : Situation} (before : Does c p items begun done w)
      (happens : Outside w w') (still : w'.stage.disturbed = w.stage.disturbed) :
      Does c p items begun done w'

variable {c : Config} {p : Platform} {items : List Item} {begun w w' : Situation}
  {done : List Deed} {r q : ReplyReader Session SessionEvent}

/-! ## Courses -/

theorem outside_told {undisturbed : Bool} (waits : w.stage = .waiting undisturbed)
    (result : Except IoError (Option Bytes)) : Outside w (w.told result) := by
  match result with
  | .ok (some bytes) => exact .arrives bytes waits
  | .ok none => exact .closes waits
  | .error error => exact .breaks error waits

/-- What can happen around a session is that a read comes to something, or leaves the session
where it is. -/
theorem Outside.told_or_still (happens : Outside w w') :
    (∃ undisturbed result, w.stage = .waiting undisturbed ∧ w' = w.told result) ∨
      w'.stage.disturbed = w.stage.disturbed := by
  cases happens with
  | arrives bytes waits => exact .inl ⟨_, .ok (some bytes), waits, rfl⟩
  | closes waits => exact .inl ⟨_, .ok none, waits, rfl⟩
  | breaks error waits => exact .inl ⟨_, .error error, waits, rfl⟩
  | interrupts | drops => exact .inr rfl
  | signal =>
      right
      cases w.stage <;> rfl

/-- Courses with their deeds are all courses that a session can take. -/
theorem changes_iff_does : Changes c p items begun w ↔ ∃ done, Does c p items begun done w := by
  constructor
  · intro changes
    induction changes with
    | refl => exact ⟨[], .start⟩
    | tail _ change ih =>
        obtain ⟨done, before⟩ := ih
        cases change with
        | own busy => exact ⟨_, before.own busy⟩
        | outside happens =>
            rcases happens.told_or_still with ⟨undisturbed, result, waits, rfl⟩ | still
            · exact ⟨_, before.read waits result⟩
            · exact ⟨done, before.meanwhile happens still⟩
  · rintro ⟨done, does⟩
    induction does with
    | start => exact .refl
    | own _ busy ih => exact ih.tail (.own busy)
    | read _ waits result ih => exact ih.tail (.outside (outside_told waits result))
    | meanwhile _ happens _ ih => exact ih.tail (.outside happens)

/-! ## What deeds tell -/

/-- The deeds of a request tell whether it was sent. -/
theorem request_tells (c : Config) (p : Platform) (items : List Item) (opening : Request)
    (s : Session) :
    (∀ deed ∈ requestDeeds c p items opening s, deed.worked = true) ↔
      (request c p items opening s).1 = .ok () := by
  rw [request_eq, requestDeeds]
  cases Request.body c s.target items (p.terminal s.asked) with
  | error error => simp [Deed.worked]
  | ok body =>
      dsimp only
      cases SendBuffer.send (opening ++ body).encode s.buffer with
      | error error buffer => simp [Deed.worked]
      | ok _ buffer =>
          dsimp only
          split <;> simp [Deed.worked]

/-- All deeds worked. -/
def Smooth (deeds : List Deed) : Prop := ∀ deed ∈ deeds, deed.worked = true

theorem Smooth.append {more : List Deed} (smooth : Smooth done) (also : Smooth more) :
    Smooth (done ++ more) := List.forall_mem_append.mpr ⟨smooth, also⟩

/-- Output that is written or flushed, as that fails or does not. -/
theorem output_tells {deed : Option IoError → Deed} {failure : Option IoError}
    {result : EStateM.Result ClientError (ReplyReader Session SessionEvent) Unit}
    (shape : result = match failure with
      | none => .ok () q
      | some error => .error (outputFailed error) r)
    (tells : (deed failure).worked = failure.isNone) :
    Ends (fun _ _ => Smooth [deed failure]) (fun _ _ => ¬ Smooth [deed failure]) result := by
  rw [Smooth, List.forall_mem_singleton, tells, shape]
  cases failure with
  | none => exact .ok rfl
  | some error => exact .error Bool.false_ne_true

/-- A task that can be worked at is one all of whose deeds work. -/
theorem Task.tells (p : Platform) (items : List Item) (lasting : c.timeout ≠ some ⟨0⟩)
    (task : Task) (r : ReplyReader Session SessionEvent) :
    Ends (fun _ _ => Smooth (task.deeds c p items r)) (fun _ _ => ¬ Smooth (task.deeds c p items r))
      (task.work c p items r) := by
  have nothing : Smooth [] := List.forall_mem_nil _
  cases task with
  | limit =>
      rw [Task.work, setTimeout_of_lasting lasting]
      exact .ok nothing
  | request first =>
      have tells := request_tells c p items (leadingPart c first) r.state
      have never (e : ClientError)
          (fails : (Session.request c p items (leadingPart c first) r.state).1 = .error e) :
          ¬ Smooth (requestDeeds c p items (leadingPart c first) r.state) := by
        rw [Smooth, tells, fails]
        exact nofun
      change Ends _ _ (ReplyReader.act (Session.request c p items (leadingPart c first)) r)
      exact act_ends tells.mpr never
  | flushErrors => exact output_tells (flushErr_apply r) rfl
  | tell | tellAgain | line | keep | lastLine | closeLine => exact .ok nothing
  | act action =>
      cases action with
      | out bytes => exact output_tells (writeOut_apply bytes r) rfl
      | err bytes => exact output_tells (writeErr_apply bytes r) rfl
      | flush => exact output_tells (flushOut_apply r) rfl
      | unsupported | atLineStart | serverError | serverPid => exact .ok nothing
      | suspend =>
          change Ends _ _ (perform (handler c p items) .suspend r)
          rw [perform_suspend]
          exact act_ends (fun _ => nothing) fun _ => nofun

/-- A session does not read while it works at a task. -/
theorem Task.deeds_silent (task : Task) (r : ReplyReader Session SessionEvent)
    (result : Except IoError (Option Bytes)) : .read result ∉ task.deeds c p items r := by
  cases task with
  | request first =>
      rw [Task.deeds, requestDeeds]
      split <;> simp
  | act action => cases action <;> simp [Task.deeds]
  | _ => simp [Task.deeds]

/-- A read that is not even begun has failed. -/
theorem Situation.deeds_silent (w : Situation) (arrived : Option Bytes) :
    .read (.ok arrived) ∉ w.deeds c p items := by
  rw [Situation.deeds]
  split
  · exact Task.deeds_silent _ _ _
  · split <;> simp
  · exact List.not_mem_nil

/-! ## What was read -/

theorem bytesRead_append (done more : List Deed) :
    bytesRead (done ++ more) = bytesRead done ++ bytesRead more := List.flatMap_append

theorem bytesRead_concat (done : List Deed) (deed : Deed) :
    bytesRead (done ++ [deed]) = bytesRead done ++ deed.brought := by
  rw [bytesRead_append, bytesRead, bytesRead, List.flatMap_singleton]

/-- Deeds that are no reads bring nothing. -/
theorem bytesRead_of_silent (silent : ∀ arrived, .read (.ok arrived) ∉ more) :
    bytesRead (done ++ more) = bytesRead done := by
  have nothing : bytesRead more = [] := by
    refine List.flatMap_eq_nil_iff.mpr fun deed there => ?_
    match deed with
    | .read (.ok arrived) => exact absurd there (silent arrived)
    | .read (.error _) | .build _ | .send _ _ | .out _ _ | .flushOut _ | .err _ _ | .flushErr _ =>
        rfl
  rw [bytesRead_append, nothing, List.append_nil]

/-- A session that is left to itself for so many steps. -/
theorem Does.advance (before : Does c p items begun done w) (steps : Nat) :
    ∃ done', Does c p items begun done' ((advance c p items)^[steps] w) ∧
      bytesRead done' = bytesRead done := by
  have one {done : List Deed} {w : Situation} (before : Does c p items begun done w) :
      ∃ done', Does c p items begun done' (Session.advance c p items w) ∧
        bytesRead done' = bytesRead done := by
    obtain ⟨r, stage, held⟩ := w
    cases stage with
    | busy todo goal => exact ⟨_, before.own rfl, bytesRead_of_silent (Situation.deeds_silent _)⟩
    | waiting | finished => exact ⟨done, before, rfl⟩
  induction steps generalizing done w with
  | zero => exact ⟨done, before, rfl⟩
  | succ steps ih =>
      obtain ⟨_, first, none⟩ := one before
      obtain ⟨done', does, later⟩ := ih first
      exact ⟨done', does, later.trans none⟩

/-- A signal reaches the bridge. -/
theorem Does.signalled (before : Does c p items begun done w) (number : Signal)
    (foreground : Foreground) (fails : JobCall → Option IoError)
    (bridged : w.reader.state.bridged = true) :
    Does c p items begun done { w with
      reader := Session.signalled number foreground fails w.reader
      stage := w.stage.disturbed } := by
  apply before.meanwhile (.signal number foreground fails bridged)
  cases w.stage <;> rfl

end EditorClient.Session
