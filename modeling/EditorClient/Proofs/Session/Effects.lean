/-
# What the bridge does follows the signals

Each signal has its effects: lines for the server and calls of the operating system,
in this order. They depend on the signal and on what the bridge sees when it arrives,
and on nothing that went before. So over any run, in which other handles use the send
buffer as well, what the bridge tries is one list of effects after the other, whatever
fails in between.

That a line was handed over does not mean that the server has it. The send buffer
keeps what the writer has not taken, and a later command writes that first.
-/

import EditorClient.JobControl
import EditorClient.Proofs.SendBuffer.Stream

namespace EditorClient.Bridge

/-- The effects that are due when a signal arrives. -/
def due (b : Bridge) (number : Signal) : List Effect :=
  if number = Signal.terminalStop ∨ number = Signal.backgroundWrite then
    [.tell (Request.encode [⟨"suspend", []⟩]), .call (.stopSelf number)]
  else if number = Signal.continued then
    match b.foreground with
    | .yes => [.tell (Request.encode [⟨"resume", []⟩])]
    | .no => if b.onTerminal then [.call .stopGroup] else []
    | .unknown => []
  else if number = Signal.windowChanged then
    if 0 < b.pid then [.call (.forward b.pid number)] else []
  else []

/-- Effects are tried one after the other, and those that follow an effect are tried
also if it fails. A call does not touch the buffer. -/
inductive Tries (b : Bridge) : SendBuffer → List Tried → SendBuffer → Prop
  | done (buffer : SendBuffer) : Tries b buffer [] buffer
  | told {buffer next last : SendBuffer} {line : Bytes} {later : List Tried}
      (sent : SendBuffer.send line buffer = .ok () next) (rest : Tries b next later last) :
      Tries b buffer (⟨.tell line, none⟩ :: later) last
  | lost {buffer next last : SendBuffer} {line : Bytes} {error : IoError} {later : List Tried}
      (failed : SendBuffer.send line buffer = .error error next)
      (rest : Tries b next later last) :
      Tries b buffer (⟨.tell line, some error⟩ :: later) last
  | called {buffer last : SendBuffer} {later : List Tried} (made : JobCall)
      (rest : Tries b buffer later last) :
      Tries b buffer (⟨.call made, b.fails made⟩ :: later) last

/-- What holds of a signal that the bridge acted on. -/
structure Handled.Follows (h : Handled) (b : Bridge) (number : Signal) (before : SendBuffer) :
    Prop where
  /-- What was tried is what was due, each once and in order. -/
  effects : h.tried.map Tried.effect = b.due number
  tries : Tries b before h.tried h.buffer
  /-- There is an error exactly if an effect of this signal failed. -/
  fails : (∃ error, h.result = .error error) ↔ ∃ tried ∈ h.tried, tried.error.isSome
  /-- The error is that of such an effect. -/
  blames : ∀ error, h.result = .error error → ∃ tried ∈ h.tried, tried.error = some error

/-! ## One signal -/

variable {b : Bridge} {buffer last : SendBuffer} {number : Signal} {tried : List Tried}

/-- The effects of what a signal can mean. -/
def effectsOf (b : Bridge) : Intent → List Effect
  | .ignore => []
  | .stopGroup => [.call .stopGroup]
  | .forward number => if 0 < b.pid then [.call (.forward b.pid number)] else []
  | .resume => [.tell resumeLine]
  | .suspend number => [.tell suspendLine, .call (.stopSelf number)]

theorem due_eq (b : Bridge) (number : Signal) :
    b.due number = b.effectsOf (intent number b.foreground b.onTerminal) := by
  by_cases stops : number = Signal.terminalStop ∨ number = Signal.backgroundWrite
  · have suspends : intent number b.foreground b.onTerminal = .suspend number := by
      rcases stops with rfl | rfl <;> rfl
    rw [due, if_pos stops, suspends]
    rfl
  · by_cases continued : number = Signal.continued
    · subst continued
      cases seen : b.foreground <;> cases place : b.onTerminal <;>
        simp [due, intent, effectsOf, seen, place] <;> rfl
    · by_cases changed : number = Signal.windowChanged
      · subst changed
        rfl
      · simp only [due, intent, if_neg stops, if_neg continued, if_neg changed, effectsOf]

/-- Nothing to do is done. -/
theorem follows_nothing {meaning : Intent} (nothing : b.due number = []) :
    (⟨.ok meaning, buffer, []⟩ : Handled).Follows b number buffer where
  effects := nothing.symm
  tries := .done buffer
  fails := by simp
  blames := nofun

/-- A call is made, and its failure is the only one there can be. -/
theorem callOnly_follows {meaning : Intent} {made : JobCall} (only : b.due number = [.call made]) :
    (b.callOnly meaning buffer made).Follows b number buffer := by
  have tries := Tries.called (b := b) made (.done buffer)
  rw [callOnly]
  cases ended : b.fails made with
  | none =>
      rw [ended] at tries
      exact ⟨only.symm, tries, by simp, nofun⟩
  | some error =>
      rw [ended] at tries
      exact ⟨only.symm, tries, by simp, by simp⟩

/-- The bridge does what is due. The cases are the meanings that a signal can have. -/
theorem handle_follows (b : Bridge) (number : Signal) (buffer : SendBuffer) :
    (b.handle number buffer).Follows b number buffer := by
  have meant := due_eq b number
  rw [handle]
  generalize intent number b.foreground b.onTerminal = meaning at meant ⊢
  cases meaning with
  | ignore => exact follows_nothing meant
  | stopGroup => exact callOnly_follows meant
  | forward number =>
      dsimp only
      rw [effectsOf] at meant
      by_cases known : 0 < b.pid
      · rw [if_pos known] at meant
        rw [knownPid, if_pos known]
        exact callOnly_follows meant
      · rw [if_neg known] at meant
        rw [knownPid, if_neg known]
        exact follows_nothing meant
  | resume =>
      dsimp only
      cases sent : SendBuffer.send resumeLine buffer with
      | ok _ next =>
          exact ⟨meant.symm, .told sent (.done next), by simp, nofun⟩
      | error error next =>
          exact ⟨meant.symm, .lost sent (.done next), by simp, by simp⟩
  | suspend number =>
      dsimp only
      cases sent : SendBuffer.send suspendLine buffer with
      | ok _ next =>
          have tries := Tries.told sent (.called (b := b) (.stopSelf number) (.done next))
          simp only [callOnly]
          cases ended : b.fails (.stopSelf number) with
          | none =>
              rw [ended] at tries
              exact ⟨meant.symm, tries, by simp, nofun⟩
          | some error =>
              rw [ended] at tries
              exact ⟨meant.symm, tries, by simp, by simp⟩
      | error error next =>
          have tries := Tries.lost sent (.called (b := b) (.stopSelf number) (.done next))
          refine ⟨meant.symm, tries, by simp, ?_⟩
          rintro _ ⟨⟩
          cases ended : b.fails (.stopSelf number) with
          | none => exact ⟨_, List.mem_cons_self, rfl⟩
          | some error => exact ⟨_, List.mem_cons_of_mem _ List.mem_cons_self, rfl⟩

/-- The calls that the bridge makes are those that are due. -/
theorem calls_handle (b : Bridge) (number : Signal) (buffer : SendBuffer) :
    (b.handle number buffer).calls = (b.due number).filterMap Effect.call? := by
  rw [← (handle_follows b number buffer).effects, List.filterMap_map]
  rfl

/-! ## Runs -/

/-- Something that happens to the send buffer. -/
inductive Occasion
  /-- A signal arrives, and the bridge sees this. -/
  | signal (number : Signal) (seen : Bridge)
  /-- Another handle of the buffer uses it. -/
  | command (command : SendBuffer.Command)

/-- The signal of an occasion, if it is one, and what the bridge sees then. -/
def Occasion.arrival : Occasion → Option (Signal × Bridge)
  | .signal number seen => some (number, seen)
  | .command _ => none

/-- What the bridge did about a signal, and the buffer that it found. -/
structure Answer where
  number : Signal
  seen : Bridge
  before : SendBuffer
  handled : Handled

/-- What the bridge did about the signals of a run. An error does not end the run. -/
def answers : List Occasion → SendBuffer → List Answer
  | [], _ => []
  | .signal number seen :: rest, buffer =>
    let handled := seen.handle number buffer
    ⟨number, seen, buffer, handled⟩ :: answers rest handled.buffer
  | .command command :: rest, buffer => answers rest (command.perform buffer).after

/-- The buffer after a run. -/
def bufferAfter : List Occasion → SendBuffer → SendBuffer
  | [], buffer => buffer
  | .signal number seen :: rest, buffer => bufferAfter rest (seen.handle number buffer).buffer
  | .command command :: rest, buffer => bufferAfter rest (command.perform buffer).after

/-- What an effect asks of the send buffer. -/
def Effect.command? : Effect → Option SendBuffer.Command
  | .tell line => some (.send line)
  | .call _ => none

/-- What an occasion asks of the send buffer. -/
def Occasion.commands : Occasion → List SendBuffer.Command
  | .signal number seen => (seen.due number).filterMap Effect.command?
  | .command asked => [asked]

theorem after_of_sent {buffer next : SendBuffer} {line : Bytes}
    (sent : SendBuffer.send line buffer = .ok () next) :
    ((SendBuffer.Command.send line).perform buffer).after = next := by
  simp only [SendBuffer.Command.perform, SendBuffer.Command.op, sent]

theorem after_of_lost {buffer next : SendBuffer} {line : Bytes} {error : IoError}
    (failed : SendBuffer.send line buffer = .error error next) :
    ((SendBuffer.Command.send line).perform buffer).after = next := by
  simp only [SendBuffer.Command.perform, SendBuffer.Command.op, failed]

/-- The buffer after effects is that after what they ask of it. -/
theorem Tries.buffer_eq (tries : Tries b buffer tried last) :
    last = SendBuffer.afterAll (tried.filterMap (·.effect.command?)) buffer := by
  induction tries with
  | done => rfl
  | told sent rest ih =>
      rw [List.filterMap_cons]
      dsimp only [Effect.command?]
      rw [SendBuffer.afterAll, List.foldl_cons, after_of_sent sent]
      exact ih
  | lost failed rest ih =>
      rw [List.filterMap_cons]
      dsimp only [Effect.command?]
      rw [SendBuffer.afterAll, List.foldl_cons, after_of_lost failed]
      exact ih
  | called made rest ih => exact ih

variable {buffer : SendBuffer}

theorem arrivals_answers (run : List Occasion) (buffer : SendBuffer) :
    (answers run buffer).map (fun a => (a.number, a.seen)) =
      run.filterMap Occasion.arrival := by
  induction run generalizing buffer with
  | nil => rfl
  | cons occasion rest ih =>
      cases occasion with
      | signal number seen =>
          rw [answers, List.map_cons, ih]
          rfl
      | command asked => exact ih _

/-- Every answer is what the bridge does about its signal, so it does what is due. -/
theorem answers_follow (run : List Occasion) (buffer : SendBuffer) :
    ∀ a ∈ answers run buffer,
      a.handled = a.seen.handle a.number a.before ∧
        a.handled.Follows a.seen a.number a.before := by
  induction run generalizing buffer with
  | nil => exact List.forall_mem_nil _
  | cons occasion rest ih =>
      cases occasion with
      | signal number seen =>
          intro a answered
          rw [answers] at answered
          rcases List.mem_cons.mp answered with rfl | later
          · exact ⟨rfl, handle_follows seen number buffer⟩
          · exact ih _ a later
      | command asked => exact ih _

/-- The buffer after a run is that after what its occasions ask of it. -/
theorem bufferAfter_eq (run : List Occasion) (buffer : SendBuffer) :
    bufferAfter run buffer = SendBuffer.afterAll (run.flatMap Occasion.commands) buffer := by
  induction run generalizing buffer with
  | nil => rfl
  | cons occasion rest ih =>
      rw [List.flatMap_cons, SendBuffer.afterAll_append]
      cases occasion with
      | signal number seen =>
          have follows := handle_follows seen number buffer
          have asked : (Occasion.signal number seen).commands =
              (seen.handle number buffer).tried.filterMap (·.effect.command?) := by
            rw [Occasion.commands, ← follows.effects, List.filterMap_map]
            rfl
          rw [asked, ← follows.tries.buffer_eq]
          exact ih _
      | command asked => exact ih _

/-- Over any run the effects follow the signals one for one. What was tried is the
effects that were due at each signal, in order; each was tried in the buffer that the
one before it left, and acting on a signal is an error exactly if one of its own effects
failed. The send buffer has been asked for the lines of the signals and for what the
other handles wanted, and for nothing else. -/
theorem effects_follow_signals (run : List Occasion) (start : SendBuffer) :
    let all := answers run start
    let arrivals := run.filterMap Occasion.arrival
    all.map (fun a => (a.number, a.seen)) = arrivals ∧
      (all.flatMap (·.handled.tried)).map Tried.effect =
        arrivals.flatMap (fun (number, seen) => seen.due number) ∧
      (∀ a ∈ all,
        a.handled = a.seen.handle a.number a.before ∧
          a.handled.Follows a.seen a.number a.before) ∧
      bufferAfter run start =
        SendBuffer.afterAll (run.flatMap Occasion.commands) start := by
  intro all arrivals
  have same : all.map (fun a => (a.number, a.seen)) = arrivals := arrivals_answers run start
  have each := answers_follow run start
  refine ⟨same, ?_, each, bufferAfter_eq run start⟩
  rw [← same, List.map_flatMap, List.flatMap_map]
  apply List.flatMap_congr
  intro a answered
  exact (each a answered).2.effects

/-- A writer that fails at the first line, and a system that does not stop the process.
The second signal has its effects all the same, and what the buffer kept of the first
line is written before the second. -/
example :
    let start : SendBuffer := { writer := { script := [.fails .brokenPipe] } }
    let stuck : Bridge := ⟨.yes, true, 0, fun _ => some .brokenPipe⟩
    let run := [.signal Signal.terminalStop stuck, .signal Signal.continued stuck]
    (answers run start).flatMap (·.handled.tried) =
        [⟨.tell suspendLine, some .brokenPipe⟩,
          ⟨.call (.stopSelf Signal.terminalStop), some .brokenPipe⟩,
          ⟨.tell resumeLine, none⟩] ∧
      (bufferAfter run start).taken = suspendLine ++ resumeLine := by
  decide +kernel

end EditorClient.Bridge
