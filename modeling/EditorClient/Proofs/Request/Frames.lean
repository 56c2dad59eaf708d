/-
# Requests for frames can be met

A request for a new frame says where the frame is to open, and in one way only: it
offers our terminal, or it names a display and asks for the window system. A request
without a new frame says neither.

This starts with the options, which settle the place of a new frame, and it is kept by
every step back: a target has a display with a name unless it is the terminal, and once
it is the terminal it stays so.
-/

import EditorClient.Proofs.Options.Implied
import EditorClient.Proofs.Request.Contents
import EditorClient.Proofs.Request.Targets
import EditorClient.Proofs.Session.Messages
import Mathlib.Data.List.Nodup

namespace EditorClient

open Bytes

namespace Request

/-! ## How often a directive stands -/

/-- How often a directive with this name stands in a request. -/
def times (name : String) (r : Request) : Nat := r.countP (·.name = name)

theorem times_append (name : String) (first later : Request) :
    times name (first ++ later) = times name first + times name later :=
  List.countP_append

theorem times_eq_zero {name : String} {r : Request} (absent : ∀ d ∈ r, d.name ≠ name) :
    times name r = 0 := by
  rw [times, List.countP_eq_zero]
  intro d there
  simpa using absent d there

/-- A name stands once in a request without repetitions that has it. -/
theorem times_eq_one {name : String} {r : Request} (once : (r.map Directive.name).Nodup)
    {d : Directive} (there : d ∈ r) (named : d.name = name) : times name r = 1 := by
  have counted : times name r = (r.map Directive.name).count name := by
    rw [times, List.count, List.countP_map]
    rfl
  rw [counted]
  exact List.count_eq_one_of_mem once (named ▸ List.mem_map_of_mem there)

/-! ## The request with a number -/

open Session (openingOf)

/-- The request with this number, if it can be built, where `answers` says each time whether
there is a terminal. -/
def built (c : Config) (items : List Item) (answers : Nat → Except TerminalError Terminal)
    (number : Nat) : Except ClientError Request :=
  (Request.body c ((FrameTarget.ofConfig c).fallBackTimes number) items (answers number)).map
    (openingOf c number ++ ·)

/-- A session sends this for the answers that it gets. -/
theorem requestLine_eq (c : Config) (p : Platform) (items : List Item) (number : Nat) :
    Session.requestLine c p items number =
      (built c items p.terminal number).map encode := by
  rw [Session.requestLine, built]
  cases Request.body c ((FrameTarget.ofConfig c).fallBackTimes number) items
    (p.terminal number) <;> rfl

variable {c : Config} {t : FrameTarget} {items : List Item} {body : Request}
  {terminal : Except TerminalError Terminal} {number : Nat} {d : Directive} {name : String}

theorem name_openingOf (there : d ∈ openingOf c number) :
    d.name = "env" ∨ d.name = "dir" := by
  rw [openingOf] at there
  split at there
  case isTrue => exact name_opening there
  case isFalse => nomatch there

theorem not_mem_frameNames_of_opening (there : d ∈ openingOf c number) :
    d.name ∉ frameNames := by
  rcases name_openingOf there with named | named
  · rw [named]
    decide
  · rw [named]
    decide

theorem not_mem_frameNames_of_item (item : Item) : (ofItem c item).name ∉ frameNames := by
  have apart : ∀ name ∈ itemNames, name ∉ frameNames := by decide
  exact apart _ (name_ofItem c item)

/-- All that a request says about the frame is what the target asks for. -/
theorem framing_of_mem (made : Request.body c t items terminal = .ok body)
    (there : d ∈ openingOf c number ++ body) (about : d.name ∈ frameNames) :
    Framing c t terminal d := by
  obtain ⟨offer, offered, rfl⟩ := body_ok made
  rcases List.mem_append.mp there with first | later
  · exact absurd about (not_mem_frameNames_of_opening first)
  · rcases List.mem_append.mp later with frame | wanted
    · exact (mem_framePart_iff offered).mp frame
    · obtain ⟨item, -, rfl⟩ := List.mem_map.mp wanted
      exact absurd about (not_mem_frameNames_of_item item)

/-- What the target asks for stands once. -/
theorem times_of_framing (made : Request.body c t items terminal = .ok body)
    (framing : Framing c t terminal d) (number : Nat) :
    times d.name (openingOf c number ++ body) = 1 := by
  obtain ⟨offer, offered, rfl⟩ := body_ok made
  have there := (mem_framePart_iff offered).mpr framing
  have about := name_framePart offered there
  have once : ((framePart c t offer).map Directive.name).Nodup :=
    (names_framePart offered).nodup (by decide)
  have before : times d.name (openingOf c number) = 0 :=
    times_eq_zero fun other first same =>
      not_mem_frameNames_of_opening first (same ▸ about)
  have after : times d.name (items.map (ofItem c)) = 0 := by
    apply times_eq_zero
    intro other wanted same
    obtain ⟨item, -, rfl⟩ := List.mem_map.mp wanted
    exact not_mem_frameNames_of_item item (same ▸ about)
  rw [times_append, times_append, before, after, times_eq_one once there rfl]

/-- What the target does not ask for does not stand. -/
theorem times_of_not_framing (made : Request.body c t items terminal = .ok body)
    (about : name ∈ frameNames) (absent : ∀ d, Framing c t terminal d → d.name ≠ name)
    (number : Nat) : times name (openingOf c number ++ body) = 0 := by
  apply times_eq_zero
  intro d there named
  exact absent d (framing_of_mem made there (named ▸ about)) named

theorem createFrame_of_env (there : d ∈ openingOf c number) (named : d.name = "env") :
    c.createFrame = true := by
  rw [openingOf] at there
  split at there
  case isTrue =>
      rw [opening, List.mem_append, List.mem_singleton] at there
      rcases there with entry | rfl
      · by_contra old
        rw [if_neg old] at entry
        exact absurd entry List.not_mem_nil
      · simp [Directive.single] at named
  case isFalse => exact absurd there List.not_mem_nil

/-- A request for the terminal cannot be built without one. -/
theorem body_of_missing {reason : TerminalError} (new : c.createFrame = true)
    (onTerminal : t.terminal = true) :
    Request.body c t items (.error reason) = .error (.terminal reason.message) := by
  have refused : terminalPart c t (.error reason) = .error (.terminal reason.message) := by
    rw [terminalPart, if_pos (wantsTerminal_iff.mpr (.inl new))]
    exact if_pos onTerminal
  rw [Request.body, refused]
  rfl

/-- Any other request can be built. -/
theorem exists_body (found : t.terminal = true → ∃ info, terminal = .ok info) :
    ∃ body, Request.body c t items terminal = .ok body := by
  have offered : ∃ offer, terminalPart c t terminal = .ok offer := by
    unfold terminalPart
    split
    case isTrue =>
        cases terminal with
        | ok info => exact ⟨_, rfl⟩
        | error reason =>
            have elsewhere : ¬ t.terminal = true := by
              intro onTerminal
              obtain ⟨_, missing⟩ := found onTerminal
              nomatch missing
            exact ⟨[], if_neg elsewhere⟩
    case isFalse => exact ⟨[], rfl⟩
  obtain ⟨offer, offered⟩ := offered
  rw [Request.body, offered]
  exact ⟨_, rfl⟩

/-- A request that is built for a terminal has one. -/
theorem found_of_body (new : c.createFrame = true) (onTerminal : t.terminal = true)
    (made : Request.body c t items terminal = .ok body) : ∃ info, terminal = .ok info := by
  cases terminal with
  | ok info => exact ⟨info, rfl⟩
  | error reason =>
      rw [body_of_missing new onTerminal] at made
      nomatch made

/-! ## What requests say about the frame -/

/-- The request offers our terminal, and does not ask for the window system. -/
structure OnTerminal (r : Request) : Prop where
  offered : times "tty" r = 1
  window : times "window-system" r = 0

/-- The request names a display, and asks for the window system. -/
structure OnDisplay (r : Request) : Prop where
  display : times "display" r = 1
  named : ∀ d ∈ r, d.name = "display" → ∃ name, d.args = [name] ∧ name ≠ []
  window : times "window-system" r = 1

/-- The request asks for a new frame at the target. -/
structure AsksNew (t : FrameTarget) (r : Request) : Prop where
  current : times "current-frame" r = 0
  placed : OnTerminal r ∨ OnDisplay r
  terminal : OnTerminal r ↔ t.terminal = true

/-- The request asks for no new frame, and says nothing that is for new frames. -/
structure AsksCurrent (r : Request) : Prop where
  current : times "current-frame" r = 1
  environment : times "env" r = 0
  parent : times "parent-id" r = 0
  parameters : times "frame-parameters" r = 0
  window : times "window-system" r = 0

theorem ofText_ne_nil (named : name ≠ "") : ofText name ≠ [] :=
  fun empty => named (Utf8.ofText_injective (empty.trans rfl))

/-- Why a directive about the frame stands in a request, by its name. -/
structure Grounds (c : Config) (t : FrameTarget) (d : Directive) : Prop where
  noWait : d.name = "nowait" → t.noWait = true
  currentFrame : d.name = "current-frame" → c.createFrame = false
  display : d.name = "display" → ∃ name, t.display = some name ∧ d.args = [ofText name]
  parentId : d.name = "parent-id" → c.parentId.isSome = true
  frameParameters : d.name = "frame-parameters" → c.createFrame = true
  windowSystem : d.name = "window-system" → c.createFrame = true ∧ t.terminal = false

theorem Framing.grounds (framing : Framing c t terminal d) : Grounds c t d := by
  cases framing <;> constructor <;> simp_all

/-- A new frame for the terminal. -/
theorem onTerminal_request (new : c.createFrame = true) (onTerminal : t.terminal = true)
    (made : Request.body c t items terminal = .ok body) (number : Nat) :
    OnTerminal (openingOf c number ++ body) := by
  obtain ⟨info, found⟩ := found_of_body new onTerminal made
  refine ⟨times_of_framing made (.terminal (.inl new) found) number, ?_⟩
  apply times_of_not_framing made (by decide)
  intro d framing named
  have elsewhere := (framing.grounds.windowSystem named).2
  exact absurd (elsewhere.symm.trans onTerminal) Bool.false_ne_true

/-- A new frame for a display. -/
theorem onDisplay_request (placed : t.Placed) (new : c.createFrame = true)
    (elsewhere : t.terminal = false) (made : Request.body c t items terminal = .ok body)
    (number : Nat) : OnDisplay (openingOf c number ++ body) := by
  obtain ⟨display, asked⟩ := Option.isSome_iff_exists.mp (placed.somewhere elsewhere)
  refine ⟨times_of_framing made (.display asked) number, ?_,
    times_of_framing made (.windowSystem new elsewhere) number⟩
  intro d there named
  have framing := framing_of_mem made there (by rw [named]; decide)
  obtain ⟨name, shown, args⟩ := framing.grounds.display named
  exact ⟨ofText name, args, ofText_ne_nil (placed.named name shown)⟩

theorem OnDisplay.not_onTerminal {r : Request} (onDisplay : OnDisplay r) : ¬ OnTerminal r := by
  intro onTerminal
  exact absurd (onTerminal.window.symm.trans onDisplay.window) Nat.zero_ne_one

theorem asksNew_request (placed : t.Placed) (new : c.createFrame = true)
    (made : Request.body c t items terminal = .ok body) (number : Nat) :
    AsksNew t (openingOf c number ++ body) := by
  have current : times "current-frame" (openingOf c number ++ body) = 0 := by
    apply times_of_not_framing made (by decide)
    intro d framing named
    exact absurd ((framing.grounds.currentFrame named).symm.trans new) Bool.false_ne_true
  cases place : t.terminal with
  | true =>
      have onTerminal := onTerminal_request new place made number
      exact ⟨current, .inl onTerminal, iff_of_true onTerminal place⟩
  | false =>
      have onDisplay := onDisplay_request placed new place made number
      have elsewhere : ¬ t.terminal = true := by
        rw [place]
        exact Bool.false_ne_true
      exact ⟨current, .inr onDisplay, iff_of_false onDisplay.not_onTerminal elsewhere⟩

theorem asksCurrent_request (settled : c.parentId.isSome = true → c.createFrame = true)
    (old : c.createFrame = false) (made : Request.body c t items terminal = .ok body)
    (number : Nat) : AsksCurrent (openingOf c number ++ body) := by
  have never (new : c.createFrame = true) : False :=
    absurd (old.symm.trans new) Bool.false_ne_true
  have elsewhere : "env" ∉ frameNames ++ itemNames := by decide
  refine ⟨times_of_framing made (.currentFrame old) number, ?_, ?_, ?_, ?_⟩
  · apply times_eq_zero
    intro d there named
    rcases List.mem_append.mp there with first | later
    · exact never (createFrame_of_env first named)
    · exact elsewhere (named ▸ name_body made later)
  · apply times_of_not_framing made (by decide)
    exact fun d framing named => never (settled (framing.grounds.parentId named))
  · apply times_of_not_framing made (by decide)
    exact fun d framing named => never (framing.grounds.frameParameters named)
  · apply times_of_not_framing made (by decide)
    exact fun d framing named => never (framing.grounds.windowSystem named).1

/-- Once the target is the terminal for good, the client waits and asks for no window. -/
theorem times_atLast (last : t.AtLast) (made : Request.body c t items terminal = .ok body)
    (number : Nat) :
    times "nowait" (openingOf c number ++ body) = 0 ∧
      times "window-system" (openingOf c number ++ body) = 0 := by
  constructor
  · apply times_of_not_framing made (by decide)
    intro d framing named
    exact absurd (last.waits.symm.trans (framing.grounds.noWait named)) Bool.false_ne_true
  · apply times_of_not_framing made (by decide)
    intro d framing named
    have elsewhere := (framing.grounds.windowSystem named).2
    exact absurd (elsewhere.symm.trans last.terminal) Bool.false_ne_true

theorem built_ok {answers : Nat → Except TerminalError Terminal} {r : Request}
    (made : built c items answers number = .ok r) :
    ∃ body, Request.body c ((FrameTarget.ofConfig c).fallBackTimes number) items
        (answers number) = .ok body ∧
      r = openingOf c number ++ body := by
  rw [built] at made
  cases done : Request.body c ((FrameTarget.ofConfig c).fallBackTimes number) items
    (answers number) with
  | error e =>
      rw [done] at made
      nomatch made
  | ok body =>
      rw [done] at made
      exact ⟨body, rfl, (Except.ok.inj made).symm⟩

/-- The line of the request with a number is read back. -/
theorem decode?_openingOf (made : Request.body c t items terminal = .ok body) (number : Nat) :
    decode? (openingOf c number ++ body).encode = some (openingOf c number ++ body) := by
  rw [openingOf]
  split
  case isTrue => exact (decode?_request made).1
  case isFalse => exact (decode?_request made).2

/-- From the command line to every line that a session sends: a request for a new frame
offers our terminal exactly when the target is the terminal, and otherwise names a display
and asks for the window system; there is such a request unless the target is the terminal
and there is none. Once a step back has led to the terminal, the client waits and asks for
no window system any more. Without a new frame nothing is said that is for new frames. -/
theorem frame_requests_consistent {args : List Bytes} {program : String} {env : Environment}
    {directory : Bytes} {options : Options} {resolved : Config} {alternate : Option String}
    (parsed : Options.parse args = .ok options)
    (settles : Config.resolve program options env directory = .ok resolved)
    (named : ∀ name, alternate = some name → name ≠ "")
    (items : List Item) (answers : Nat → Except TerminalError Terminal) (number : Nat) :
    let c : Config := { resolved with altDisplay := alternate }
    let target (step : Nat) := (FrameTarget.ofConfig c).fallBackTimes step
    (c.createFrame = true →
      (∀ reason, (target number).terminal = true → answers number = .error reason →
        built c items answers number = .error (.terminal reason.message)) ∧
      (((target number).terminal = true → ∃ info, answers number = .ok info) →
        ∃ r, built c items answers number = .ok r)) ∧
    ∀ r, built c items answers number = .ok r →
      decode? r.encode = some r ∧
        (c.createFrame = true → AsksNew (target number) r) ∧
        (c.createFrame = false → AsksCurrent r) ∧
        ∀ step < number, (target step).altDisplay = none →
          times "nowait" r = 0 ∧ times "window-system" r = 0 := by
  intro c target
  have settled := Config.settled_resolve (Options.coherent_parse parsed) settles
  have placed (new : c.createFrame = true) : (target number).Placed := by
    apply FrameTarget.Placed.fallBackTimes
    exact ⟨settled.placed new, settled.named, named⟩
  refine ⟨?_, ?_⟩
  · intro new
    refine ⟨?_, ?_⟩
    · intro reason onTerminal missing
      rw [built, missing, body_of_missing new onTerminal]
      rfl
    · intro found
      obtain ⟨body, made⟩ := exists_body found
      rw [built, made]
      exact ⟨_, rfl⟩
  · intro r whole
    obtain ⟨body, made, rfl⟩ := built_ok whole
    refine ⟨decode?_openingOf made number, ?_, ?_, ?_⟩
    · intro new
      exact asksNew_request (placed new) new made number
    · intro old
      exact asksCurrent_request settled.parentId old made number
    · intro step earlier spent
      exact times_atLast (FrameTarget.atLast_of_spent earlier spent) made number

/-- A client that is not to wait for its new frame is refused on both displays, and then asks
for the terminal that was not there at first. -/
theorem frame_request_after_two_steps_back :
    let args := [ofText "-nc", ofText "-d", ofText ":1", ofText "f"]
    let options : Options :=
      { noWait := true, createFrame := true, display := some ":1", items := [ofText "f"] }
    let resolved := (Config.resolve "client" options {} (ofText "/w")).toOption
    let answers (number : Nat) : Except TerminalError Terminal :=
      if number < 2 then .error .noName else .ok ⟨ofText "/dev/pts/1", "xterm"⟩
    let r : Request := [⟨"display", [ofText ":2"]⟩,
      ⟨"tty", [ofText "/dev/pts/1", ofText "xterm"]⟩, ⟨"file", [ofText "f"]⟩]
    Options.parse args = .ok options ∧
      ∃ c, resolved = some c ∧
        built { c with altDisplay := some ":2" } [.file (ofText "f")] answers 2 = .ok r ∧
        decode? r.encode = some r ∧ OnTerminal r ∧ times "nowait" r = 0 := by
  intro args options resolved answers r
  have parsed : Options.parse args = .ok options := by decide +kernel
  have settles : Config.resolve "client" options {} (ofText "/w") = .ok _ := rfl
  have named : ∀ name, some ":2" = some name → name ≠ "" := by
    rintro _ ⟨⟩
    decide
  obtain ⟨-, each⟩ :=
    frame_requests_consistent parsed settles named [.file (ofText "f")] answers 2
  obtain ⟨read, new, -, later⟩ := each r rfl
  exact ⟨parsed, _, rfl, rfl, read, (new rfl).terminal.mpr rfl, (later 1 (by decide) rfl).1⟩

end Request

end EditorClient
