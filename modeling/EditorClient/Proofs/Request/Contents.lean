/-
# What a request asks for

The line of a request says what the user asked for, in this order: the environment for
a new frame, the directory, where the frame opens, and the items. What the server reads
from it is `Contents`. The arguments may be any bytes; those of the environment and of
the items are passed on as they are, except that an absolute file name is made remote.

The directives about the frame are each there or not, but never twice and always in the
same order, since they are a sublist of seven names. Which of them are there is said
for each by itself in `Framing`.
-/

import EditorClient.Proofs.Request.Expressions
import EditorClient.Proofs.Request.RoundTrip
import EditorClient.Request.Build
import Mathlib.Data.List.Forall2

namespace EditorClient

open Bytes

/-! ## Items -/

namespace Item

/-- A number as the user writes it. -/
def Digits (text : Bytes) : Prop := text ≠ [] ∧ ∀ b ∈ text, isDigit b = true

/-- A line, or a line and a column, as the user writes it. -/
inductive Position : Bytes → Prop
  | line {line : Bytes} (number : Digits line) : Position (plus :: line)
  | column {line column : Bytes} (number : Digits line) (place : Digits column) :
      Position (plus :: line ++ colon :: column)

theorem allDigits_iff {text : Bytes} : allDigits text = true ↔ Digits text := by
  simp only [allDigits, Digits, Bool.and_eq_true, decide_eq_true_eq, List.all_eq_true]

theorem Digits.colon_not_mem {text : Bytes} (number : Digits text) : colon ∉ text := by
  intro there
  exact absurd (number.2 colon there) (by decide)

/-- The positions are the items that are recognized as positions. What stands before the
first colon decides where the line ends. -/
theorem isPosition_iff {item : Bytes} : isPosition item = true ↔ Position item := by
  constructor
  · intro recognized
    cases item with
    | nil => nomatch recognized
    | cons b rest =>
        rw [isPosition, Bool.and_eq_true, decide_eq_true_eq] at recognized
        obtain ⟨rfl, digits⟩ := recognized
        by_cases there : colon ∈ rest
        · obtain ⟨line, column, rfl, absent⟩ := List.eq_append_cons_of_mem there
          rw [Pieces.cut_cons_of_not_mem absent, Bool.and_eq_true] at digits
          exact .column (allDigits_iff.mp digits.1) (allDigits_iff.mp digits.2)
        · rw [Pieces.cut_of_not_mem there] at digits
          exact .line (allDigits_iff.mp digits)
  · intro position
    cases position with
    | line number =>
        rw [isPosition, Pieces.cut_of_not_mem number.colon_not_mem]
        exact allDigits_iff.mpr number
    | column number place =>
        rw [List.cons_append, isPosition, Pieces.cut_cons_of_not_mem number.colon_not_mem]
        dsimp only
        rw [allDigits_iff.mpr number, allDigits_iff.mpr place]
        rfl

/-- What the user names: the non-empty lines of standard input if there is something to
evaluate and it is not on the command line, else what is on the command line. -/
def sources (c : Config) (input : Bytes) : List Bytes :=
  if c.eval ∧ c.items = [] then Lines.segments input else c.items

theorem all_eq (c : Config) (input : Bytes) :
    all c input = (sources c input).map (classify c.eval) := by
  rw [all, sources]
  split
  case isTrue fromInput =>
      have evaluates : classify c.eval = .expression := by
        funext item
        rw [classify, if_pos fromInput.1]
      rw [expressions_eq, evaluates]
  case isFalse => rfl

end Item

namespace Request

open Directive

/-- What the user names, and the directive that asks for it. -/
inductive Asks (c : Config) (source : Bytes) : Directive → Prop
  | expression (evaluates : c.eval = true) : Asks c source ⟨"eval", [source]⟩
  | position (visits : c.eval = false) (place : Item.Position source) :
      Asks c source ⟨"position", [source]⟩
  | remote (visits : c.eval = false) (named : ¬ Item.Position source)
      (absolute : source.head? = some slash) :
      Asks c source ⟨"file", [remoteLead c ++ source]⟩
  | file (visits : c.eval = false) (named : ¬ Item.Position source)
      (relative : source.head? ≠ some slash) : Asks c source ⟨"file", [source]⟩

/-- Every item is asked for as what it is. -/
theorem asks_ofItem (c : Config) (source : Bytes) :
    Asks c source (ofItem c (Item.classify c.eval source)) := by
  cases evaluates : c.eval with
  | true =>
      rw [Item.classify, if_pos rfl]
      exact .expression evaluates
  | false =>
      rw [Item.classify, if_neg Bool.false_ne_true]
      split
      case isTrue recognized => exact .position evaluates (Item.isPosition_iff.mp recognized)
      case isFalse unrecognized =>
          have named := mt Item.isPosition_iff.mpr unrecognized
          rw [ofItem]
          split
          case isTrue absolute => exact .remote evaluates named absolute
          case isFalse relative => exact .file evaluates named relative

/-! ## The frame -/

/-- The names of the directives about the frame, in the order in which they stand. -/
def frameNames : List String :=
  ["nowait", "current-frame", "display", "parent-id", "frame-parameters", "tty",
    "window-system"]

/-- The directives about the frame for a target and an answer about the terminal. -/
inductive Framing (c : Config) (t : FrameTarget) (terminal : Except TerminalError Terminal) :
    Directive → Prop
  | noWait (leaves : t.noWait = true) : Framing c t terminal ⟨"nowait", []⟩
  | currentFrame (old : c.createFrame = false) : Framing c t terminal ⟨"current-frame", []⟩
  | display {name : String} (asked : t.display = some name) :
      Framing c t terminal ⟨"display", [ofText name]⟩
  | parentId {parent : String} (asked : c.parentId = some parent) :
      Framing c t terminal ⟨"parent-id", [ofText parent]⟩
  | frameParameters {parameters : String} (new : c.createFrame = true)
      (asked : c.frameParameters = some parameters) :
      Framing c t terminal ⟨"frame-parameters", [ofText parameters]⟩
  | terminal {info : Terminal} (wanted : c.createFrame = true ∨ c.eval = false)
      (found : terminal = .ok info) :
      Framing c t terminal ⟨"tty", [info.name, ofText info.type]⟩
  | windowSystem (new : c.createFrame = true) (elsewhere : t.terminal = false) :
      Framing c t terminal ⟨"window-system", []⟩

/-- The part of a body that is about the frame, with what it offers of our terminal. -/
def framePart (c : Config) (t : FrameTarget) (offer : Request) : Request :=
  onlyIf t.noWait (bare "nowait") ++
    onlyIf (!c.createFrame) (bare "current-frame") ++
    optional "display" t.display ++
    optional "parent-id" c.parentId ++
    optional "frame-parameters" (if c.createFrame then c.frameParameters else none) ++
    offer ++
    onlyIf (c.createFrame && !t.terminal) (bare "window-system")

variable {c : Config} {t : FrameTarget} {terminal : Except TerminalError Terminal}
  {items : List Item} {body offer : Request} {d : Directive}

/-- A body that is built is about the frame first, and then about the items. -/
theorem body_ok (built : Request.body c t items terminal = .ok body) :
    ∃ offer, terminalPart c t terminal = .ok offer ∧
      body = framePart c t offer ++ items.map (ofItem c) := by
  rw [Request.body] at built
  cases offered : terminalPart c t terminal with
  | error reason =>
      rw [offered] at built
      nomatch built
  | ok offer =>
      rw [offered] at built
      exact ⟨offer, rfl, (Except.ok.inj built).symm⟩

theorem mem_onlyIf_iff {condition : Bool} {other : Directive} :
    d ∈ onlyIf condition other ↔ condition = true ∧ d = other := by
  rw [onlyIf]
  cases condition <;> simp

theorem mem_optional_iff {name : String} {arg : Option String} :
    d ∈ Directive.optional name arg ↔ ∃ text, arg = some text ∧ d = ⟨name, [ofText text]⟩ := by
  rw [Directive.optional]
  cases arg <;> simp [single]

theorem names_onlyIf (condition : Bool) (name : String) :
    ((onlyIf condition (bare name)).map Directive.name).Sublist [name] := by
  rw [onlyIf]
  cases condition with
  | false => exact List.nil_sublist _
  | true => exact List.Sublist.refl _

theorem names_optional (name : String) (arg : Option String) :
    ((Directive.optional name arg).map Directive.name).Sublist [name] := by
  rw [Directive.optional]
  cases arg with
  | none => exact List.nil_sublist _
  | some text => exact List.Sublist.refl _

theorem wantsTerminal_iff : c.wantsTerminal = true ↔ c.createFrame = true ∨ c.eval = false := by
  simp [Config.wantsTerminal]

/-- Our terminal is offered if it is wanted and there is one, and nothing else is. -/
theorem terminalPart_ok (offered : terminalPart c t terminal = .ok offer) :
    (∃ info, c.wantsTerminal = true ∧ terminal = .ok info ∧
        offer = [⟨"tty", [info.name, ofText info.type]⟩]) ∨
      (¬ ∃ info, c.wantsTerminal = true ∧ terminal = .ok info) ∧ offer = [] := by
  unfold terminalPart at offered
  split at offered
  case isTrue wanted =>
      cases terminal with
      | ok info =>
          cases offered
          exact .inl ⟨info, wanted, rfl, rfl⟩
      | error reason =>
          dsimp only at offered
          split at offered
          case isTrue => nomatch offered
          case isFalse =>
              cases offered
              exact .inr ⟨by simp, rfl⟩
  case isFalse unwanted =>
      cases offered
      exact .inr ⟨fun ⟨_, wanted, _⟩ => unwanted wanted, rfl⟩

theorem mem_offer_iff (offered : terminalPart c t terminal = .ok offer) :
    d ∈ offer ↔ ∃ info, c.wantsTerminal = true ∧ terminal = .ok info ∧
      d = ⟨"tty", [info.name, ofText info.type]⟩ := by
  rcases terminalPart_ok offered with ⟨info, wanted, rfl, rfl⟩ | ⟨missing, rfl⟩
  · simp [wanted]
  · constructor
    · exact nofun
    · rintro ⟨info, wanted, found, -⟩
      exact absurd ⟨info, wanted, found⟩ missing

theorem names_offer (offered : terminalPart c t terminal = .ok offer) :
    (offer.map Directive.name).Sublist ["tty"] := by
  rcases terminalPart_ok offered with ⟨info, -, -, rfl⟩ | ⟨-, rfl⟩
  · exact List.Sublist.refl _
  · exact List.nil_sublist _

/-- The part about the frame has the directives that it is to have. -/
theorem mem_framePart_iff (offered : terminalPart c t terminal = .ok offer) :
    d ∈ framePart c t offer ↔ Framing c t terminal d := by
  simp only [framePart, List.mem_append, mem_onlyIf_iff, mem_optional_iff,
    mem_offer_iff offered, wantsTerminal_iff, bare]
  constructor
  · rintro ((((((⟨leaves, rfl⟩ | ⟨old, rfl⟩) | ⟨name, asked, rfl⟩) | ⟨parent, asked, rfl⟩) |
      ⟨parameters, asked, rfl⟩) | ⟨info, wanted, found, rfl⟩) | ⟨new, rfl⟩)
    · exact .noWait leaves
    · exact .currentFrame (by simpa using old)
    · exact .display asked
    · exact .parentId asked
    · split at asked
      case isTrue new => exact .frameParameters new asked
      case isFalse => nomatch asked
    · exact .terminal wanted found
    · rw [Bool.and_eq_true, Bool.not_eq_true'] at new
      exact .windowSystem new.1 new.2
  · intro framing
    cases framing with
    | noWait leaves => simp [leaves]
    | currentFrame old => simp [old]
    | display asked => simp [asked]
    | parentId asked => simp [asked]
    | frameParameters new asked => simp [new, asked]
    | terminal wanted found => simp [wanted, found]
    | windowSystem new elsewhere => simp [new, elsewhere]

/-- The directives about the frame stand in their order, none of them twice. -/
theorem names_framePart (offered : terminalPart c t terminal = .ok offer) :
    ((framePart c t offer).map Directive.name).Sublist frameNames := by
  simp only [framePart, List.map_append]
  have opening := (names_onlyIf t.noWait "nowait").append
    (names_onlyIf (!c.createFrame) "current-frame")
  have place := (opening.append (names_optional "display" t.display)).append
    (names_optional "parent-id" c.parentId)
  have shape := place.append
    (names_optional "frame-parameters" (if c.createFrame then c.frameParameters else none))
  exact (shape.append (names_offer offered)).append
    (names_onlyIf (c.createFrame && !t.terminal) "window-system")

/-! ## The whole line -/

/-- The names of the directives for items. -/
def itemNames : List String := ["eval", "position", "file"]

/-- The names that a request uses. -/
def allNames : List String := "env" :: "dir" :: (frameNames ++ itemNames)

theorem plain_of_name (known : d.name ∈ allNames) : d.Plain := by
  have solid : ∀ name ∈ allNames, ' ' ∉ name.toList ∧ '\n' ∉ name.toList := by decide
  exact ⟨(solid d.name known).1, (solid d.name known).2⟩

theorem name_opening (there : d ∈ opening c) : d.name = "env" ∨ d.name = "dir" := by
  rw [opening, List.mem_append, List.mem_singleton] at there
  rcases there with entry | rfl
  · split at entry
    case isTrue =>
        obtain ⟨value, -, rfl⟩ := List.mem_map.mp entry
        exact .inl rfl
    case isFalse => nomatch entry
  · exact .inr rfl

theorem name_ofItem (c : Config) (item : Item) : (ofItem c item).name ∈ itemNames := by
  cases item with
  | expression source => exact .head _
  | position text => exact .tail _ (.head _)
  | file path =>
      rw [ofItem]
      split <;> exact .tail _ (.tail _ (.head _))

theorem name_framePart (offered : terminalPart c t terminal = .ok offer)
    (there : d ∈ framePart c t offer) : d.name ∈ frameNames :=
  (names_framePart offered).subset (List.mem_map_of_mem there)

theorem plain_opening (there : d ∈ opening c) : d.Plain := by
  apply plain_of_name
  rcases name_opening there with named | named
  · exact named ▸ List.mem_cons_self
  · exact named ▸ List.mem_cons_of_mem _ List.mem_cons_self

theorem name_body (built : Request.body c t items terminal = .ok body) (there : d ∈ body) :
    d.name ∈ frameNames ++ itemNames := by
  obtain ⟨offer, offered, rfl⟩ := body_ok built
  rcases List.mem_append.mp there with frame | wanted
  · exact List.mem_append_left _ (name_framePart offered frame)
  · obtain ⟨item, -, rfl⟩ := List.mem_map.mp wanted
    exact List.mem_append_right _ (name_ofItem c item)

theorem plain_body (built : Request.body c t items terminal = .ok body) (there : d ∈ body) :
    d.Plain :=
  plain_of_name (.tail _ (.tail _ (name_body built there)))

/-- The line of a request is read back, with its opening or without. -/
theorem decode?_request (built : Request.body c t items terminal = .ok body) :
    decode? (opening c ++ body).encode = some (opening c ++ body) ∧
      decode? body.encode = some body := by
  have plain : ∀ d ∈ body, d.Plain := fun _ there => plain_body built there
  have whole : ∀ d ∈ opening c ++ body, d.Plain := by
    intro d there
    rcases List.mem_append.mp there with first | later
    · exact plain_opening first
    · exact plain d later
  exact ⟨decode?_encode whole, decode?_encode plain⟩

/-- What a request consists of. -/
structure Contents (c : Config) (t : FrameTarget) (input : Bytes)
    (terminal : Except TerminalError Terminal)
    (environment : Request) (directory : Bytes) (frame wanted : Request) : Prop where
  /-- Every variable in its order, for a new frame only. -/
  captured : environment =
    if c.createFrame then
      c.env.bindings.map fun (name, value) => ⟨"env", [name ++ equals :: value]⟩
    else []
  /-- The directory is made remote and ends in a slash, which is added only if it is
  missing. -/
  folder :
    directory.getLast? = some slash ∧
      (directory = remoteLead c ++ c.directory ∨
        directory = remoteLead c ++ c.directory ++ [slash] ∧
          (remoteLead c ++ c.directory).getLast? ≠ some slash)
  /-- Each directive about the frame stands at most once, in the order of the names. -/
  ordered : (frame.map Directive.name).Sublist frameNames
  framed : ∀ d, d ∈ frame ↔ Framing c t terminal d
  /-- There is one directive for each thing that the user names, in order. -/
  asked : List.Forall₂ (Asks c) (Item.sources c input) wanted

theorem withFinalSlash_spec (directory : Bytes) :
    (withFinalSlash directory).getLast? = some slash ∧
      (withFinalSlash directory = directory ∨
        withFinalSlash directory = directory ++ [slash] ∧
          directory.getLast? ≠ some slash) := by
  rw [withFinalSlash]
  split
  case isTrue ended => exact ⟨ended, .inl rfl⟩
  case isFalse missing => exact ⟨List.getLast?_concat, .inr ⟨rfl, missing⟩⟩

theorem opening_eq (c : Config) :
    opening c =
      (if c.createFrame then
        c.env.bindings.map fun (name, value) => ⟨"env", [name ++ equals :: value]⟩
      else []) ++ [⟨"dir", [withFinalSlash (remoteLead c ++ c.directory)]⟩] := by
  rw [opening, Environment.entries, List.map_map]
  rfl

/-- What the server reads from the line of a request is what the user asked for, in
order and with every byte. The line of a request that is sent again has neither
environment nor directory. -/
theorem line_lists_what_was_asked {input : Bytes}
    (built : Request.body c t (Item.all c input) terminal = .ok body) :
    ∃ environment directory frame wanted,
      Contents c t input terminal environment directory frame wanted ∧
        decode? (opening c ++ body).encode =
          some (environment ++ ⟨"dir", [directory]⟩ :: (frame ++ wanted)) ∧
        decode? body.encode = some (frame ++ wanted) := by
  obtain ⟨first, again⟩ := decode?_request built
  obtain ⟨offer, offered, rfl⟩ := body_ok built
  have asked : List.Forall₂ (Asks c) (Item.sources c input)
      ((Item.all c input).map (ofItem c)) := by
    rw [Item.all_eq, List.map_map, List.forall₂_map_right_iff, List.forall₂_same]
    exact fun source _ => asks_ofItem c source
  have contents : Contents c t input terminal
      (if c.createFrame then
        c.env.bindings.map fun (name, value) => ⟨"env", [name ++ equals :: value]⟩
      else [])
      (withFinalSlash (remoteLead c ++ c.directory)) (framePart c t offer)
      ((Item.all c input).map (ofItem c)) :=
    ⟨rfl, withFinalSlash_spec _, names_framePart offered,
      fun _ => mem_framePart_iff offered, asked⟩
  refine ⟨_, _, _, _, contents, ?_, again⟩
  rw [first, opening_eq, List.append_assoc, List.singleton_append]

/-- A visit of files on another machine, in a new frame. -/
def remoteVisit : Config where
  program := "client"
  noWait := true
  quiet := false
  suppressOutput := false
  eval := false
  createFrame := true
  terminal := false
  display := some ":0 1"
  altDisplay := none
  parentId := none
  frameParameters := some "((width . 80))"
  tramp := some "/ssh:h:"
  socketName := none
  serverFile := none
  alternateEditor := none
  timeout := none
  directory := ofText "/w"
  items := [ofText "+3:4", ofText "/etc/x", ofText "-eval", ofText "+3:"]
  env := ⟨[(ofText "A", ofText "-x &"), ([], [newline])]⟩

/-- Arguments that hold what separates tokens, or that look like directives or positions. -/
theorem line_of_remoteVisit :
    let target := FrameTarget.ofConfig remoteVisit
    let terminal := .ok ⟨ofText "/dev/pts/1", "xterm"⟩
    let items := Item.all remoteVisit []
    let body := (Request.body remoteVisit target items terminal).toOption.getD []
    let line := ofText ("-env A=-x&_&& -env =&n -dir /ssh:h:/w/ -nowait -display :0&_1 " ++
      "-frame-parameters ((width&_.&_80)) -tty /dev/pts/1 xterm -window-system " ++
      "-position +3:4 -file /ssh:h:/etc/x -file &-eval -file +3: \n")
    Request.body remoteVisit target items terminal = .ok body ∧
      (opening remoteVisit ++ body).encode = line ∧
      ∃ environment directory frame wanted,
        Contents remoteVisit target [] terminal environment directory frame wanted ∧
          decode? line = some (environment ++ ⟨"dir", [directory]⟩ :: (frame ++ wanted)) := by
  intro target terminal items body line
  have built : Request.body remoteVisit target items terminal = .ok body := rfl
  have encoded : (opening remoteVisit ++ body).encode = line := by decide +kernel
  obtain ⟨environment, directory, frame, wanted, contents, read, -⟩ :=
    line_lists_what_was_asked built
  rw [encoded] at read
  exact ⟨built, encoded, environment, directory, frame, wanted, contents, read⟩

end Request

end EditorClient
