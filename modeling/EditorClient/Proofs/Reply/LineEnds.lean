/-
# Lines that begin where no other is open

Standard output and standard error are usually the same terminal. What a reader prints of
its own accord should begin a line there, and a run should end with one, whichever of the
two outputs was written last. The reader has a single flag for this.

A `Moment` is a line that was acted on. It is `Orderly` if the text of its reply began where
no line was open on either output, if a set flag is right afterwards, and if a run that
ended here would leave no line open. `moments_orderly_iff` says that every moment of a run is
orderly exactly if none of them reports an error without a text while the flag is set: such
a report leaves its own line open and the flag set.
-/

import EditorClient.Proofs.Reply.Output

namespace EditorClient

variable {σ ε : Type}

/-- Whether the text of a reply, if it is printed at all, is to stand on a line of its own. -/
def Reply.beginsLine (suppressed : Bool) : Reply → Bool
  | .print _ => !suppressed
  | .error _ | .unknown _ => true
  | _ => false

namespace ReplyReader

/-- A line that was acted on, and the reader before and after. -/
structure Moment (σ ε : Type) where
  line : Bytes
  before : ReplyReader σ ε
  after : ReplyReader σ ε

namespace Moment

/-- The line is a reply whose text was to stand on a line of its own. -/
def BeginsLine (m : Moment σ ε) : Prop :=
  m.line ≠ [] ∧ (Reply.parse m.line).beginsLine m.before.suppressed = true

/-- Texts begin and runs end where no line is open on either output. -/
structure Orderly (h : ReplyHandler σ ε) (m : Moment σ ε) : Prop where
  /-- After the line end that was due, and before the text of the reply, no line is open. -/
  begins : m.BeginsLine → ∃ q, performAll h (Reply.freshLine m.before.atLineStart) m.before =
    .ok () q ∧ Lines.Closed (q.text true)
  /-- If the flag is set then no line is open. -/
  flag : FlagHolds true m.after
  /-- If this was the last line then no line is open when the run has ended. -/
  ends : ∀ outcome q, closing h m.after = .ok outcome q → Lines.Closed (q.text true)

/-- The server reported an error, but said nothing about it, while the flag was set. -/
def IsBlankReport (m : Moment σ ε) : Prop :=
  m.before.atLineStart = true ∧ Reply.parse m.line = .error []

instance (m : Moment σ ε) : Decidable m.IsBlankReport :=
  inferInstanceAs (Decidable (_ ∧ _))

end Moment

/-- The moments of acting on these lines, up to the first line on which that fails. -/
def momentsOf (h : ReplyHandler σ ε) : List Bytes → ReplyReader σ ε → List (Moment σ ε)
  | [], _ => []
  | line :: rest, r =>
    match dispatch h line r with
    | .ok _ q => ⟨line, r, q⟩ :: momentsOf h rest q
    | .error _ _ => []

/-- The moments of a turn. -/
def Turn.moments (h : ReplyHandler σ ε) (r : ReplyReader σ ε) : Turn → List (Moment σ ε)
  | .message _ => []
  | .feed bytes =>
    momentsOf h (Lines.complete (r.pending ++ bytes)) { r with pending := r.pending ++ bytes }
  | .finish => momentsOf h [r.pending] { r with pending := [] }

/-- The moments of turns, up to the first turn that fails. -/
def moments (h : ReplyHandler σ ε) : List Turn → ReplyReader σ ε → List (Moment σ ε)
  | [], _ => []
  | turn :: rest, r =>
    turn.moments h r ++ match turn.run h r with
      | .ok _ q => moments h rest q
      | .error _ _ => []

variable {h : ReplyHandler σ ε} {r q : ReplyReader σ ε} {m : Moment σ ε}

/-! ## One moment -/

/-- What is done about a reply with a text of its own begins with the line end that is due. -/
theorem exists_freshLine {reply : Reply} {suppressed : Bool}
    (begins : reply.beginsLine suppressed = true) (atLineStart : Bool) :
    ∃ rest, reply.actions atLineStart suppressed = Reply.freshLine atLineStart ++ rest := by
  cases reply with
  | print text =>
      have printed : suppressed = false := by simpa [Reply.beginsLine] using begins
      exact ⟨.out text :: Reply.recordEnd text, by rw [Reply.actions, printed]; rfl⟩
  | error text => exact ⟨_, List.append_assoc _ _ _⟩
  | unknown line => exact ⟨_, rfl⟩
  | serverPid | windowSystemUnsupported | printNoNewline | suspend =>
      exact absurd begins Bool.false_ne_true

/-- A line is acted on in order where the flag was right, unless it is a blank report. -/
theorem orderly_of_flagHolds (done : dispatch h m.line m.before = .ok () m.after)
    (holds : FlagHolds true m.before) (told : ¬ m.IsBlankReport) : m.Orderly h := by
  have flag : FlagHolds true m.after :=
    dispatch_flagHolds holds (fun _ set blank => told ⟨set, blank⟩) done
  refine ⟨?_, flag, fun _ _ closed => closing_closed flag closed⟩
  rintro ⟨nonempty, begins⟩
  obtain ⟨rest, actions⟩ := exists_freshLine begins m.before.atLineStart
  rw [dispatch_of_ne_nil h nonempty, actions, performAll_append] at done
  obtain ⟨_, q, fresh, -⟩ := bind_eq_ok.mp done
  exact ⟨q, fresh, freshLine_closed holds fresh⟩

/-- After a blank report the flag is set, and a line is open. -/
theorem not_flagHolds_of_isBlankReport (done : dispatch h m.line m.before = .ok () m.after)
    (blank : m.IsBlankReport) : ¬ FlagHolds true m.after := by
  obtain ⟨set, reply⟩ := blank
  have nonempty : m.line ≠ [] := by
    intro empty
    rw [empty] at reply
    nomatch reply
  rw [dispatch_of_ne_nil h nonempty, reply, set] at done
  obtain ⟨text, flag⟩ := performAll_text true done
  intro holds
  have closed : Lines.Closed (m.before.text true ++ Bytes.ofText "*ERROR*: ") :=
    text ▸ holds (flag.trans set)
  rcases closed with empty | ended
  · nomatch (List.append_eq_nil_iff.mp empty).2
  · rw [List.getLast?_append] at ended
    nomatch ended

/-! ## Moments of a run -/

/-- The moments of acting on lines. The induction is on the lines, and each of them finds
the flag as the one before has left it. -/
theorem orderly_of_mem_momentsOf {lines : List Bytes} (holds : FlagHolds true r)
    (told : ∀ m ∈ momentsOf h lines r, ¬ m.IsBlankReport) :
    (∀ m ∈ momentsOf h lines r, m.Orderly h) ∧
      ∀ q, lines.forM (dispatch h) r = .ok () q → FlagHolds true q := by
  induction lines generalizing r with
  | nil =>
      refine ⟨fun _ there => absurd there List.not_mem_nil, ?_⟩
      rintro _ ⟨⟩
      exact holds
  | cons line rest ih =>
      rw [momentsOf] at told ⊢
      cases done : dispatch h line r with
      | error e t =>
          refine ⟨fun _ there => absurd there List.not_mem_nil, fun q all => ?_⟩
          have failed := bind_of_error done fun _ => rest.forM (dispatch h)
          exact nomatch failed.symm.trans all
      | ok _ t =>
          simp only [done] at told ⊢
          rw [List.forall_mem_cons] at told ⊢
          have here : Moment.Orderly h ⟨line, r, t⟩ := orderly_of_flagHolds done holds told.1
          obtain ⟨later, ended⟩ := ih here.flag told.2
          refine ⟨⟨here, later⟩, fun q all => ?_⟩
          exact ended q ((bind_of_ok done fun _ => rest.forM (dispatch h)).symm.trans all)

/-- The moments of a turn, and how it ends. -/
theorem orderly_of_mem_turn {turn : Turn} (holds : FlagHolds true r)
    (told : ∀ m ∈ turn.moments h r, ¬ m.IsBlankReport) :
    (∀ m ∈ turn.moments h r, m.Orderly h) ∧ ∀ q, turn.run h r = .ok () q →
      FlagHolds true q ∧ (turn = .finish → Lines.Closed (q.text true)) := by
  cases turn with
  | message text =>
      refine ⟨fun _ there => absurd there List.not_mem_nil, fun q shown => ⟨?_, nofun⟩⟩
      exact showOpen_flagHolds true shown
  | feed bytes =>
      have arrived : FlagHolds true { r with pending := r.pending ++ bytes } := holds
      obtain ⟨orderly, ended⟩ := orderly_of_mem_momentsOf arrived told
      refine ⟨orderly, fun q fed => ⟨?_, nofun⟩⟩
      change feed h bytes r = _ at fed
      obtain ⟨t, lines, rfl⟩ := feed_ok fed
      have kept : FlagHolds true { t with pending := Lines.tail (r.pending ++ bytes) } :=
        ended t lines
      exact kept.flushed
  | finish =>
      have idle : FlagHolds true { r with pending := [] } := holds
      obtain ⟨orderly, ended⟩ := orderly_of_mem_momentsOf idle told
      refine ⟨orderly, fun q finished => ?_⟩
      change (finish h >>= fun _ => pure ()) r = _ at finished
      obtain ⟨outcome, t, done, same⟩ := bind_eq_ok.mp finished
      cases same
      rw [finish_apply] at done
      obtain ⟨_, middle, last, closes⟩ := bind_eq_ok.mp done
      have closed := closing_closed (ended middle (forM_singleton (dispatch h) _ ▸ last)) closes
      exact ⟨fun _ => closed, fun _ => closed⟩

/-- The moments of turns, and how they end. The induction is on the turns, and each of them
finds the flag as the one before has left it. -/
theorem orderly_of_mem_moments {turns : List Turn} (holds : FlagHolds true r)
    (told : ∀ m ∈ moments h turns r, ¬ m.IsBlankReport) :
    (∀ m ∈ moments h turns r, m.Orderly h) ∧ ∀ q, runTurns h turns r = .ok () q →
      turns.getLast? = some .finish → Lines.Closed (q.text true) := by
  induction turns generalizing r with
  | nil => exact ⟨fun _ there => absurd there List.not_mem_nil, fun _ _ last => nomatch last⟩
  | cons turn rest ih =>
      rw [moments] at told ⊢
      rw [List.forall_mem_append] at told ⊢
      obtain ⟨orderly, ended⟩ := orderly_of_mem_turn holds told.1
      cases done : turn.run h r with
      | error e t =>
          refine ⟨⟨orderly, fun _ there => absurd there List.not_mem_nil⟩, fun q all => ?_⟩
          have failed := bind_of_error done fun _ => runTurns h rest
          exact nomatch failed.symm.trans all
      | ok _ t =>
          simp only [done] at told ⊢
          obtain ⟨flag, closed⟩ := ended t done
          obtain ⟨later, final⟩ := ih flag told.2
          refine ⟨⟨orderly, later⟩, fun q all last => ?_⟩
          have others : runTurns h rest t = .ok () q :=
            (bind_of_ok done fun _ => runTurns h rest).symm.trans all
          cases rest with
          | nil =>
              cases others
              exact closed (Option.some.inj last)
          | cons next others' => exact final q others last

/-- A moment is what acting on its line does. -/
theorem dispatch_of_mem_momentsOf {lines : List Bytes} (there : m ∈ momentsOf h lines r) :
    dispatch h m.line m.before = .ok () m.after := by
  induction lines generalizing r with
  | nil => exact absurd there List.not_mem_nil
  | cons line rest ih =>
      rw [momentsOf] at there
      cases done : dispatch h line r with
      | error e t =>
          simp only [done] at there
          exact absurd there List.not_mem_nil
      | ok _ t =>
          simp only [done] at there
          rcases List.mem_cons.mp there with rfl | later
          · exact done
          · exact ih later

theorem dispatch_of_mem_moments {turns : List Turn} (there : m ∈ moments h turns r) :
    dispatch h m.line m.before = .ok () m.after := by
  induction turns generalizing r with
  | nil => exact absurd there List.not_mem_nil
  | cons turn rest ih =>
      rcases List.mem_append.mp there with here | later
      · cases turn with
        | message => exact absurd here List.not_mem_nil
        | feed bytes => exact dispatch_of_mem_momentsOf here
        | finish => exact dispatch_of_mem_momentsOf here
      · cases done : turn.run h r with
        | error e t =>
            simp only [done] at later
            exact absurd later List.not_mem_nil
        | ok _ t =>
            simp only [done] at later
            exact ih later

/-- Whatever a new reader is given to read and to show, in any order: every line that it acts
on is acted on in order exactly if none of them reports an error without a text while the
flag is set. And if there is none, a run that has come to its end leaves no line open. -/
theorem moments_orderly_iff (h : ReplyHandler σ ε) (suppressed : Bool) (out err : Sink) (s : σ)
    (turns : List Turn) :
    let r : ReplyReader σ ε := { suppressed, out, err, state := s }
    ((∀ m ∈ moments h turns r, m.Orderly h) ↔ ∀ m ∈ moments h turns r, ¬ m.IsBlankReport) ∧
      ((∀ m ∈ moments h turns r, ¬ m.IsBlankReport) → ∀ q, runTurns h turns r = .ok () q →
        turns.getLast? = some .finish → Lines.Closed (q.text true)) := by
  intro r
  have new : FlagHolds true r := fun _ => Lines.closed_nil
  refine ⟨⟨fun orderly m there blank => ?_, fun told => (orderly_of_mem_moments new told).1⟩,
    fun told => (orderly_of_mem_moments new told).2⟩
  exact not_flagHolds_of_isBlankReport (dispatch_of_mem_moments there) blank (orderly m there).flag

/-- A message, an error, a text that is continued, and an error without a text while the flag
is not set. -/
theorem moments_orderly_of_told :
    let r : ReplyReader Nat Unit := { suppressed := false, state := 0 }
    let turns : List Turn := [.message "Waiting", .feed (Bytes.ofText "-error a\n-print b&"),
      .feed (Bytes.ofText "n\n-print-nonl c\n-error\n-bogus"), .finish]
    (∀ m ∈ moments callCounter turns r, ¬ m.IsBlankReport) ∧
      (∀ m ∈ moments callCounter turns r, m.Orderly callCounter) ∧
      ∀ q, runTurns callCounter turns r = .ok () q → Lines.Closed (q.text true) := by
  intro r turns
  have told : ∀ m ∈ moments callCounter turns r, ¬ m.IsBlankReport := by decide +kernel
  obtain ⟨orderly, ended⟩ := moments_orderly_iff callCounter false {} {} 0 turns
  exact ⟨told, orderly.mpr told, fun q done => ended told q done rfl⟩

/-- An error without a text leaves its line open at the end of the run, and the next text
continues it. -/
theorem blank_report_leaves_line_open :
    let r : ReplyReader Nat Unit := { suppressed := false, state := 0 }
    let texts (turns : List Turn) := match runTurns callCounter turns r with
      | .ok _ q => some (q.text true)
      | .error _ _ => none
    texts [.feed (Bytes.ofText "-error \n"), .finish] = some (Bytes.ofText "*ERROR*: ") ∧
      texts [.feed (Bytes.ofText "-error \n-print x\n"), .finish] =
        some (Bytes.ofText "*ERROR*: x\n") ∧
      ¬ Lines.Closed (Bytes.ofText "*ERROR*: ") := by
  decide +kernel

end ReplyReader

end EditorClient
