/-
# Suppressed output leaves no trace

Where printing is suppressed, a line that asks for printing does nothing at all, not even
to the flag that says whether a line is open. So such lines can be left out of a stream or
replaced by others of their kind, and nothing that happens changes.

The other comparison is of a suppressed run with one that prints. These two write different
things to standard output and disagree about the flag. Neither matters for anything else:
`Reply.filter_isBeyondOut_actions` says that the actions of a reply beyond standard output
are the same whatever the flag and the suppression are, and `performAll_matches_filter` that
the others can be left out as long as standard output takes everything. So the two runs
report the same errors and make the same calls, in the same order, and end alike.
-/

import EditorClient.Proofs.Reply.Invariants

namespace EditorClient

variable {σ ε : Type}

/-! ## What concerns standard output -/

/-- Whether an action concerns more than standard output. -/
def Action.isBeyondOut : Action → Bool
  | .out _ | .flush | .atLineStart _ => false
  | _ => true

/-- Whether something happened beyond standard output. -/
def Event.isBeyondOut : Event ε → Bool
  | .out _ | .flushed => false
  | _ => true

namespace Reply

/-- Whether a reply is a text to print. -/
def isPrint : Reply → Bool
  | .print _ | .printNoNewline _ => true
  | _ => false

/-- What a reply calls for beyond standard output. -/
def actionsBeyondOut : Reply → List Action
  | .serverPid pid => [.serverPid pid]
  | .windowSystemUnsupported => [.unsupported]
  | .error text => [.err (Bytes.ofText "*ERROR*: "), .err text, .serverError]
  | .suspend => [.suspend]
  | .print _ | .printNoNewline _ | .unknown _ => []

theorem filter_isBeyondOut_freshLine (atLineStart : Bool) :
    (freshLine atLineStart).filter Action.isBeyondOut = [] := by
  cases atLineStart <;> rfl

theorem filter_isBeyondOut_recordEnd (text : Bytes) :
    (recordEnd text).filter Action.isBeyondOut = [] := by
  rw [recordEnd]
  split <;> rfl

/-- Neither the flag nor the suppression matters for what is done beyond standard output. -/
theorem filter_isBeyondOut_actions (reply : Reply) (atLineStart suppressed : Bool) :
    (reply.actions atLineStart suppressed).filter Action.isBeyondOut =
      reply.actionsBeyondOut := by
  have prints (text : Bytes) :
      (Action.out text :: recordEnd text).filter Action.isBeyondOut = [] := by
    rw [List.filter_cons_of_neg Bool.false_ne_true, filter_isBeyondOut_recordEnd]
  cases reply with
  | serverPid | windowSystemUnsupported => rfl
  | print text =>
      cases suppressed with
      | true => rfl
      | false =>
          change (freshLine atLineStart ++ _).filter _ = []
          rw [List.filter_append, filter_isBeyondOut_freshLine, prints, List.append_nil]
  | printNoNewline text =>
      cases suppressed with
      | true => rfl
      | false => exact prints text
  | error text =>
      rw [actions, List.filter_append, List.filter_append, filter_isBeyondOut_freshLine,
        List.filter_cons_of_pos rfl, List.filter_cons_of_pos rfl, filter_isBeyondOut_recordEnd]
      rfl
  | suspend | unknown =>
      rw [actions, List.filter_append, filter_isBeyondOut_freshLine]
      rfl

/-- Where printing is suppressed, a text to print calls for nothing. -/
theorem actions_of_isPrint {reply : Reply} (prints : reply.isPrint = true)
    (atLineStart : Bool) : reply.actions atLineStart true = [] := by
  cases reply with
  | print | printNoNewline => rfl
  | _ => nomatch prints

end Reply

namespace ReplyReader

/-! ## Lines to print -/

/-- Whether a line asks for printing. -/
def printsLine (line : Bytes) : Bool := (Reply.parse line).isPrint

/-- Lines that are others, but for some that ask for printing: these are left out, or
others that ask for printing stand in their places. -/
inductive Reprinted : (lines others : List Bytes) → Prop
  | nil : Reprinted [] []
  | kept {lines others : List Bytes} (line : Bytes) (later : Reprinted lines others) :
      Reprinted (line :: lines) (line :: others)
  | deleted {lines others : List Bytes} {line : Bytes} (prints : printsLine line = true)
      (later : Reprinted lines others) : Reprinted (line :: lines) others
  | replaced {lines others : List Bytes} {line other : Bytes}
      (prints : printsLine line = true) (prints' : printsLine other = true)
      (later : Reprinted lines others) : Reprinted (line :: lines) (other :: others)

/-- The lines that do not ask for printing. -/
def unprinted (lines : List Bytes) : List Bytes := lines.filter (! printsLine ·)

theorem unprinted_cons_of_prints {line : Bytes} (prints : printsLine line = true)
    (lines : List Bytes) : unprinted (line :: lines) = unprinted lines := by
  rw [unprinted, List.filter_cons_of_neg (by simp [prints]), unprinted]

theorem Reprinted.unprinted_eq {lines others : List Bytes} (edited : Reprinted lines others) :
    unprinted lines = unprinted others := by
  induction edited with
  | nil => rfl
  | kept line later ih => simp only [unprinted, List.filter_cons] at ih ⊢; rw [ih]
  | deleted prints later ih => rw [unprinted_cons_of_prints prints, ih]
  | replaced prints prints' later ih =>
      rw [unprinted_cons_of_prints prints, unprinted_cons_of_prints prints', ih]

/-- A reader that does not print. -/
def Silenced (r : ReplyReader σ ε) : Prop := r.suppressed = true

variable {h : ReplyHandler σ ε}

/-- Nothing lifts the suppression. -/
theorem perform_silenced (h : ReplyHandler σ ε) (action : Action) :
    Preserves Silenced (perform h action) := by
  intro r silenced
  cases action with
  | out bytes => exact writeOut_ends silenced fun _ => silenced
  | err bytes => exact perform_err_ends silenced (fun _ => silenced) fun _ => silenced
  | flush => exact flushOut_ends silenced fun _ => silenced
  | atLineStart | serverError | serverPid => exact .ok silenced
  | unsupported =>
      rw [perform_unsupported]
      exact act_ends (fun _ => silenced) fun _ _ => silenced
  | suspend =>
      rw [perform_suspend]
      exact act_ends (fun _ => silenced) fun _ _ => silenced

theorem dispatch_silenced (h : ReplyHandler σ ε) (line : Bytes) :
    Preserves Silenced (dispatch h line) := by
  intro r silenced
  by_cases empty : line = []
  · subst empty
    exact .ok silenced
  · rw [dispatch_of_ne_nil h empty]
    exact Preserves.forM (fun action _ => perform_silenced h action) silenced

/-- A line that asks for printing changes nothing about a reader that does not print. -/
theorem dispatch_of_prints {line : Bytes} (prints : printsLine line = true)
    {r : ReplyReader σ ε} (silenced : Silenced r) : dispatch h line r = .ok () r := by
  have nonempty : line ≠ [] := by
    rintro rfl
    exact absurd prints (by decide)
  rw [dispatch_of_ne_nil h nonempty, silenced, Reply.actions_of_isPrint prints]
  rfl

/-- Such lines can be left out. The induction is on the lines; the suppression outlasts
each of them. -/
theorem forM_dispatch_unprinted (lines : List Bytes) {r : ReplyReader σ ε}
    (silenced : Silenced r) :
    lines.forM (dispatch h) r = (unprinted lines).forM (dispatch h) r := by
  induction lines generalizing r with
  | nil => rfl
  | cons line rest ih =>
      cases prints : printsLine line with
      | true =>
          rw [unprinted_cons_of_prints prints, ← ih silenced]
          exact bind_of_ok (dispatch_of_prints prints silenced) _
      | false =>
          have same : unprinted (line :: rest) = line :: unprinted rest := by
            rw [unprinted, List.filter_cons_of_pos (by simp [prints]), unprinted]
          rw [same]
          refine bind_congr_right fun _ q done => ih ?_
          have still := dispatch_silenced h line silenced
          rw [done] at still
          exact still.post_of_ok

theorem answer_unprinted (lines : List Bytes) {r : ReplyReader σ ε} (silenced : Silenced r) :
    answer h lines r = answer h (unprinted lines) r :=
  bind_congr_left (forM_dispatch_unprinted lines silenced) _

/-! ## Beside a reader that prints -/

/-- Two readers agree beyond standard output, which takes everything in both. They may
differ in what they wrote there, in the flag, and in whether they print. -/
structure AgreeBeyondOut (r q : ReplyReader σ ε) : Prop where
  outcome : r.outcome = q.outcome
  err : r.err = q.err
  state : r.state = q.state
  log : r.log.filter Event.isBeyondOut = q.log.filter Event.isBeyondOut
  takesAll : r.out = {}
  takesAll' : q.out = {}

variable {r r' q : ReplyReader σ ε}

theorem AgreeBeyondOut.symm (agree : AgreeBeyondOut r q) : AgreeBeyondOut q r :=
  ⟨agree.outcome.symm, agree.err.symm, agree.state.symm, agree.log.symm, agree.takesAll',
    agree.takesAll⟩

/-- Two readers that agree with a third agree with each other. -/
theorem AgreeBeyondOut.of_common (first : AgreeBeyondOut r q) (second : AgreeBeyondOut r' q) :
    AgreeBeyondOut r r' :=
  ⟨first.outcome.trans second.outcome.symm, first.err.trans second.err.symm,
    first.state.trans second.state.symm, first.log.trans second.log.symm, first.takesAll,
    second.takesAll⟩

/-- A reader that has done the same as one of the two can stand in for it. -/
theorem AgreeBeyondOut.of_sameEffects (same : SameEffects r r') (agree : AgreeBeyondOut r' q) :
    AgreeBeyondOut r q where
  outcome := same.outcome.trans agree.outcome
  err := same.err.trans agree.err
  state := same.state.trans agree.state
  log := by
    have beyond (log : List (Event ε)) :
        log.filter Event.isBeyondOut = (log.filter Event.isEffect).filter Event.isBeyondOut := by
      rw [List.filter_filter]
      exact List.filter_congr fun event _ => by cases event <;> rfl
    rw [beyond r.log, same.log, ← beyond, agree.log]
  takesAll := same.out.trans agree.takesAll
  takesAll' := agree.takesAll'

theorem AgreeBeyondOut.record (agree : AgreeBeyondOut r q) (events : List (Event ε)) :
    AgreeBeyondOut (r.record events) (q.record events) where
  __ := agree
  log := by simp only [ReplyReader.record, List.filter_append, agree.log]

theorem AgreeBeyondOut.record_left (agree : AgreeBeyondOut r q) {events : List (Event ε)}
    (silent : ∀ event ∈ events, event.isBeyondOut = false) :
    AgreeBeyondOut (r.record events) q where
  __ := agree
  log := by
    have none : events.reverse.filter Event.isBeyondOut = [] :=
      List.filter_eq_nil_iff.mpr fun event there =>
        ne_true_of_eq_false (silent event (List.mem_reverse.mp there))
    rw [ReplyReader.record, List.filter_append, none, List.nil_append, agree.log]

/-- What concerns standard output alone succeeds, and shows nowhere else. -/
theorem perform_output (h : ReplyHandler σ ε) {action : Action}
    (output : action.isBeyondOut = false) (agree : AgreeBeyondOut r q) :
    ∃ r', perform h action r = .ok () r' ∧ AgreeBeyondOut r' q := by
  cases action with
  | out bytes =>
      have works : r.out.failure bytes = none := by rw [agree.takesAll, Sink.failure_takesAll]
      have changed : AgreeBeyondOut { r with out := r.out.after bytes } q :=
        { agree with takesAll := by rw [agree.takesAll, Sink.after_takesAll] }
      refine ⟨wroteOut bytes r, ?_, changed.record_left ?_⟩
      · change writeOut bytes r = _
        rw [writeOut_apply, works]
      · split
        · exact nofun
        · exact List.forall_mem_singleton.mpr rfl
  | flush =>
      have steady : Steady r := congrArg Sink.flushes agree.takesAll
      exact ⟨_, flushOut_of_steady steady, agree.record_left (List.forall_mem_singleton.mpr rfl)⟩
  | atLineStart now => exact ⟨_, rfl, { agree with }⟩
  | err | serverError | serverPid | unsupported | suspend => nomatch output

theorem act_agrees (f : σ → Except ClientError Unit × σ × List ε) :
    Lockstep AgreeBeyondOut (act f : Step σ ε Unit) (act f) := by
  intro r q agree
  have changed : AgreeBeyondOut { r with state := (f r.state).2.1 }
      { q with state := (f r.state).2.1 } := { agree with state := rfl }
  have next : AgreeBeyondOut (acted f r) (acted f q) := by
    rw [acted, acted, ← agree.state]
    exact changed.record ((f r.state).2.2.map .handler)
  cases ended : (f r.state).1 with
  | ok _ =>
      rw [act_of_ok ended, act_of_ok (agree.state ▸ ended)]
      exact .ok next
  | error e =>
      rw [act_of_error ended, act_of_error (agree.state ▸ ended)]
      exact .error next

theorem writeErr_agrees (bytes : Bytes) :
    Lockstep AgreeBeyondOut (writeErr bytes : Step σ ε Unit) (writeErr bytes) := by
  intro r q agree
  have changed : AgreeBeyondOut { r with err := r.err.after bytes }
      { q with err := r.err.after bytes } := { agree with err := rfl }
  have next := changed.record
    (if r.err.taken bytes = [] then [] else [.err (r.err.taken bytes)])
  rw [writeErr_apply, writeErr_apply, wroteErr, wroteErr, ← agree.err]
  cases r.err.failure bytes with
  | none => exact .ok next
  | some error => exact .error next

theorem flushErr_agrees : Lockstep AgreeBeyondOut (flushErr : Step σ ε Unit) flushErr := by
  intro r q agree
  have next : AgreeBeyondOut { r with err := r.err.flushed } { q with err := r.err.flushed } :=
    { agree with err := rfl }
  rw [flushErr_apply, flushErr_apply, ← agree.err]
  cases r.err.flushFailure with
  | none => exact .ok next
  | some error => exact .error next

/-- What concerns more than standard output, readers that agree do alike. -/
theorem perform_agrees (h : ReplyHandler σ ε) {action : Action}
    (beyond : action.isBeyondOut = true) :
    Lockstep AgreeBeyondOut (perform h action) (perform h action) := by
  cases action with
  | out | flush | atLineStart => nomatch beyond
  | err bytes =>
      exact (writeErr_agrees bytes).bind fun _ => flushErr_agrees
  | serverError => exact .update fun _ _ agree => { agree with outcome := rfl }
  | serverPid pid =>
      refine .update fun r q agree => ?_
      have told : AgreeBeyondOut { r with state := h.serverPid pid r.state }
          { q with state := h.serverPid pid q.state } :=
        { agree with state := by rw [agree.state] }
      exact told.record [.serverPid pid]
  | unsupported =>
      exact .bind (.update fun _ _ agree => agree.record [.unsupported]) fun _ => act_agrees _
  | suspend =>
      exact .bind (.update fun _ _ agree => agree.record [.suspend]) fun _ => act_agrees _

/-- Of a list of actions, those that concern standard output alone can be left out. -/
theorem performAll_matches_filter (h : ReplyHandler σ ε) (actions : List Action)
    (agree : AgreeBeyondOut r q) :
    Matches AgreeBeyondOut (performAll h actions r)
      (performAll h (actions.filter Action.isBeyondOut) q) := by
  induction actions generalizing r q with
  | nil => exact .ok agree
  | cons action rest ih =>
      cases beyond : action.isBeyondOut with
      | true =>
          rw [List.filter_cons_of_pos beyond]
          exact (perform_agrees h beyond agree).bind (fun _ _ _ _ _ later => ih later)
            fun _ _ later => later
      | false =>
          obtain ⟨r', done, still⟩ := perform_output h beyond agree
          rw [List.filter_cons_of_neg (ne_true_of_eq_false beyond)]
          change Matches AgreeBeyondOut ((perform h action >>= fun _ => performAll h rest) r) _
          rw [bind_of_ok done]
          exact ih still

/-- So lists of actions that call for the same beyond standard output are done alike. -/
theorem performAll_agrees (h : ReplyHandler σ ε) {actions others : List Action}
    (same : actions.filter Action.isBeyondOut = others.filter Action.isBeyondOut) :
    Lockstep AgreeBeyondOut (performAll h actions) (performAll h others) := by
  intro r q agree
  have itself : AgreeBeyondOut q q := agree.symm.of_common agree.symm
  have first := performAll_matches_filter h actions agree
  rw [same] at first
  exact first.trans_right (fun _ _ _ => .of_common) (performAll_matches_filter h others itself)

/-- Readers that agree act on a line alike, whether or not they print. -/
theorem dispatch_agrees (h : ReplyHandler σ ε) (line : Bytes) :
    Lockstep AgreeBeyondOut (dispatch h line) (dispatch h line) := by
  intro r q agree
  by_cases empty : line = []
  · subst empty
    exact .ok agree
  · have same (reply : Reply) :
        (reply.actions r.atLineStart r.suppressed).filter Action.isBeyondOut =
          (reply.actions q.atLineStart q.suppressed).filter Action.isBeyondOut := by
      rw [Reply.filter_isBeyondOut_actions, Reply.filter_isBeyondOut_actions]
    rw [dispatch_of_ne_nil h empty, dispatch_of_ne_nil h empty]
    exact performAll_agrees h (same _) agree

theorem closing_agrees (h : ReplyHandler σ ε) :
    Lockstep AgreeBeyondOut (closing h) (closing h) := by
  have nothing (atLineStart : Bool) :
      (Reply.closeLine atLineStart).filter Action.isBeyondOut = [] := by
    cases atLineStart <;> rfl
  apply Lockstep.read
  intro r q agree
  apply (performAll_agrees h ((nothing _).trans (nothing _).symm)).bind _ agree
  intro _
  apply Lockstep.read
  intro s t later
  rw [← later.outcome]
  exact .ok later

theorem answer_agrees (h : ReplyHandler σ ε) (lines : List Bytes) :
    Lockstep AgreeBeyondOut (answer h lines) (answer h lines) :=
  (Lockstep.forM lines (dispatch_agrees h)).bind fun _ => closing_agrees h

/-! ## Whole runs -/

/-- What a reader does that does not print depends on the other lines alone: where lines
that ask for printing are left out of the stream, or others stand in their places, it does
the same, on both sinks and with its handler, in the same order and with the same end. If
standard output takes everything, then a reader that prints, and is otherwise the same,
reports the same errors and makes the same calls, in the same order and with the same end.
However the streams are cut into chunks does not matter to either. Flushes of standard output
do not fail. -/
theorem suppressed_prints_leave_no_trace (h : ReplyHandler σ ε) (r : ReplyReader σ ε)
    (idle : r.pending = []) (steady : Steady r) (chunks : List Bytes) :
    (∀ edited : List Bytes,
      Reprinted (Lines.segments chunks.flatten) (Lines.segments edited.flatten) →
        Matches SameEffects (receive h edited { r with suppressed := true })
          (receive h chunks { r with suppressed := true })) ∧
      (r.out = {} → ∀ cut : List Bytes, cut.flatten = chunks.flatten →
        Matches AgreeBeyondOut (receive h cut { r with suppressed := true })
          (receive h chunks { r with suppressed := false })) := by
  have answered (suppressed : Bool) (chunks : List Bytes) :
      Matches SameEffects (receive h chunks { r with suppressed })
        (answer h (Lines.segments chunks.flatten) { r with suppressed }) :=
    receive_matches (respects_eq h) rfl chunks steady (.refl (fun _ => rfl) _) idle
  constructor
  · intro edited reprinted
    have silenced : Silenced { r with suppressed := true } := rfl
    have first := answered true edited
    rw [answer_unprinted _ silenced, ← reprinted.unprinted_eq,
      ← answer_unprinted _ silenced] at first
    exact first.trans_right
      (fun _ _ _ here there => here.of_common (fun _ _ _ one other => one.trans other.symm) there)
      (answered true chunks)
  · intro takesAll cut same
    have silent := answered true cut
    rw [same] at silent
    have agree : AgreeBeyondOut { r with suppressed := true } { r with suppressed := false } :=
      ⟨rfl, rfl, rfl, rfl, takesAll, takesAll⟩
    have instead (s t u : ReplyReader σ ε) (same : SameEffects s t) (agree : AgreeBeyondOut u t) :
        AgreeBeyondOut s u := .of_sameEffects same agree.symm
    exact silent.trans_right instead ((answered false chunks).trans_right instead
      (answer_agrees h (Lines.segments chunks.flatten) agree))

/-- A stream whose texts would open lines between an error, an unknown line and the end,
without those texts and with others, in other chunks. -/
theorem suppressed_prints_between_errors :
    let r : ReplyReader Nat Unit := { suppressed := false, atLineStart := false, state := 0 }
    let chunks := [Bytes.ofText "-print a\n-error b&nc\n-pri",
      Bytes.ofText "nt-nonl d\n-bogus\n-print"]
    let edited := [Bytes.ofText "-print-nonl &n\n", Bytes.ofText "-error b&nc\n-bogus"]
    let cut := [chunks.flatten]
    r.pending = [] ∧ Steady r ∧ r.out = {} ∧ cut.flatten = chunks.flatten ∧
      Reprinted (Lines.segments chunks.flatten) (Lines.segments edited.flatten) ∧
      Matches SameEffects (receive callCounter edited { r with suppressed := true })
        (receive callCounter chunks { r with suppressed := true }) ∧
      Matches AgreeBeyondOut (receive callCounter cut { r with suppressed := true })
        (receive callCounter chunks { r with suppressed := false }) := by
  intro r chunks edited cut
  have lines : Lines.segments chunks.flatten =
      [Bytes.ofText "-print a", Bytes.ofText "-error b&nc", Bytes.ofText "-print-nonl d",
        Bytes.ofText "-bogus", Bytes.ofText "-print"] := by decide +kernel
  have others : Lines.segments edited.flatten =
      [Bytes.ofText "-print-nonl &n", Bytes.ofText "-error b&nc", Bytes.ofText "-bogus"] := by
    decide +kernel
  have reprinted : Reprinted (Lines.segments chunks.flatten) (Lines.segments edited.flatten) := by
    rw [lines, others]
    exact .replaced (by decide +kernel) (by decide +kernel) (.kept _ (.deleted (by decide +kernel)
      (.kept _ (.deleted (by decide +kernel) .nil))))
  have whole : cut.flatten = chunks.flatten := List.append_nil _
  obtain ⟨sameEffects, beside⟩ := suppressed_prints_leave_no_trace callCounter r rfl rfl chunks
  exact ⟨rfl, rfl, rfl, whole, reprinted, sameEffects edited reprinted, beside rfl cut whole⟩

end ReplyReader

end EditorClient
