/-
# Replies do not depend on how they arrive

A reader of replies is fed the bytes of the server in chunks. What it writes,
what it tells its handler and how it ends are those of acting on the segments of
the whole stream, one after the other; where the stream was cut shows in nothing
but the flushes of standard output, one for each chunk, and in the part of a line
that is kept between chunks.

Readers that differ in these two things alone are `Alike`. `dispatch_lockstep`
says that acting on a line keeps them so, and `feedAll_matches` carries it along
the chunks: what is kept is always the rest of what was fed. Both are stated for
any relation between the states of the handlers that the handler respects, so
that they serve readers whose handlers differ in something that does not matter.

A flush of standard output that fails ends a run, and there are as many of them as
chunks. So what does not depend on the cuts is said of readers that are `Steady`;
everything else about the two sinks may fail at any time.
-/

import EditorClient.Proofs.Lines
import EditorClient.Proofs.Lockstep
import EditorClient.Reply.Reader

namespace EditorClient

variable {σ ε : Type}

/-- Whether something happened beyond a flush of standard output. -/
def Event.isEffect : Event ε → Bool
  | .flushed => false
  | _ => true

namespace ReplyReader

/-- Two readers are alike if they differ at most in the part of a line that they
keep, in events that are not `shown`, and as `Q` allows in what the handler knows. -/
structure Alike (shown : Event ε → Bool) (Q : σ → σ → Prop) (r r' : ReplyReader σ ε) :
    Prop where
  atLineStart : r.atLineStart = r'.atLineStart
  outcome : r.outcome = r'.outcome
  suppressed : r.suppressed = r'.suppressed
  out : r.out = r'.out
  err : r.err = r'.err
  state : Q r.state r'.state
  log : r.log.filter shown = r'.log.filter shown

/-- Readers that have done the same, apart from flushes. -/
abbrev SameEffects : ReplyReader σ ε → ReplyReader σ ε → Prop := Alike Event.isEffect Eq

/-- A handler respects a relation between its states if it answers related states
alike and leaves related states. -/
structure Respects (h : ReplyHandler σ ε) (Q : σ → σ → Prop) : Prop where
  serverPid : ∀ pid s s', Q s s' → Q (h.serverPid pid s) (h.serverPid pid s')
  unsupported : ∀ s s', Q s s' → (h.unsupported s).1 = (h.unsupported s').1 ∧
    Q (h.unsupported s).2.1 (h.unsupported s').2.1 ∧
    (h.unsupported s).2.2 = (h.unsupported s').2.2
  suspend : ∀ s s', Q s s' → Q (h.suspend s).1 (h.suspend s').1 ∧
    (h.suspend s).2 = (h.suspend s').2

/-- Every handler answers equal states alike. -/
theorem respects_eq (h : ReplyHandler σ ε) : Respects h Eq where
  serverPid := by rintro pid s _ rfl; rfl
  unsupported := by rintro s _ rfl; exact ⟨rfl, rfl, rfl⟩
  suspend := by rintro s _ rfl; exact ⟨rfl, rfl⟩

section

variable {shown : Event ε → Bool} {Q : σ → σ → Prop}

theorem Alike.refl (reflexive : ∀ s, Q s s) (r : ReplyReader σ ε) : Alike shown Q r r :=
  ⟨rfl, rfl, rfl, rfl, rfl, reflexive r.state, rfl⟩

/-- Two readers that are like a third one are alike. -/
theorem Alike.of_common {P : σ → σ → Prop} (common : ∀ s s' t, Q s t → Q s' t → P s s')
    {r r' q : ReplyReader σ ε} (first : Alike shown Q r q) (second : Alike shown Q r' q) :
    Alike shown P r r' where
  atLineStart := first.atLineStart.trans second.atLineStart.symm
  outcome := first.outcome.trans second.outcome.symm
  suppressed := first.suppressed.trans second.suppressed.symm
  out := first.out.trans second.out.symm
  err := first.err.trans second.err.symm
  state := common _ _ _ first.state second.state
  log := first.log.trans second.log.symm

/-- Recording the same events. -/
theorem Alike.record {r r' : ReplyReader σ ε} (alike : Alike shown Q r r')
    (events : List (Event ε)) :
    Alike shown Q (ReplyReader.record events r) (ReplyReader.record events r') where
  __ := alike
  log := by simp only [ReplyReader.record, List.filter_append, alike.log]

/-- Recording what is not shown. -/
theorem Alike.record_left {r r' : ReplyReader σ ε} (alike : Alike shown Q r r')
    {event : Event ε} (silent : shown event = false) :
    Alike shown Q (ReplyReader.record [event] r) r' where
  __ := alike
  log := by
    simp only [ReplyReader.record, List.reverse_singleton, List.singleton_append,
      List.filter_cons, silent, Bool.false_eq_true, if_false, alike.log]

/-- A reader after it has written to standard output, as far as that was possible. -/
def wroteOut (bytes : Bytes) (r : ReplyReader σ ε) : ReplyReader σ ε :=
  { r with out := r.out.after bytes }.record
    (if r.out.taken bytes = [] then [] else [.out (r.out.taken bytes)])

/-- A reader after it has written to standard error, as far as that was possible. -/
def wroteErr (bytes : Bytes) (r : ReplyReader σ ε) : ReplyReader σ ε :=
  { r with err := r.err.after bytes }.record
    (if r.err.taken bytes = [] then [] else [.err (r.err.taken bytes)])

/-- A reader after it has written to standard error, and flushed it. -/
def reported (bytes : Bytes) (r : ReplyReader σ ε) : ReplyReader σ ε :=
  { wroteErr bytes r with err := (r.err.after bytes).flushed }

/-- A reader after standard output was flushed. -/
def flushedOut (r : ReplyReader σ ε) : ReplyReader σ ε :=
  { r with out := r.out.flushed }.record [.flushed]

/-- A reader after a step of the handler. -/
def acted (f : σ → Except ClientError Unit × σ × List ε) (r : ReplyReader σ ε) :
    ReplyReader σ ε :=
  { r with state := (f r.state).2.1 }.record ((f r.state).2.2.map .handler)

theorem writeOut_apply (bytes : Bytes) (r : ReplyReader σ ε) :
    writeOut bytes r = match r.out.failure bytes with
      | none => .ok () (wroteOut bytes r)
      | some error => .error (outputFailed error) (wroteOut bytes r) := rfl

theorem flushOut_apply (r : ReplyReader σ ε) :
    flushOut r = match r.out.flushFailure with
      | none => .ok () (flushedOut r)
      | some error => .error (outputFailed error) { r with out := r.out.flushed } := rfl

theorem writeErr_apply (bytes : Bytes) (r : ReplyReader σ ε) :
    writeErr bytes r = match r.err.failure bytes with
      | none => .ok () (wroteErr bytes r)
      | some error => .error (outputFailed error) (wroteErr bytes r) := rfl

theorem flushErr_apply (r : ReplyReader σ ε) :
    flushErr r = match r.err.flushFailure with
      | none => .ok () { r with err := r.err.flushed }
      | some error => .error (outputFailed error) { r with err := r.err.flushed } := rfl

theorem act_of_ok {f : σ → Except ClientError Unit × σ × List ε} {r : ReplyReader σ ε}
    (works : (f r.state).1 = .ok ()) : act f r = .ok () (acted f r) := by
  simp only [act, works]
  rfl

theorem act_of_error {f : σ → Except ClientError Unit × σ × List ε} {r : ReplyReader σ ε}
    {e : ClientError} (fails : (f r.state).1 = .error e) : act f r = .error e (acted f r) := by
  simp only [act, fails]
  rfl

/-! ## Single steps -/

theorem perform_unsupported (h : ReplyHandler σ ε) (r : ReplyReader σ ε) :
    perform h .unsupported r = act h.unsupported (r.record [.unsupported]) := rfl

theorem perform_suspend (h : ReplyHandler σ ε) (r : ReplyReader σ ε) :
    perform h .suspend r = act (fun s => (.ok (), h.suspend s)) (r.record [.suspend]) := rfl

/-- What a step of the handler leaves if it succeeds. -/
theorem act_ok {f : σ → Except ClientError Unit × σ × List ε} {r r' : ReplyReader σ ε} {u : Unit}
    (done : act f r = .ok u r') : (f r.state).1 = .ok () ∧ r' = acted f r := by
  cases ended : (f r.state).1 with
  | ok _ =>
      rw [act_of_ok ended] at done
      cases done
      exact ⟨rfl, rfl⟩
  | error e =>
      rw [act_of_error ended] at done
      nomatch done

/-- A write that succeeds was taken as a whole. -/
theorem writeOut_ok {bytes : Bytes} {r r' : ReplyReader σ ε} {u : Unit}
    (done : writeOut bytes r = .ok u r') : r.out.failure bytes = none ∧ r' = wroteOut bytes r := by
  rw [writeOut_apply] at done
  split at done
  case h_1 whole =>
    cases done
    exact ⟨whole, rfl⟩
  case h_2 => nomatch done

theorem flushOut_ok {r r' : ReplyReader σ ε} {u : Unit} (done : flushOut r = .ok u r') :
    r.out.flushFailure = none ∧ r' = flushedOut r := by
  rw [flushOut_apply] at done
  split at done
  case h_1 works =>
    cases done
    exact ⟨works, rfl⟩
  case h_2 => nomatch done

theorem flushErr_ok {r r' : ReplyReader σ ε} {u : Unit} (done : flushErr r = .ok u r') :
    r.err.flushFailure = none ∧ r' = { r with err := r.err.flushed } := by
  rw [flushErr_apply] at done
  split at done
  case h_1 works =>
    cases done
    exact ⟨works, rfl⟩
  case h_2 => nomatch done

/-- A report on standard error that succeeds was taken as a whole, and flushed. -/
theorem perform_err_ok {h : ReplyHandler σ ε} {bytes : Bytes} {r r' : ReplyReader σ ε} {u : Unit}
    (done : perform h (.err bytes) r = .ok u r') :
    r.err.failure bytes = none ∧ (r.err.after bytes).flushFailure = none ∧
      r' = reported bytes r := by
  obtain ⟨_, q, wrote, flushes⟩ := bind_eq_ok.mp done
  rw [writeErr_apply] at wrote
  split at wrote
  case h_1 whole =>
    cases wrote
    obtain ⟨works, rfl⟩ := flushErr_ok flushes
    exact ⟨whole, works, rfl⟩
  case h_2 => nomatch wrote

section

variable {r : ReplyReader σ ε} {post : ReplyReader σ ε → Prop}
  {failed : ClientError → ReplyReader σ ε → Prop}

theorem writeOut_ends {bytes : Bytes} (works : post (wroteOut bytes r))
    (fails : ∀ error, failed (outputFailed error) (wroteOut bytes r)) :
    Ends (fun _ => post) failed (writeOut bytes r) := by
  rw [writeOut_apply]
  split
  · exact .ok works
  · exact .error (fails _)

theorem flushOut_ends (works : post (flushedOut r))
    (fails : ∀ error, failed (outputFailed error) { r with out := r.out.flushed }) :
    Ends (fun _ => post) failed (flushOut r) := by
  rw [flushOut_apply]
  split
  · exact .ok works
  · exact .error (fails _)

theorem writeErr_ends {bytes : Bytes} (works : post (wroteErr bytes r))
    (fails : ∀ error, failed (outputFailed error) (wroteErr bytes r)) :
    Ends (fun _ => post) failed (writeErr bytes r) := by
  rw [writeErr_apply]
  split
  · exact .ok works
  · exact .error (fails _)

theorem flushErr_ends (works : post { r with err := r.err.flushed })
    (fails : ∀ error, failed (outputFailed error) { r with err := r.err.flushed }) :
    Ends (fun _ => post) failed (flushErr r) := by
  rw [flushErr_apply]
  split
  · exact .ok works
  · exact .error (fails _)

/-- A report is written and then flushed, and both can fail. -/
theorem perform_err_ends {h : ReplyHandler σ ε} {bytes : Bytes} (works : post (reported bytes r))
    (unwritten : ∀ error, failed (outputFailed error) (wroteErr bytes r))
    (unflushed : ∀ error, failed (outputFailed error) (reported bytes r)) :
    Ends (fun _ => post) failed (perform h (.err bytes) r) := by
  have writes : Ends (fun _ q => q = wroteErr bytes r) failed (writeErr bytes r) :=
    writeErr_ends rfl unwritten
  refine writes.bind fun _ q wrote => ?_
  rw [wrote]
  exact flushErr_ends works unflushed

theorem act_ends {f : σ → Except ClientError Unit × σ × List ε}
    (works : (f r.state).1 = .ok () → post (acted f r))
    (fails : ∀ e, (f r.state).1 = .error e → failed e (acted f r)) :
    Ends (fun _ => post) failed (act f r) := by
  cases ended : (f r.state).1 with
  | ok _ =>
      rw [act_of_ok ended]
      exact .ok (works ended)
  | error e =>
      rw [act_of_error ended]
      exact .error (fails e ended)

end

/-! ## Steps of two readers -/

theorem writeOut_lockstep (bytes : Bytes) :
    Lockstep (Alike shown Q) (writeOut bytes) (writeOut bytes) := by
  intro r r' alike
  have changed : Alike shown Q { r with out := r.out.after bytes }
      { r' with out := r.out.after bytes } := { alike with out := rfl }
  have next := changed.record
    (if r.out.taken bytes = [] then [] else [.out (r.out.taken bytes)])
  rw [writeOut_apply, writeOut_apply, wroteOut, wroteOut, ← alike.out]
  cases r.out.failure bytes with
  | none => exact .ok next
  | some error => exact .error next

theorem flushOut_lockstep : Lockstep (Alike shown Q) flushOut flushOut := by
  intro r r' alike
  have next : Alike shown Q { r with out := r.out.flushed } { r' with out := r.out.flushed } :=
    { alike with out := rfl }
  rw [flushOut_apply, flushOut_apply, flushedOut, flushedOut, ← alike.out]
  cases r.out.flushFailure with
  | none => exact .ok (next.record [.flushed])
  | some error => exact .error next

theorem writeErr_lockstep (bytes : Bytes) :
    Lockstep (Alike shown Q) (writeErr bytes) (writeErr bytes) := by
  intro r r' alike
  have changed : Alike shown Q { r with err := r.err.after bytes }
      { r' with err := r.err.after bytes } := { alike with err := rfl }
  have next := changed.record
    (if r.err.taken bytes = [] then [] else [.err (r.err.taken bytes)])
  rw [writeErr_apply, writeErr_apply, wroteErr, wroteErr, ← alike.err]
  cases r.err.failure bytes with
  | none => exact .ok next
  | some error => exact .error next

theorem flushErr_lockstep : Lockstep (Alike shown Q) flushErr flushErr := by
  intro r r' alike
  have next : Alike shown Q { r with err := r.err.flushed } { r' with err := r.err.flushed } :=
    { alike with err := rfl }
  rw [flushErr_apply, flushErr_apply, ← alike.err]
  cases r.err.flushFailure with
  | none => exact .ok next
  | some error => exact .error next

/-- A step of the handler that answers related states alike. -/
theorem act_lockstep {f : σ → Except ClientError Unit × σ × List ε}
    (respects : ∀ s s', Q s s' →
      (f s).1 = (f s').1 ∧ Q (f s).2.1 (f s').2.1 ∧ (f s).2.2 = (f s').2.2) :
    Lockstep (Alike shown Q) (act f) (act f) := by
  intro r r' alike
  obtain ⟨result, state, reports⟩ := respects r.state r'.state alike.state
  have changed : Alike shown Q { r with state := (f r.state).2.1 }
      { r' with state := (f r'.state).2.1 } := { alike with state }
  have next : Alike shown Q (acted f r) (acted f r') := by
    rw [acted, acted, ← reports]
    exact changed.record ((f r.state).2.2.map .handler)
  cases ended : (f r.state).1 with
  | ok _ =>
      rw [act_of_ok ended, act_of_ok (result ▸ ended)]
      exact .ok next
  | error e =>
      rw [act_of_error ended, act_of_error (result ▸ ended)]
      exact .error next

/-- What a reply makes the client do, it does alike. -/
theorem perform_lockstep {h : ReplyHandler σ ε} (respects : Respects h Q) (action : Action) :
    Lockstep (Alike shown Q) (perform h action) (perform h action) := by
  cases action with
  | out bytes => exact writeOut_lockstep bytes
  | err bytes => exact (writeErr_lockstep bytes).bind fun _ => flushErr_lockstep
  | flush => exact flushOut_lockstep
  | atLineStart now => exact .update fun _ _ alike => { alike with atLineStart := rfl }
  | serverError => exact .update fun _ _ alike => { alike with outcome := rfl }
  | serverPid pid =>
      refine .update fun r r' alike => ?_
      have told : Alike shown Q { r with state := h.serverPid pid r.state }
          { r' with state := h.serverPid pid r'.state } :=
        { alike with state := respects.serverPid pid r.state r'.state alike.state }
      exact told.record [.serverPid pid]
  | unsupported =>
      exact .bind (.update fun _ _ alike => alike.record [.unsupported])
        fun _ => act_lockstep respects.unsupported
  | suspend =>
      exact .bind (.update fun _ _ alike => alike.record [.suspend])
        fun _ => act_lockstep fun s s' related => ⟨rfl, respects.suspend s s' related⟩

theorem performAll_lockstep {h : ReplyHandler σ ε} (respects : Respects h Q)
    (actions : List Action) :
    Lockstep (Alike shown Q) (performAll h actions) (performAll h actions) :=
  .forM actions (perform_lockstep respects)

@[simp]
theorem dispatch_nil (h : ReplyHandler σ ε) : dispatch h [] = pure () := rfl

/-- A line makes the client do what its reply says where the reader stands. -/
theorem dispatch_of_ne_nil (h : ReplyHandler σ ε) {line : Bytes} (nonempty : line ≠ [])
    (r : ReplyReader σ ε) : dispatch h line r =
      performAll h ((Reply.parse line).actions r.atLineStart r.suppressed) r := by
  change (if line ≠ [] then performAll h _ else pure ()) r = _
  rw [if_pos nonempty]

/-- Acting on one line keeps readers alike, however they came to be so. -/
theorem dispatch_lockstep {h : ReplyHandler σ ε} (respects : Respects h Q) (line : Bytes) :
    Lockstep (Alike shown Q) (dispatch h line) (dispatch h line) := by
  intro r r' alike
  by_cases empty : line = []
  · subst empty
    exact .ok alike
  · rw [dispatch_of_ne_nil h empty, dispatch_of_ne_nil h empty, ← alike.atLineStart,
      ← alike.suppressed]
    exact performAll_lockstep respects _ alike

/-! ## Flushes that do not fail -/

/-- No flush of standard output fails. -/
def Steady (r : ReplyReader σ ε) : Prop := r.out.Steady

theorem flushOut_of_steady {r : ReplyReader σ ε} (steady : Steady r) :
    flushOut r = .ok () (r.record [.flushed]) := by
  rw [flushOut_apply, steady.flushFailure_eq, flushedOut, steady.flushed_eq]

/-- Nothing that is done makes a flush fail that comes later. -/
theorem perform_steady (h : ReplyHandler σ ε) (action : Action) :
    Preserves Steady (perform h action) := by
  intro r steady
  cases action with
  | out bytes => exact writeOut_ends steady fun _ => steady
  | err bytes => exact perform_err_ends steady (fun _ => steady) fun _ => steady
  | flush =>
      have still : Steady { r with out := r.out.flushed } := by
        rw [Steady, steady.flushed_eq]
        exact steady
      exact flushOut_ends still fun _ => still
  | atLineStart | serverError | serverPid => exact .ok steady
  | unsupported =>
      rw [perform_unsupported]
      exact act_ends (fun _ => steady) fun _ _ => steady
  | suspend =>
      rw [perform_suspend]
      exact act_ends (fun _ => steady) fun _ _ => steady

theorem dispatch_steady (h : ReplyHandler σ ε) (line : Bytes) :
    Preserves Steady (dispatch h line) := by
  intro r steady
  by_cases empty : line = []
  · subst empty
    exact .ok steady
  · rw [dispatch_of_ne_nil h empty]
    exact Preserves.forM (fun action _ => perform_steady h action) steady

theorem forM_dispatch_steady (h : ReplyHandler σ ε) (lines : List Bytes) :
    Preserves Steady (lines.forM (dispatch h)) :=
  .forM fun line _ => dispatch_steady h line

/-! ## Feeding -/

/-- Feed chunks one after the other, until one fails. -/
def feedAll (h : ReplyHandler σ ε) (chunks : List Bytes) : Step σ ε Unit :=
  chunks.forM (feed h)

/-- End the line of the output and say how the run turned out. -/
def closing (h : ReplyHandler σ ε) : Step σ ε Outcome := do
  performAll h (Reply.closeLine (← get).atLineStart)
  return (← get).outcome

/-- Act on lines one after the other, and then close. -/
def answer (h : ReplyHandler σ ε) (lines : List Bytes) : Step σ ε Outcome := do
  lines.forM (dispatch h)
  closing h

/-- Feed chunks and then finish. -/
def receive (h : ReplyHandler σ ε) (chunks : List Bytes) : Step σ ε Outcome := do
  feedAll h chunks
  finish h

theorem feed_apply (h : ReplyHandler σ ε) (bytes : Bytes) (r : ReplyReader σ ε) :
    feed h bytes r =
      ((Lines.complete (r.pending ++ bytes)).forM (dispatch h) >>= fun _ =>
        (modify fun q => { q with pending := Lines.tail (r.pending ++ bytes) }) >>= fun _ =>
          perform h .flush) { r with pending := r.pending ++ bytes } := rfl

theorem feed_steady (h : ReplyHandler σ ε) (bytes : Bytes) : Preserves Steady (feed h bytes) := by
  intro r steady
  rw [feed_apply]
  have ready : Steady { r with pending := r.pending ++ bytes } := steady
  apply (forM_dispatch_steady h _ ready).bind
  intro _ q still
  have kept : Steady { q with pending := Lines.tail (r.pending ++ bytes) } := still
  exact perform_steady h .flush kept

theorem finish_apply (h : ReplyHandler σ ε) (r : ReplyReader σ ε) :
    finish h r =
      (dispatch h r.pending >>= fun _ => closing h) { r with pending := [] } := rfl

theorem closing_lockstep {h : ReplyHandler σ ε} (respects : Respects h Q) :
    Lockstep (Alike shown Q) (closing h) (closing h) := by
  apply Lockstep.read
  intro r r' alike
  rw [← alike.atLineStart]
  apply (performAll_lockstep respects _).bind _ alike
  intro _
  apply Lockstep.read
  intro s s' later
  rw [← later.outcome]
  exact .ok later

/-- Keeping the rest of what arrived does nothing that is shown, and neither does a flush
that works. -/
theorem keep_matches (h : ReplyHandler σ ε) (silent : shown .flushed = false) (rest : Bytes)
    {r r' : ReplyReader σ ε} (steady : Steady r) (alike : Alike shown Q r r') :
    Matches (Alike shown Q)
      (((modify fun q => { q with pending := rest }) >>= fun _ => perform h .flush) r)
      (.ok () r') := by
  have kept : Alike shown Q { r with pending := rest } r' := { alike with }
  have flushes : perform h .flush { r with pending := rest } =
      .ok () ({ r with pending := rest }.record [.flushed]) := flushOut_of_steady steady
  change Matches _ (perform h .flush { r with pending := rest }) _
  rw [flushes]
  exact .ok (kept.record_left silent)

/-- Feeding a chunk is acting on the lines that it completes. -/
theorem feed_matches {h : ReplyHandler σ ε} (respects : Respects h Q)
    (silent : shown .flushed = false) (bytes : Bytes) {r r' : ReplyReader σ ε}
    (steady : Steady r) (alike : Alike shown Q r r') :
    Matches (Alike shown Q) (feed h bytes r)
      ((Lines.complete (r.pending ++ bytes)).forM (dispatch h) r') := by
  have arrived : Alike shown Q { r with pending := r.pending ++ bytes } r' := { alike with }
  have ready : Steady { r with pending := r.pending ++ bytes } := steady
  have lines : Lockstep (Alike shown Q) _ _ :=
    .forM (Lines.complete (r.pending ++ bytes)) (dispatch_lockstep respects)
  have all : Matches (Alike shown Q) (feed h bytes r)
      (((Lines.complete (r.pending ++ bytes)).forM (dispatch h) >>= fun _ => pure ()) r') := by
    rw [feed_apply]
    apply (lines arrived).bind
    · intro _ s s' acted _ later
      have still := forM_dispatch_steady h (Lines.complete (r.pending ++ bytes)) ready
      rw [acted] at still
      exact keep_matches h silent _ still.post_of_ok later
    · intro _ _ later
      exact later
  simpa only [bind_pure_unit] using all

/-- A feed that succeeds has acted on the lines, and then flushed. -/
theorem feed_ok {h : ReplyHandler σ ε} {bytes : Bytes} {r r' : ReplyReader σ ε}
    (fed : feed h bytes r = .ok () r') :
    ∃ s, (Lines.complete (r.pending ++ bytes)).forM (dispatch h)
        { r with pending := r.pending ++ bytes } = .ok () s ∧
      r' = flushedOut { s with pending := Lines.tail (r.pending ++ bytes) } := by
  rw [feed_apply] at fed
  obtain ⟨_, s, acts, ended⟩ := bind_eq_ok.mp fed
  exact ⟨s, acts, (flushOut_ok ended).2⟩

/-- What a successful feed keeps is the rest of what has arrived. -/
theorem pending_of_feed {h : ReplyHandler σ ε} {bytes : Bytes} {r r' : ReplyReader σ ε}
    (fed : feed h bytes r = .ok () r') : r'.pending = Lines.tail (r.pending ++ bytes) := by
  obtain ⟨s, -, rfl⟩ := feed_ok fed
  rfl

theorem forM_dispatch_append (h : ReplyHandler σ ε) (first later : List Bytes) :
    (first ++ later).forM (dispatch h) =
      first.forM (dispatch h) >>= fun _ => later.forM (dispatch h) := List.forM_append

/-- Feeding chunks is acting on the lines that they complete together with what
was kept before. The induction is on the chunks: after each of them what is kept
is again a part of a line, and `Lines.complete_append` cuts the stream there. -/
theorem feedAll_matches {h : ReplyHandler σ ε} (respects : Respects h Q)
    (silent : shown .flushed = false) (chunks : List Bytes) {r r' : ReplyReader σ ε}
    (steady : Steady r) (alike : Alike shown Q r r') (partial_ : Bytes.newline ∉ r.pending) :
    Matches (Alike shown Q) (feedAll h chunks r)
      ((Lines.complete (r.pending ++ chunks.flatten)).forM (dispatch h) r') := by
  induction chunks generalizing r r' with
  | nil =>
      rw [List.flatten_nil, List.append_nil, Lines.complete_of_not_mem partial_]
      exact .ok alike
  | cons bytes rest ih =>
      rw [List.flatten_cons, ← List.append_assoc, Lines.complete_append, forM_dispatch_append]
      apply (feed_matches respects silent bytes steady alike).bind
      · intro _ s s' fed _ later
        have kept := pending_of_feed fed
        have still := feed_steady h bytes steady
        rw [fed] at still
        rw [← kept]
        exact ih still.post_of_ok later (kept ▸ Lines.newline_not_mem_tail _)
      · intro _ _ later
        exact later

/-- What is kept after chunks were fed is the rest of all that has arrived. -/
theorem pending_of_feedAll {h : ReplyHandler σ ε} {chunks : List Bytes}
    {r r' : ReplyReader σ ε} (partial_ : Bytes.newline ∉ r.pending)
    (fed : feedAll h chunks r = .ok () r') :
    r'.pending = Lines.tail (r.pending ++ chunks.flatten) := by
  induction chunks generalizing r with
  | nil =>
      cases fed
      rw [List.flatten_nil, List.append_nil, Lines.tail_of_not_mem partial_]
  | cons bytes rest ih =>
      obtain ⟨_, s, first, others⟩ := bind_eq_ok.mp fed
      have kept := pending_of_feed first
      rw [ih (kept ▸ Lines.newline_not_mem_tail _) others, kept, List.flatten_cons,
        ← List.append_assoc, ← Lines.tail_append]

/-- An empty line changes nothing, so it can be left out. -/
theorem forM_dispatch_filter (h : ReplyHandler σ ε) (lines : List Bytes) :
    (lines.filter (· ≠ [])).forM (dispatch h) = lines.forM (dispatch h) := by
  induction lines with
  | nil => rfl
  | cons line lines ih =>
      by_cases empty : line = []
      · subst empty
        exact ih
      · rw [List.filter_cons_of_pos (by simpa using empty)]
        exact congrArg (fun rest => dispatch h line >>= fun _ => rest) ih

/-- The segments of a stream are answered by acting on its complete lines, then on
its rest, and then closing. -/
theorem answer_segments (h : ReplyHandler σ ε) (stream : Bytes) :
    answer h (Lines.segments stream) =
      (Lines.complete stream).forM (dispatch h) >>= fun _ =>
        dispatch h (Lines.tail stream) >>= fun _ => closing h := by
  rw [answer, Lines.segments_eq, forM_dispatch_filter, forM_dispatch_append, forM_singleton,
    bind_assoc]

/-- Receiving chunks is answering the segments of the whole stream. -/
theorem receive_matches {h : ReplyHandler σ ε} (respects : Respects h Q)
    (silent : shown .flushed = false) (chunks : List Bytes) {r r' : ReplyReader σ ε}
    (steady : Steady r) (alike : Alike shown Q r r') (idle : r.pending = []) :
    Matches (Alike shown Q) (receive h chunks r)
      (answer h (Lines.segments chunks.flatten) r') := by
  have partial_ : Bytes.newline ∉ r.pending := by simp [idle]
  have fed := feedAll_matches respects silent chunks steady alike partial_
  rw [idle, List.nil_append] at fed
  rw [answer_segments]
  apply fed.bind
  · intro _ s s' ended _ later
    have kept := pending_of_feedAll partial_ ended
    rw [idle, List.nil_append] at kept
    rw [finish_apply, kept]
    have last : Alike shown Q { s with pending := [] } s' := { later with }
    exact (dispatch_lockstep respects _).bind (fun _ => closing_lockstep respects) last
  · intro _ _ later
    exact later

end

/-- However the bytes of the server are cut into chunks, receiving them has the
effects of answering the segments of the whole stream: the same bytes on both
sinks and the same calls of the handler, in the same order, and the same outcome
or first error. So neither the cuts nor a newline after the last line matter. A
successful feed keeps exactly what follows the last newline. Both sinks may fail as they
will, but for the flushes of standard output. -/
theorem receive_answers_segments (h : ReplyHandler σ ε) (r : ReplyReader σ ε)
    (idle : r.pending = []) (steady : Steady r) (chunks : List Bytes) :
    Matches SameEffects (receive h chunks r)
        (answer h (Lines.segments chunks.flatten) r) ∧
      (∀ cut : List Bytes,
        cut.flatten = chunks.flatten ∨ cut.flatten = chunks.flatten ++ [Bytes.newline] →
          Matches SameEffects (receive h cut r) (receive h chunks r)) ∧
      ∀ (fed : List Bytes) (r' : ReplyReader σ ε), fed <+: chunks →
        feedAll h fed r = .ok () r' →
          r'.pending = fed.flatten.rtakeWhile (· ≠ Bytes.newline) := by
  have answered (cut : List Bytes) : Matches SameEffects (receive h cut r)
      (answer h (Lines.segments cut.flatten) r) :=
    receive_matches (respects_eq h) rfl cut steady (.refl (fun _ => rfl) r) idle
  refine ⟨answered chunks, fun cut same => ?_, fun fed r' _ ended => ?_⟩
  · have segments : Lines.segments cut.flatten = Lines.segments chunks.flatten := by
      rcases same with same | same
      · rw [same]
      · rw [same, Lines.segments_concat_newline]
    exact (answered cut).trans_right
      (fun _ _ _ first second =>
        first.of_common (fun _ _ _ here there => here.trans there.symm) second)
      (segments ▸ answered chunks)
  · have kept := pending_of_feedAll (by simp [idle]) ended
    rw [kept, idle, List.nil_append, Lines.tail_eq_rtakeWhile]

/-- A handler that counts its calls. -/
def callCounter : ReplyHandler Nat Unit where
  serverPid _ calls := calls + 1
  unsupported calls := (.ok (), calls + 1, [])
  suspend calls := (calls + 1, [])

/-- A stream that is cut inside a quoted character and inside a name, with a sink
that is full before the end. -/
theorem receive_cut_inside_tokens :
    let r : ReplyReader Nat Unit :=
      { suppressed := false, out := { room := ⟨some 9⟩ }, state := 0 }
    r.pending = [] ∧ Steady r ∧
      Matches SameEffects
        (receive callCounter [Bytes.ofText "-print a&", [], Bytes.ofText "_b\n-susp",
          Bytes.ofText "end\n-bogus"] r)
        (answer callCounter [Bytes.ofText "-print a&_b", Bytes.ofText "-suspend",
          Bytes.ofText "-bogus"] r) := by
  refine ⟨rfl, rfl, ?_⟩
  have received := (receive_answers_segments callCounter
    { suppressed := false, out := { room := ⟨some 9⟩ }, state := 0 } rfl rfl
    [Bytes.ofText "-print a&", [], Bytes.ofText "_b\n-susp", Bytes.ofText "end\n-bogus"]).1
  have segments : Lines.segments [Bytes.ofText "-print a&", [], Bytes.ofText "_b\n-susp",
      Bytes.ofText "end\n-bogus"].flatten =
        [Bytes.ofText "-print a&_b", Bytes.ofText "-suspend", Bytes.ofText "-bogus"] := by
    decide
  rwa [segments] at received

end ReplyReader

end EditorClient
