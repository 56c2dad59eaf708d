/-
# What a handler keeps, its reader keeps

A reader touches the state of its handler only through the handler. So what every
function of the handler keeps is kept by acting on lines and by feeding chunks,
for as long as nothing fails. A message that is shown touches neither that state
nor the part of a line that waits for its end.
-/

import EditorClient.Proofs.Reply.Chunks

namespace EditorClient

/-- Whether an action concerns the output and nothing else. -/
def Action.isOutput : Action → Bool
  | .out _ | .err _ | .flush | .atLineStart _ => true
  | _ => false

namespace Reply

/-- What a reply calls for beyond output. -/
def notices : Reply → List Action
  | .serverPid pid => [.serverPid pid]
  | .windowSystemUnsupported => [.unsupported]
  | .error _ => [.serverError]
  | .suspend => [.suspend]
  | _ => []

theorem filter_freshLine (atLineStart : Bool) :
    (freshLine atLineStart).filter (! ·.isOutput) = [] := by
  cases atLineStart <;> rfl

theorem filter_recordEnd (text : Bytes) : (recordEnd text).filter (! ·.isOutput) = [] := by
  rw [recordEnd]
  split <;> rfl

/-- Neither the flag nor the suppression of output matters for anything but the output. -/
theorem filter_actions (reply : Reply) (atLineStart suppressed : Bool) :
    (reply.actions atLineStart suppressed).filter (! ·.isOutput) = reply.notices := by
  cases reply with
  | serverPid | windowSystemUnsupported => rfl
  | print text =>
      cases suppressed with
      | true => rfl
      | false =>
          change (freshLine atLineStart ++ .out text :: recordEnd text).filter _ = []
          rw [List.filter_append, filter_freshLine, List.filter_cons_of_neg Bool.false_ne_true,
            filter_recordEnd]
          rfl
  | printNoNewline text =>
      cases suppressed with
      | true => rfl
      | false =>
          change (Action.out text :: recordEnd text).filter _ = []
          rw [List.filter_cons_of_neg Bool.false_ne_true, filter_recordEnd]
  | error text =>
      rw [actions, List.filter_append, List.filter_append, filter_freshLine,
        List.filter_cons_of_neg Bool.false_ne_true, List.filter_cons_of_neg Bool.false_ne_true,
        filter_recordEnd]
      rfl
  | suspend | unknown =>
      rw [actions, List.filter_append, filter_freshLine]
      rfl

theorem mem_actions_iff {action : Action} (beyond : action.isOutput = false) {reply : Reply}
    {atLineStart suppressed : Bool} :
    action ∈ reply.actions atLineStart suppressed ↔ action ∈ reply.notices := by
  rw [← filter_actions reply atLineStart suppressed, List.mem_filter, beyond]
  simp

end Reply

namespace ReplyReader

variable {σ ε : Type} {h : ReplyHandler σ ε} {I : σ → Prop}

/-- A handler keeps a property of its state in all that succeeds. -/
structure HandlerKeeps (h : ReplyHandler σ ε) (I : σ → Prop) : Prop where
  serverPid : ∀ pid s, I s → I (h.serverPid pid s)
  unsupported : ∀ s, I s → (h.unsupported s).1 = .ok () → I (h.unsupported s).2.1
  suspend : ∀ s, I s → I (h.suspend s).1

theorem writeOut_keeps (bytes : Bytes) {J : ReplyReader σ ε → Prop}
    (keeps : ∀ r, J r → J (wroteOut bytes r)) : Keeps J (writeOut bytes) := by
  intro r _ r' holds done
  obtain ⟨-, rfl⟩ := writeOut_ok done
  exact keeps r holds

theorem flushOut_keeps {J : ReplyReader σ ε → Prop} (keeps : ∀ r, J r → J (flushedOut r)) :
    Keeps J flushOut := by
  intro r _ r' holds done
  obtain ⟨-, rfl⟩ := flushOut_ok done
  exact keeps r holds

theorem perform_err_keeps (h : ReplyHandler σ ε) (bytes : Bytes) {J : ReplyReader σ ε → Prop}
    (keeps : ∀ r, J r → J (reported bytes r)) : Keeps J (perform h (.err bytes)) := by
  intro r _ r' holds done
  obtain ⟨-, -, rfl⟩ := perform_err_ok done
  exact keeps r holds

theorem perform_keeps (keeps : HandlerKeeps h I) (action : Action) :
    Keeps (fun r => I r.state) (perform h action) := by
  cases action with
  | out bytes => exact writeOut_keeps bytes fun _ holds => holds
  | err bytes => exact perform_err_keeps h bytes fun _ holds => holds
  | flush => exact flushOut_keeps fun _ holds => holds
  | atLineStart now => exact .update fun _ holds => holds
  | serverError => exact .update fun _ holds => holds
  | serverPid pid => exact .update fun r holds => keeps.serverPid pid r.state holds
  | unsupported =>
      refine .bind (.update fun _ holds => holds) fun _ => ?_
      intro r _ r' holds done
      obtain ⟨works, rfl⟩ := act_ok done
      exact keeps.unsupported r.state holds works
  | suspend =>
      refine .bind (.update fun _ holds => holds) fun _ => ?_
      intro r _ r' holds done
      obtain ⟨-, rfl⟩ := act_ok done
      exact keeps.suspend r.state holds

theorem dispatch_keeps (keeps : HandlerKeeps h I) (line : Bytes) :
    Keeps (fun r => I r.state) (dispatch h line) := by
  intro r _ r' holds done
  by_cases empty : line = []
  · subst empty
    cases done
    exact holds
  · rw [dispatch_of_ne_nil h empty] at done
    exact Keeps.forM _ (perform_keeps keeps) holds done

/-- A chunk that was fed leaves what the handler keeps. -/
theorem feed_keeps (keeps : HandlerKeeps h I) (bytes : Bytes) :
    Keeps (fun r => I r.state) (feed h bytes) := by
  intro r _ r' holds done
  obtain ⟨middle, lines, rfl⟩ := feed_ok done
  have all := Keeps.forM (Lines.complete (r.pending ++ bytes)) (dispatch_keeps keeps)
  have kept : I middle.state := all (s := { r with pending := r.pending ++ bytes }) holds lines
  exact kept

/-- A message changes neither the state of the handler nor what was kept of a line. -/
theorem showOpen_keeps (h : ReplyHandler σ ε) (message : String) (s : σ) (kept : Bytes) :
    Keeps (fun r => r.state = s ∧ r.pending = kept) (showOpen h message) := by
  have writes : Keeps (fun r => r.state = s ∧ r.pending = kept)
      (perform h (.out (Bytes.ofText message))) := writeOut_keeps _ fun _ same => same
  have flushes : Keeps (fun r => r.state = s ∧ r.pending = kept) (perform h .flush) :=
    flushOut_keeps fun _ same => same
  have opens : Keeps (fun r => r.state = s ∧ r.pending = kept) (perform h (.atLineStart false)) :=
    .update fun _ same => same
  exact writes.bind fun _ => flushes.bind fun _ => opens.bind fun _ => .skip ()

/-! ## Events -/

theorem events_record (more : List (Event ε)) (r : ReplyReader σ ε) :
    (r.record more).events = r.events ++ more := by
  rw [ReplyReader.events, ReplyReader.record, List.reverse_append, List.reverse_reverse,
    ReplyReader.events]

theorem events_acted (f : σ → Except ClientError Unit × σ × List ε) (r : ReplyReader σ ε) :
    (acted f r).events = r.events ++ (f r.state).2.2.map .handler :=
  events_record _ _

/-- What an action leaves of a reader, whether it works or fails. -/
structure Did (action : Action) (r q : ReplyReader σ ε) : Prop where
  pending : q.pending = r.pending
  outcome : q.outcome = .serverError ↔ r.outcome = .serverError ∨ .serverError = action
  events : ∃ more, q.events = r.events ++ more ∧ (.suspend ∈ more → action = .suspend)

/-- An action that has nothing to do with the outcome brings some events. -/
theorem did_record {action : Action} {r q : ReplyReader σ ε} (more : List (Event ε))
    (quiet : .suspend ∈ more → action = .suspend) (pending : q.pending = r.pending)
    (outcome : q.outcome = r.outcome) (log : q.log = r.log)
    (other : .serverError ≠ action := by simp) : Did action r (q.record more) where
  pending := pending
  outcome := by
    rw [or_iff_left other, ← outcome]
    rfl
  events := by
    refine ⟨more, ?_, quiet⟩
    rw [events_record, ReplyReader.events, ReplyReader.events, log]

theorem did_acted {action : Action} {r q : ReplyReader σ ε}
    (f : σ → Except ClientError Unit × σ × List ε) (did : Did action r q) :
    Did action r (acted f q) where
  pending := did.pending
  outcome := did.outcome
  events := by
    obtain ⟨more, same, quiet⟩ := did.events
    refine ⟨more ++ (f q.state).2.2.map .handler, ?_, fun there => ?_⟩
    · rw [events_acted, same, List.append_assoc]
    · rcases List.mem_append.mp there with told | reported
      · exact quiet told
      · simp at reported

/-- All that an action can do beyond the output. -/
theorem perform_did (h : ReplyHandler σ ε) (action : Action) (r : ReplyReader σ ε) :
    Ends (fun _ => Did action r) (fun _ => Did action r) (perform h action r) := by
  cases action with
  | out bytes =>
      have wrote : Did (.out bytes) r (wroteOut bytes r) :=
        did_record _ (by split <;> simp) rfl rfl rfl
      exact writeOut_ends wrote fun _ => wrote
  | err bytes =>
      have wrote : Did (.err bytes) r (wroteErr bytes r) :=
        did_record _ (by split <;> simp) rfl rfl rfl
      have told : Did (.err bytes) r (reported bytes r) := { wrote with }
      exact perform_err_ends told (fun _ => wrote) fun _ => told
  | flush =>
      have flushed : Did .flush r (flushedOut r) := did_record [.flushed] (by simp) rfl rfl rfl
      have tried : Did .flush r { r with out := r.out.flushed } :=
        ⟨rfl, by simp, [], by simp [ReplyReader.events], by simp⟩
      exact flushOut_ends flushed fun _ => tried
  | atLineStart | serverError => exact .ok ⟨rfl, by simp, [], by simp [ReplyReader.events], by simp⟩
  | serverPid pid => exact .ok (did_record [.serverPid pid] (by simp) rfl rfl rfl)
  | unsupported =>
      have told : Did .unsupported r (r.record [.unsupported]) :=
        did_record _ (by simp) rfl rfl rfl
      rw [perform_unsupported]
      exact act_ends (fun _ => did_acted _ told) fun _ _ => did_acted _ told
  | suspend =>
      have told : Did .suspend r (r.record [.suspend]) :=
        did_record _ (fun _ => rfl) rfl rfl rfl
      rw [perform_suspend]
      exact act_ends (fun _ => did_acted _ told) fun _ _ => did_acted _ told

/-! ## What is kept -/

/-- No action touches what is kept of a line, also where it fails. -/
theorem perform_pending (h : ReplyHandler σ ε) (action : Action) (r : ReplyReader σ ε) :
    Ends (fun _ r' => r'.pending = r.pending) (fun _ r' => r'.pending = r.pending)
      (perform h action r) :=
  (perform_did h action r).mono (fun _ _ did => did.pending) fun _ _ did => did.pending

theorem performAll_pending (h : ReplyHandler σ ε) (actions : List Action)
    (r : ReplyReader σ ε) :
    Ends (fun _ r' => r'.pending = r.pending) (fun _ r' => r'.pending = r.pending)
      (performAll h actions r) := by
  exact Ends.forM_same (fun action _ q same => same ▸ perform_pending h action q) rfl

/-- Acting on a line does not touch what is kept, also where it fails. -/
theorem dispatch_pending (h : ReplyHandler σ ε) (line : Bytes) (r : ReplyReader σ ε) :
    Ends (fun _ r' => r'.pending = r.pending) (fun _ r' => r'.pending = r.pending)
      (dispatch h line r) := by
  by_cases empty : line = []
  · subst empty
    exact .ok rfl
  · rw [dispatch_of_ne_nil h empty]
    exact performAll_pending h _ r

/-- Acting on the lines that have arrived does not let go of them. -/
theorem forM_dispatch_pending (h : ReplyHandler σ ε) (lines : List Bytes) (r : ReplyReader σ ε) :
    Ends (fun _ r' => r'.pending = r.pending) (fun _ r' => r'.pending = r.pending)
      (lines.forM (dispatch h) r) :=
  Ends.forM_same (fun line _ q same => same ▸ dispatch_pending h line q) rfl

/-- Nothing is kept after the end of the replies, also where it fails. -/
theorem finish_pending (h : ReplyHandler σ ε) (r : ReplyReader σ ε) :
    Ends (fun _ r' => r'.pending = []) (fun _ r' => r'.pending = []) (finish h r) := by
  rw [finish_apply]
  refine (dispatch_pending h r.pending { r with pending := [] }).bind
    fun _ q (nothing : q.pending = []) => ?_
  have closes := performAll_pending h (Reply.closeLine q.atLineStart) q
  rw [nothing] at closes
  exact closes.bind fun _ t nothing => .ok nothing

end ReplyReader

end EditorClient
