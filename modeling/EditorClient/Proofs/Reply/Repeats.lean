/-
# Lines that are acted on twice

A reader may be called again after a call has failed. A feed that fails on one of its
lines has not let go of those that it acted on: they are kept together with all that
followed, and the next call acts on them again from the first. A feed that has acted on
all of its lines, and only then fails to flush, has let go of them. So has the end of the
replies: a last line is let go of before it is acted on.

To tell a line that is acted on twice from two lines that read the same, a line is
taken with its place in the stream of all bytes that were fed. `acts_in_order_iff`
says when those places are passed once and in order: exactly where no call follows
a feed that failed on a line. The two sinks may fail in any way, and work again later.
-/

import EditorClient.Proofs.Reply.Invariants

namespace EditorClient

/-- A line and the place where it begins in a stream. -/
structure Span where
  start : Nat
  line : Bytes
  deriving DecidableEq, Repr

namespace Span

/-- The place where a span ends. -/
def stop (span : Span) : Nat := span.start + span.line.length

/-- The bytes of a span stand in the stream where it says. -/
def Within (stream : Bytes) (span : Span) : Prop := span.line <+: stream.drop span.start

/-- Each span begins where the ones before it have ended, or later. -/
def InOrder (spans : List Span) : Prop := spans.Pairwise fun a b => a.stop ≤ b.start

instance : DecidablePred InOrder := fun spans =>
  inferInstanceAs (Decidable (spans.Pairwise fun a b => a.stop ≤ b.start))

/-- Lines that follow each other in a stream, with one byte behind each. -/
def placed : Nat → List Bytes → List Span
  | _, [] => []
  | start, line :: rest => ⟨start, line⟩ :: placed (start + line.length + 1) rest

variable {stream : Bytes} {span : Span}

theorem Within.append (within : span.Within stream) (more : Bytes) :
    span.Within (stream ++ more) := by
  rw [Within, List.drop_append]
  exact List.IsPrefix.trans within (List.prefix_append _ _)

/-- Fewer lines are placed where the same lines of more are. -/
theorem placed_mono {fewer lines : List Bytes} (start : Nat) (first : fewer <+: lines) :
    placed start fewer <+: placed start lines := by
  induction fewer generalizing lines start with
  | nil => exact List.nil_prefix
  | cons line fewer ih =>
      obtain ⟨more, rfl⟩ := first
      exact List.cons_prefix_cons.mpr ⟨rfl, ih _ (List.prefix_append fewer more)⟩

theorem le_start_of_mem_placed {start : Nat} {lines : List Bytes}
    (there : span ∈ placed start lines) : start ≤ span.start := by
  induction lines generalizing start with
  | nil => exact absurd there List.not_mem_nil
  | cons line lines ih =>
      rcases List.mem_cons.mp there with rfl | later
      · exact Nat.le_refl start
      · have next : start + line.length + 1 ≤ span.start := ih later
        omega

theorem inOrder_placed (start : Nat) (lines : List Bytes) : InOrder (placed start lines) := by
  induction lines generalizing start with
  | nil => exact .nil
  | cons line lines ih =>
      apply List.Pairwise.cons
      · intro span later
        exact Nat.le_trans (Nat.le_succ _) (le_start_of_mem_placed later)
      · exact ih _

/-- Complete lines stand in their stream where they are placed, and end before the rest. -/
theorem within_of_mem_placed (before : Bytes) (lines : List Bytes) (rest : Bytes)
    (there : span ∈ placed before.length lines) :
    span.Within (before ++ (lines.flatMap (· ++ [Bytes.newline]) ++ rest)) ∧
      span.stop < before.length + (lines.flatMap (· ++ [Bytes.newline])).length := by
  induction lines generalizing before with
  | nil => exact absurd there List.not_mem_nil
  | cons line lines ih =>
      rcases List.mem_cons.mp there with rfl | later
      · constructor
        · simp [Within, List.append_assoc]
        · simp only [stop, List.flatMap_cons, List.length_append, List.length_singleton]
          omega
      · have length : (before ++ line ++ [Bytes.newline]).length =
            before.length + line.length + 1 := by simp [Nat.add_assoc]
        obtain ⟨within, ends⟩ := ih (before ++ line ++ [Bytes.newline]) (length.symm ▸ later)
        simp only [List.flatMap_cons, List.length_append, List.length_singleton,
          List.append_assoc] at within ends ⊢
        exact ⟨within, by omega⟩

end Span

namespace ReplyReader

open EditorClient.Span

variable {σ ε : Type}

/-- A call of a reader. -/
inductive Call
  | feed (bytes : Bytes)
  | finish
  deriving DecidableEq, Repr

/-- The lines on which a reader begins to act, given these: all up to the first on which
it fails. -/
def begun (h : ReplyHandler σ ε) : List Bytes → ReplyReader σ ε → List Bytes
  | [], _ => []
  | line :: rest, r =>
    line :: match dispatch h line r with
      | .ok _ r' => begun h rest r'
      | .error _ _ => []

namespace Call

/-- The bytes that a call brings. -/
def bytes : Call → Bytes
  | .feed bytes => bytes
  | .finish => []

/-- The lines that a call finds, where these bytes were kept. -/
def lines (kept : Bytes) : Call → List Bytes
  | .feed bytes => Lines.complete (kept ++ bytes)
  | .finish => [kept]

/-- What a call does. -/
def run (h : ReplyHandler σ ε) : Call → Step σ ε Unit
  | .feed bytes => ReplyReader.feed h bytes
  | .finish => do let _ ← ReplyReader.finish h

/-- What a call does once it has acted on its lines. -/
def ending (h : ReplyHandler σ ε) : Call → Step σ ε Unit
  | .feed _ => perform h .flush
  | .finish => do let _ ← closing h

/-- The reader after a call, whether the call failed or not. -/
def after (h : ReplyHandler σ ε) (r : ReplyReader σ ε) (c : Call) : ReplyReader σ ε :=
  match c.run h r with
  | .ok _ r' | .error _ r' => r'

/-- The lines on which a call begins to act and their places, where so many bytes were
fed before. What was kept are the last of them. An empty line is no reply. -/
def spans (h : ReplyHandler σ ε) (fed : Nat) (r : ReplyReader σ ε) (c : Call) : List Span :=
  (placed (fed - r.pending.length) (begun h (c.lines r.pending) r)).filter (·.line ≠ [])

/-- A call is a feed, and it fails before it has let go of its lines: one that was
complete is still kept. -/
def Breaks (h : ReplyHandler σ ε) (r : ReplyReader σ ε) : Call → Prop
  | .feed bytes => ∃ e r', ReplyReader.feed h bytes r = .error e r' ∧
      Bytes.newline ∈ r'.pending
  | .finish => False

end Call

/-- The lines on which calls begin to act and their places, where so many bytes were fed
before. A call follows the one before it whether that failed or not. -/
def spans (h : ReplyHandler σ ε) : Nat → ReplyReader σ ε → List Call → List Span
  | _, _, [] => []
  | fed, r, c :: rest =>
    c.spans h fed r ++ spans h (fed + c.bytes.length) (c.after h r) rest

/-- No call follows a feed that failed before it had let go of its lines. -/
def StopsWhenBroken (h : ReplyHandler σ ε) : ReplyReader σ ε → List Call → Prop
  | _, [] => True
  | r, c :: rest => (c.Breaks h r → rest = []) ∧ StopsWhenBroken h (c.after h r) rest

variable {h : ReplyHandler σ ε} {r r' : ReplyReader σ ε}

/-! ## The lines that were begun -/

theorem begun_initial (h : ReplyHandler σ ε) (lines : List Bytes) (r : ReplyReader σ ε) :
    begun h lines r <+: lines := by
  induction lines generalizing r with
  | nil => exact List.nil_prefix
  | cons line rest ih =>
      refine List.cons_prefix_cons.mpr ⟨rfl, ?_⟩
      cases dispatch h line r with
      | ok _ r' => exact ih r'
      | error _ _ => exact List.nil_prefix

/-- The lines that were not begun make no difference. -/
theorem forM_begun (h : ReplyHandler σ ε) (lines : List Bytes) (r : ReplyReader σ ε) :
    (begun h lines r).forM (dispatch h) r = lines.forM (dispatch h) r := by
  induction lines generalizing r with
  | nil => rfl
  | cons line rest ih =>
      change (dispatch h line >>= fun _ => _) r = (dispatch h line >>= fun _ => _) r
      cases acted : dispatch h line r with
      | ok _ r' =>
          rw [bind_of_ok acted, bind_of_ok acted]
          exact ih r'
      | error _ _ => rw [bind_of_error acted, bind_of_error acted]

/-- The first line that is not empty is begun, whatever comes later. -/
theorem exists_mem_placed_begun {lines : List Bytes} (some_ : ∃ line ∈ lines, line ≠ []) :
    ∃ place line, line ≠ [] ∧ ∀ (start : Nat) (more : List Bytes) (r : ReplyReader σ ε),
      ⟨start + place, line⟩ ∈ placed start (begun h (lines ++ more) r) := by
  induction lines with
  | nil => simp at some_
  | cons line rest ih =>
      by_cases empty : line = []
      · subst empty
        obtain ⟨place, line, nonempty, there⟩ := ih (by simpa using some_)
        refine ⟨place + 1, line, nonempty, fun start more r => List.mem_cons_of_mem _ ?_⟩
        have next := there (start + 1) more r
        rwa [Nat.add_assoc, Nat.add_comm 1] at next
      · exact ⟨0, line, empty, fun start more r => List.mem_cons_self⟩

/-- A feed fails on one of its lines and keeps all that it found, or it acts on all of them
and keeps the rest, whether its flush works or not. -/
theorem feed_cases (h : ReplyHandler σ ε) (bytes : Bytes) (r : ReplyReader σ ε) :
    let acts := (Lines.complete (r.pending ++ bytes)).forM (dispatch h)
      { r with pending := r.pending ++ bytes }
    (∃ e r', acts = .error e r' ∧ feed h bytes r = .error e r' ∧
        r'.pending = r.pending ++ bytes) ∨
      (∃ q, acts = .ok () q) ∧
        Ends (fun _ r' => r'.pending = Lines.tail (r.pending ++ bytes))
          (fun _ r' => r'.pending = Lines.tail (r.pending ++ bytes)) (feed h bytes r) := by
  intro acts
  have keeps : Ends _ _ acts := forM_dispatch_pending h _ _
  cases ended : acts with
  | error e q =>
      rw [ended] at keeps
      refine .inl ⟨e, q, rfl, ?_, keeps.failed_of_error⟩
      rw [feed_apply, bind_of_error ended]
  | ok _ q =>
      refine .inr ⟨⟨q, rfl⟩, ?_⟩
      rw [feed_apply, bind_of_ok ended]
      exact flushOut_ends rfl fun _ => rfl

namespace Call

/-- What a call passes of the bytes that it finds, if it does not break off. -/
def passed (kept : Bytes) : Call → Bytes
  | .feed bytes => (Lines.complete (kept ++ bytes)).flatMap (· ++ [Bytes.newline])
  | .finish => kept

/-- What a call leaves of the bytes that it finds, if it does not break off. -/
def left (kept : Bytes) : Call → Bytes
  | .feed bytes => Lines.tail (kept ++ bytes)
  | .finish => []

theorem passed_append_left (kept : Bytes) (c : Call) :
    c.passed kept ++ c.left kept = kept ++ c.bytes := by
  cases c with
  | feed bytes => exact Lines.flatMap_complete_append_tail (kept ++ bytes)
  | finish => rfl

/-- A feed that breaks off does so on one of its lines, and keeps all that it found. -/
theorem acts_of_breaks {bytes : Bytes} (breaks : (Call.feed bytes).Breaks h r) :
    ∃ e r', (Lines.complete (r.pending ++ bytes)).forM (dispatch h)
        { r with pending := r.pending ++ bytes } = .error e r' ∧
      ReplyReader.feed h bytes r = .error e r' ∧ r'.pending = r.pending ++ bytes := by
  rcases feed_cases h bytes r with broken | ⟨-, lets⟩
  · exact broken
  · obtain ⟨e, q, failed, still⟩ := breaks
    rw [failed] at lets
    rw [lets.failed_of_error] at still
    exact absurd still (Lines.newline_not_mem_tail _)

/-- A feed that breaks off has found a line. -/
theorem exists_line_of_breaks {bytes : Bytes} (breaks : (Call.feed bytes).Breaks h r) :
    ∃ line ∈ Lines.complete (r.pending ++ bytes), line ≠ [] := by
  by_contra none
  have empty : (Lines.complete (r.pending ++ bytes)).filter (· ≠ []) = [] := by
    simpa using none
  obtain ⟨e, r', failed, -⟩ := acts_of_breaks breaks
  rw [← forM_dispatch_filter, empty] at failed
  nomatch failed

/-- A call that breaks off keeps all that it found. -/
theorem pending_after_of_breaks {c : Call} (breaks : c.Breaks h r) :
    (c.after h r).pending = r.pending ++ c.bytes := by
  cases c with
  | finish => exact breaks.elim
  | feed bytes =>
      obtain ⟨e, r', -, failed, kept⟩ := acts_of_breaks breaks
      rwa [after, run, failed]

/-- Any other call keeps what it does not pass. -/
theorem pending_after {c : Call} (whole : ¬ c.Breaks h r) :
    (c.after h r).pending = c.left r.pending := by
  cases c with
  | feed bytes =>
      rcases feed_cases h bytes r with ⟨e, q, acts, failed, kept⟩ | ⟨-, lets⟩
      · -- Without a line that is complete there is nothing to fail on.
        have partial_ : Bytes.newline ∉ r.pending ++ bytes := fun complete =>
          whole ⟨e, q, failed, kept ▸ complete⟩
        rw [Lines.complete_of_not_mem partial_] at acts
        nomatch acts
      · rw [after, run]
        generalize ReplyReader.feed h bytes r = result at lets ⊢
        cases lets with
        | ok rest | error rest => exact rest
  | finish =>
      have kept : Ends (fun _ r' => r'.pending = []) (fun _ r' => r'.pending = [])
          (run h .finish r) := (finish_pending h r).bind fun _ t nothing => .ok nothing
      rw [after]
      generalize run h .finish r = result at kept ⊢
      cases kept with
      | ok nothing | error nothing => exact nothing

theorem mem_spans {before : Bytes} {c : Call} {span : Span} :
    span ∈ c.spans h (before ++ r.pending).length r ↔
      span ∈ placed before.length (begun h (c.lines r.pending) r) ∧ span.line ≠ [] := by
  have base : (before ++ r.pending).length - r.pending.length = before.length := by simp
  rw [Call.spans, base, List.mem_filter, decide_eq_true_eq]

/-- The spans of a call are some of its lines, placed where what was kept begins. -/
theorem spans_sublist (h : ReplyHandler σ ε) (before : Bytes) (r : ReplyReader σ ε) (c : Call) :
    (c.spans h (before ++ r.pending).length r).Sublist
      (placed before.length (c.lines r.pending)) := by
  have base : (before ++ r.pending).length - r.pending.length = before.length := by simp
  rw [Call.spans, base]
  exact List.filter_sublist.trans
    (placed_mono before.length (begun_initial h (c.lines r.pending) r)).sublist

theorem inOrder_spans (h : ReplyHandler σ ε) (before : Bytes) (r : ReplyReader σ ε) (c : Call) :
    InOrder (c.spans h (before ++ r.pending).length r) :=
  (inOrder_placed before.length (c.lines r.pending)).sublist (c.spans_sublist h before r)

/-- The spans of a call lie in what the call passes. -/
theorem within_of_mem_spans {before : Bytes} {c : Call} {span : Span}
    (there : span ∈ c.spans h (before ++ r.pending).length r) :
    span.Within (before ++ r.pending ++ c.bytes) ∧ before.length ≤ span.start ∧
      span.stop ≤ (before ++ c.passed r.pending).length := by
  have found := (c.spans_sublist h before r).mem there
  have begins := le_start_of_mem_placed found
  rw [List.append_assoc, ← passed_append_left, List.length_append]
  cases c with
  | feed bytes =>
      obtain ⟨within, ends⟩ := within_of_mem_placed before _ (Lines.tail (r.pending ++ bytes)) found
      exact ⟨within, begins, Nat.le_of_lt ends⟩
  | finish =>
      obtain rfl := List.mem_singleton.mp found
      refine ⟨?_, begins, Nat.le_refl _⟩
      simp [Within, passed, left]

/-- A call that follows one that broke off acts again on a line of that call. -/
theorem overlap_of_breaks {c : Call} (breaks : c.Breaks h r) (before : Bytes) (next : Call) :
    ∃ a ∈ c.spans h (before ++ r.pending).length r,
      ∃ b ∈ next.spans h (before ++ (c.after h r).pending).length (c.after h r),
        ¬ a.stop ≤ b.start := by
  have kept := pending_after_of_breaks breaks
  cases c with
  | finish => exact breaks.elim
  | feed bytes =>
      -- Both calls begin with the same empty lines, so they meet the first other one. A
      -- finish takes all that is kept for a single line, which contains it.
      rw [Call.bytes] at kept
      obtain ⟨place, line, nonempty, there⟩ :=
        exists_mem_placed_begun (h := h) (exists_line_of_breaks breaks)
      have positive := List.length_pos_iff.mpr nonempty
      have first : (⟨before.length + place, line⟩ : Span) ∈
          (Call.feed bytes).spans h (before ++ r.pending).length r := by
        have begun := there before.length [] r
        rw [List.append_nil] at begun
        rw [mem_spans]
        exact ⟨begun, nonempty⟩
      refine ⟨_, first, ?_⟩
      cases next with
      | feed more =>
          refine ⟨⟨before.length + place, line⟩, ?_, by simp only [stop]; omega⟩
          rw [mem_spans, lines, kept, Lines.complete_append]
          exact ⟨there before.length _ _, nonempty⟩
      | finish =>
          refine ⟨⟨before.length, r.pending ++ bytes⟩, ?_, by simp only [stop]; omega⟩
          rw [mem_spans, kept]
          refine ⟨List.mem_cons_self, fun nothing => ?_⟩
          have none : Lines.complete (r.pending ++ bytes) = [] := by
            change r.pending ++ bytes = [] at nothing
            rw [nothing, Lines.complete_nil]
          obtain ⟨line, member, -⟩ := exists_line_of_breaks breaks
          exact absurd (none ▸ member) List.not_mem_nil

/-- After a call the stream is again what was passed and then what is kept. -/
theorem exists_passed (before : Bytes) (c : Call) (r : ReplyReader σ ε) :
    ∃ later, later ++ (c.after h r).pending = before ++ r.pending ++ c.bytes ∧
      before.length ≤ later.length ∧ (c.Breaks h r → later = before) ∧
      (¬ c.Breaks h r → later = before ++ c.passed r.pending) := by
  by_cases breaks : c.Breaks h r
  · refine ⟨before, ?_, Nat.le_refl _, fun _ => rfl, absurd breaks⟩
    rw [pending_after_of_breaks breaks, List.append_assoc]
  · refine ⟨before ++ c.passed r.pending, ?_, by simp, fun broken => absurd broken breaks,
      fun _ => rfl⟩
    rw [pending_after breaks, List.append_assoc, passed_append_left, List.append_assoc]

end Call

/-! ## Calls one after the other -/

/-- The spans of calls stand in the stream, behind what was passed before. -/
theorem within_of_mem_spans {calls : List Call} (before : Bytes) {span : Span}
    (there : span ∈ spans h (before ++ r.pending).length r calls) :
    span.Within (before ++ r.pending ++ calls.flatMap Call.bytes) ∧
      before.length ≤ span.start := by
  induction calls generalizing before r with
  | nil => exact absurd there List.not_mem_nil
  | cons c rest ih =>
      obtain ⟨later, whole, grows, -⟩ := c.exists_passed (h := h) before r
      have fed : (before ++ r.pending).length + c.bytes.length =
          (later ++ (c.after h r).pending).length := by rw [whole, ← List.length_append]
      rw [spans, fed] at there
      rw [List.flatMap_cons, ← List.append_assoc]
      rcases List.mem_append.mp there with here | next
      · obtain ⟨within, begins, -⟩ := Call.within_of_mem_spans here
        exact ⟨within.append _, begins⟩
      · obtain ⟨within, begins⟩ := ih later next
        rw [whole] at within
        exact ⟨within, Nat.le_trans grows begins⟩

/-- Calls act on each place once and in order exactly if none follows a feed that broke off.
The induction is on the calls. A call that does not break off ends before the place where
what is kept begins, and all later spans stand behind that place; one that breaks off is
followed by a span that it has passed already. -/
theorem inOrder_spans_iff (calls : List Call) (before : Bytes) :
    InOrder (spans h (before ++ r.pending).length r calls) ↔ StopsWhenBroken h r calls := by
  induction calls generalizing before r with
  | nil => exact ⟨fun _ => trivial, fun _ => .nil⟩
  | cons c rest ih =>
      obtain ⟨later, whole, -, stays, passes⟩ := c.exists_passed (h := h) before r
      have fed : (before ++ r.pending).length + c.bytes.length =
          (later ++ (c.after h r).pending).length := by rw [whole, ← List.length_append]
      rw [spans, fed, InOrder, List.pairwise_append, StopsWhenBroken]
      have here := c.inOrder_spans h before r
      have next := ih (r := c.after h r) later
      by_cases breaks : c.Breaks h r
      · cases rest with
        | nil =>
            -- A feed that broke off as the last call has nothing behind it to overlap with.
            refine ⟨fun _ => ⟨fun _ => rfl, trivial⟩, fun _ => ⟨here, .nil, ?_⟩⟩
            exact fun _ _ b there => absurd there List.not_mem_nil
        | cons d others =>
            constructor
            · rintro ⟨-, -, ordered⟩
              obtain ⟨a, first, b, second, overlaps⟩ := Call.overlap_of_breaks breaks before d
              rw [← stays breaks] at second
              exact absurd (ordered a first b (List.mem_append_left _ second)) overlaps
            · rintro ⟨stops, -⟩
              exact absurd (stops breaks) (List.cons_ne_nil d others)
      · refine ⟨fun ⟨_, ordered, _⟩ => ⟨fun broken => absurd broken breaks, next.mp ordered⟩,
          fun ⟨_, stops⟩ => ⟨here, next.mpr stops, fun a first b second => ?_⟩⟩
        obtain ⟨-, -, ends⟩ := Call.within_of_mem_spans first
        rw [← passes breaks] at ends
        exact Nat.le_trans ends (within_of_mem_spans later second).2

/-- A call has the effects of acting on the lines that it begins, and of its ending. -/
theorem run_matches (h : ReplyHandler σ ε) (c : Call) (r : ReplyReader σ ε) :
    Matches SameEffects (c.run h r)
      (((begun h (c.lines r.pending) r).forM (dispatch h) >>= fun _ => c.ending h) r) := by
  have same : SameEffects r r := .refl (fun _ => rfl) r
  rw [bind_congr_left (forM_begun h (c.lines r.pending) r)]
  cases c with
  | feed bytes =>
      have arrived : SameEffects { r with pending := r.pending ++ bytes } r := { same with }
      have lines : Lockstep SameEffects _ _ :=
        .forM (Lines.complete (r.pending ++ bytes)) (dispatch_lockstep (respects_eq h))
      rw [Call.run, feed_apply]
      refine (lines arrived).bind (fun _ s s' _ _ later => ?_) fun _ _ later => later
      have kept : SameEffects { s with pending := Lines.tail (r.pending ++ bytes) } s' :=
        { later with }
      exact flushOut_lockstep kept
  | finish =>
      have idle : SameEffects { r with pending := [] } r := { same with }
      have finished : Matches SameEffects (finish h r)
          ((dispatch h r.pending >>= fun _ => closing h) r) := by
        rw [finish_apply]
        exact (dispatch_lockstep (respects_eq h) r.pending).bind
          (fun _ => closing_lockstep (respects_eq h)) idle
      simp only [Call.lines, forM_singleton, Call.ending]
      rw [← bind_assoc]
      exact finished.bind (fun _ _ _ _ _ later => .ok later) fun _ _ later => later

/-- Any calls of a new reader, also after a call has failed, and with sinks that fail as they
will, in writes and in flushes: each has the effects of acting on the lines that it begins,
and of its ending; these lines stand in the stream of all bytes that were fed; and they are
acted on once and in the order of the stream exactly if no call follows a feed that failed
before it had let go of its lines. -/
theorem acts_in_order_iff (h : ReplyHandler σ ε) (suppressed : Bool) (out err : Sink) (s : σ)
    (calls : List Call) :
    let r : ReplyReader σ ε := { suppressed, out, err, state := s }
    (∀ (c : Call) (q : ReplyReader σ ε), Matches SameEffects (c.run h q)
        (((begun h (c.lines q.pending) q).forM (dispatch h) >>= fun _ => c.ending h) q)) ∧
      (∀ span ∈ spans h 0 r calls, span.Within (calls.flatMap Call.bytes)) ∧
      (InOrder (spans h 0 r calls) ↔ StopsWhenBroken h r calls) := by
  intro r
  refine ⟨run_matches h, fun span there => ?_, inOrder_spans_iff (r := r) calls []⟩
  exact (within_of_mem_spans (r := r) [] there).1

/-- A handler that refuses the first time. -/
def refusesOnce : ReplyHandler Bool Unit where
  serverPid _ refused := refused
  unsupported refused := (if refused then .ok () else .error .timeout, true, [])
  suspend refused := (refused, [])

/-- A feed fails on its second line. The next call, which brings nothing, tells the handler
of both lines again. -/
theorem replies_repeated_after_failure :
    let r : ReplyReader Bool Unit := { suppressed := false, state := false }
    let calls : List Call :=
      [.feed (Bytes.ofText "-emacs-pid 7\n-window-system-unsupported\n"), .feed []]
    (calls.foldl (Call.after refusesOnce) r).events =
        [.serverPid 7, .unsupported, .serverPid 7, .unsupported, .flushed] ∧
      (spans refusesOnce 0 r calls).map Span.start = [0, 13, 0, 13] ∧
      ¬ InOrder (spans refusesOnce 0 r calls) := by
  decide +kernel

end ReplyReader

end EditorClient
