/-
# Sinks that run full

A reader may write to sinks that take only so many bytes. What it does then is told by what
it does where both sinks take everything: the run is the same up to the first byte that
finds no room, and stops there. Nothing that came before is lost, on either sink, and
nothing that would have come later is done.

The two runs are compared byte by byte, since a sink may run full in the middle of a write.
`CutShort` says how their results belong together. It is kept by every step of a reader
(`StopsShort`), and the only rule in which something is to be shown is the one for a
sequence: where the first part stopped at a full sink, the other run goes on, and what has
happened there by then remains a beginning of what happens.

The unlimited run is itself one with sinks that never run full. So `CutShort` also says who
failed it: its handler.
-/

import EditorClient.Proofs.Reply.Output

namespace EditorClient

variable {σ ε : Type}

namespace Room

theorem after_nil (room : Room) : room.after [] = room := by
  obtain ⟨_ | limit⟩ := room <;> rfl

theorem after_append (room : Room) (first later : Bytes) :
    room.after (first ++ later) = (room.after first).after later := by
  obtain ⟨_ | limit⟩ := room
  · rfl
  · simp only [after, Option.map_some, List.length_append, Nat.sub_sub]

/-- What follows fits if all of it together does. -/
theorem fits_append {room : Room} {first : Bytes} (fits : room.fits first = true)
    (later : Bytes) : (room.after first).fits later = room.fits (first ++ later) := by
  obtain ⟨_ | limit⟩ := room
  · rfl
  · simp only [Room.fits, decide_eq_true_eq] at fits
    simp only [Room.fits, after, Option.map_some, List.length_append, decide_eq_decide]
    omega

/-- Where there is room for a text there is room for each beginning of it. -/
theorem fits_of_begins {room : Room} {first whole : Bytes} (begins : first <+: whole)
    (fits : room.fits whole = true) : room.fits first = true := by
  obtain ⟨_ | limit⟩ := room
  · rfl
  · simp only [Room.fits, decide_eq_true_eq] at fits ⊢
    exact begins.length_le.trans fits

/-- Where there is not room for everything, as much is taken as there is room for, and there
is a byte that is not taken. -/
theorem taken_of_not_fits {room : Room} {bytes : Bytes} (full : room.fits bytes = false) :
    room.limit = some (room.taken bytes).length ∧
      ∃ b rest, bytes = room.taken bytes ++ b :: rest := by
  obtain ⟨_ | limit⟩ := room
  · nomatch full
  · simp only [Room.fits, decide_eq_false_iff_not, Nat.not_le] at full
    simp only [taken]
    refine ⟨by rw [List.length_take, Nat.min_eq_left full.le], bytes[limit],
      bytes.drop (limit + 1), ?_⟩
    rw [← List.drop_eq_getElem_cons full, List.take_append_drop]

end Room

namespace Sink

variable {room : Room} {bytes : Bytes}

/-! A sink with which nothing goes wrong but that its room is limited. -/

theorem taken_room : ({ room } : Sink).taken bytes = room.taken bytes := by
  rw [taken, offered, fault, List.head?_nil, Option.join_none, ite_self]

theorem after_room (room : Room) (bytes : Bytes) :
    ({ room } : Sink).after bytes = { room := room.after bytes } := by
  rw [after, offered, fault, List.head?_nil, Option.join_none, ite_self, List.tail_nil, ite_self]

theorem failure_room :
    ({ room } : Sink).failure bytes = if room.fits bytes then none else some full := by
  rw [failure, fault, List.head?_nil, Option.join_none, ite_self]

end Sink

/-! ## Logs, byte by byte -/

/-- One of the two sinks. -/
inductive Outlet
  | out
  | err
  deriving DecidableEq, Repr

/-- Bytes reached this sink. -/
def Outlet.event : Outlet → Bytes → Event ε
  | .out, bytes => .out bytes
  | .err, bytes => .err bytes

/-- The events of a write of which this much reached the sink. -/
def Outlet.events (outlet : Outlet) (bytes : Bytes) : List (Event ε) :=
  if bytes = [] then [] else [outlet.event bytes]

/-- What an event brings to a sink. -/
def Event.bytesFor (outlet : Outlet) : Event ε → Bytes
  | .out bytes => if outlet = .out then bytes else []
  | .err bytes => if outlet = .err then bytes else []
  | _ => []

/-- An event, with an event of its own for each byte that was written. -/
def Event.bytewise : Event ε → List (Event ε)
  | .out bytes => bytes.map fun b => .out [b]
  | .err bytes => bytes.map fun b => .err [b]
  | event => [event]

/-- What a log says has reached a sink. -/
def written (outlet : Outlet) (log : List (Event ε)) : Bytes := log.flatMap (Event.bytesFor outlet)

/-- A log with an event of its own for each byte that was written. -/
def bytewise (log : List (Event ε)) : List (Event ε) := log.flatMap Event.bytewise

section

variable {outlet : Outlet} {log first later : List (Event ε)}

theorem written_append (outlet : Outlet) (first later : List (Event ε)) :
    written outlet (first ++ later) = written outlet first ++ written outlet later :=
  List.flatMap_append

theorem bytewise_append (first later : List (Event ε)) :
    bytewise (first ++ later) = bytewise first ++ bytewise later := List.flatMap_append

theorem written_bytewise_event (outlet : Outlet) (event : Event ε) :
    written outlet event.bytewise = event.bytesFor outlet := by
  cases event with
  | out bytes | err bytes =>
      cases outlet <;> simp [Event.bytewise, written, Event.bytesFor, List.flatMap_map]
  | _ => exact List.append_nil _

/-- Taking writes apart changes nothing about what was written. -/
theorem written_bytewise (outlet : Outlet) (log : List (Event ε)) :
    written outlet (bytewise log) = written outlet log := by
  rw [written, bytewise, List.flatMap_assoc, written]
  exact congrArg log.flatMap (funext (written_bytewise_event outlet))

/-- A write brings its bytes to its own sink and nothing to the other one. -/
theorem written_events (outlet other : Outlet) (bytes : Bytes) :
    written outlet (other.events bytes : List (Event ε)) =
      if outlet = other then bytes else [] := by
  rw [Outlet.events]
  split
  case isTrue empty =>
    rw [empty, ite_self]
    rfl
  case isFalse => cases other <;> exact List.append_nil _

theorem written_single (outlet : Outlet) (b : UInt8) :
    written outlet [(outlet.event [b] : Event ε)] = [b] := by
  cases outlet <;> rfl

theorem bytewise_events (outlet : Outlet) (bytes : Bytes) :
    bytewise (outlet.events bytes : List (Event ε)) = bytes.map fun b => outlet.event [b] := by
  rw [Outlet.events]
  split
  case isTrue empty => rw [empty]; rfl
  case isFalse => cases outlet <;> exact List.append_nil _

/-- A log in which nothing was written. -/
def Silent (log : List (Event ε)) : Prop := ∀ outlet, written outlet log = []

theorem silent_handler (reports : List ε) : Silent (reports.map Event.handler) := by
  intro outlet
  rw [written, List.flatMap_map]
  exact List.flatMap_eq_nil_iff.mpr fun _ _ => by cases outlet <;> rfl

theorem Silent.append (here : Silent first) (there : Silent later) : Silent (first ++ later) := by
  intro outlet
  rw [written_append, here, there]
  rfl

end

/-! ## Limits -/

section

variable {rooms : Outlet → Room} {log first whole : List (Event ε)}

/-- There is room for all that was written. -/
def WithinLimits (rooms : Outlet → Room) (log : List (Event ε)) : Prop :=
  ∀ outlet, (rooms outlet).fits (written outlet log) = true

/-- A log breaks off at a sink that is full, where another log goes on with one more byte
for this sink. -/
def BreaksOff (rooms : Outlet → Room) (log whole : List (Event ε)) : Prop :=
  ∃ outlet b, (rooms outlet).limit = some (written outlet log).length ∧
    log ++ [outlet.event [b]] <+: whole

theorem withinLimits_nil (rooms : Outlet → Room) : WithinLimits rooms ([] : List (Event ε)) := by
  intro outlet
  cases limit : (rooms outlet).limit with
  | none => simp only [Room.fits, limit]
  | some bound => simp only [Room.fits, limit, decide_eq_true_eq]; exact Nat.zero_le bound

theorem withinLimits_of_begins (begins : first <+: whole) (within : WithinLimits rooms whole) :
    WithinLimits rooms first := by
  intro outlet
  obtain ⟨rest, rfl⟩ := begins
  have longer := within outlet
  rw [written_append] at longer
  exact Room.fits_of_begins (List.prefix_append _ _) longer

theorem WithinLimits.append_silent (within : WithinLimits rooms log)
    {more : List (Event ε)} (silent : Silent more) : WithinLimits rooms (log ++ more) := by
  intro outlet
  rw [written_append, silent, List.append_nil]
  exact within outlet

/-- After a write, only the sink that was written to matters. -/
theorem WithinLimits.append_events (within : WithinLimits rooms log) {outlet : Outlet}
    {bytes : Bytes} (fits : (rooms outlet).fits (written outlet log ++ bytes) = true) :
    WithinLimits rooms (log ++ bytewise (outlet.events bytes)) := by
  intro other
  rw [written_append, written_bytewise, written_events]
  split
  case isTrue same => exact same ▸ fits
  case isFalse =>
    rw [List.append_nil]
    exact within other

/-- A full sink has no room for one more byte. -/
theorem not_withinLimits_concat {outlet : Outlet}
    (full : (rooms outlet).limit = some (written outlet log).length) (b : UInt8) :
    ¬ WithinLimits rooms (log ++ [outlet.event [b]]) := by
  intro within
  have fits := within outlet
  rw [written_append, written_single] at fits
  simp only [Room.fits, full, List.length_append, List.length_singleton,
    decide_eq_true_eq] at fits
  exact Nat.not_succ_le_self _ fits

theorem BreaksOff.not_withinLimits (off : BreaksOff rooms log whole) :
    ¬ WithinLimits rooms whole := by
  obtain ⟨outlet, b, full, goesOn⟩ := off
  exact fun within => not_withinLimits_concat full b (withinLimits_of_begins goesOn within)

theorem BreaksOff.begins (off : BreaksOff rooms log whole) : log <+: whole := by
  obtain ⟨outlet, b, -, goesOn⟩ := off
  exact (List.prefix_append _ _).trans goesOn

theorem BreaksOff.mono (off : BreaksOff rooms log first) (begins : first <+: whole) :
    BreaksOff rooms log whole := by
  obtain ⟨outlet, b, full, goesOn⟩ := off
  exact ⟨outlet, b, full, goesOn.trans begins⟩

/-- A log that breaks off is as long as the limits allow. -/
theorem BreaksOff.longest (off : BreaksOff rooms log whole) (begins : first <+: whole)
    (within : WithinLimits rooms first) : first <+: log := by
  obtain ⟨outlet, b, full, goesOn⟩ := off
  rcases List.prefix_or_prefix_of_prefix begins goesOn with shorter | longer
  · rcases List.prefix_concat_iff.mp shorter with whole | shorter
    · exact absurd (whole ▸ within) (not_withinLimits_concat full b)
    · exact shorter
  · exact absurd (withinLimits_of_begins longer within) (not_withinLimits_concat full b)

/-- A write that does not fit breaks off at the first byte for which there is no room. -/
theorem breaksOff_of_not_fits (within : WithinLimits rooms log) {outlet : Outlet} {bytes : Bytes}
    (full : ((rooms outlet).after (written outlet log)).fits bytes = false) :
    let taken := ((rooms outlet).after (written outlet log)).taken bytes
    WithinLimits rooms (log ++ bytewise (outlet.events taken)) ∧
      BreaksOff rooms (log ++ bytewise (outlet.events taken))
        (log ++ bytewise (outlet.events bytes)) := by
  intro taken
  obtain ⟨room, b, rest, parts⟩ := Room.taken_of_not_fits full
  change _ = some taken.length at room
  change bytes = taken ++ b :: rest at parts
  obtain ⟨limit, limited, left⟩ := Option.map_eq_some_iff.mp room
  have enough := within outlet
  simp only [Room.fits, limited, decide_eq_true_eq] at enough
  have filled : limit = (written outlet log ++ taken).length := by
    rw [List.length_append]
    omega
  refine ⟨within.append_events ?_, outlet, b, ?_, ?_⟩
  · simp only [Room.fits, limited, decide_eq_true_eq]
    exact filled.ge
  · rw [written_append, written_bytewise, written_events, if_pos rfl, limited, filled]
  · rw [bytewise_events, bytewise_events, parts, List.map_append, List.map_cons,
      List.append_assoc]
    exact (List.prefix_append_right_inj log).mpr
      ((List.prefix_append_right_inj _).mpr (List.cons_prefix_cons.mpr ⟨rfl, List.nil_prefix⟩))

end

namespace ReplyReader

/-! ## Two readers -/

/-- What happened, byte by byte. -/
def trace (r : ReplyReader σ ε) : List (Event ε) := bytewise r.events

/-- What happened until a run came to its end or failed, byte by byte. -/
def traceOf {α : Type} : EStateM.Result ClientError (ReplyReader σ ε) α → List (Event ε)
  | .ok _ r => r.trace
  | .error _ r => r.trace

/-- The reader as it would be if its sinks had had this room at the start of its log. -/
def limited (rooms : Outlet → Room) (r : ReplyReader σ ε) : ReplyReader σ ε :=
  { r with
    out := { room := (rooms .out).after (written .out r.trace) }
    err := { room := (rooms .err).after (written .err r.trace) } }

/-- A reader whose sinks take everything, and that has written no more than there would have
been room for. -/
structure Unchecked (rooms : Outlet → Room) (r : ReplyReader σ ε) : Prop where
  out : r.out = {}
  err : r.err = {}
  within : WithinLimits rooms r.trace

/-- The handler failed the run when it was told that the window system cannot be used, and
what it reported then is the last that happened. -/
def FailedByHandler (h : ReplyHandler σ ε) (e : ClientError) (r : ReplyReader σ ε) : Prop :=
  ∃ s before, (h.unsupported s).1 = .error e ∧ r.state = (h.unsupported s).2.1 ∧
    r.events = before ++ .unsupported :: (h.unsupported s).2.2.map .handler

/-- How the result of a run with limited sinks belongs to the result of the run without
limits. They are the same while no limit is reached, and then any error is the handler's.
Otherwise the limited run has stopped at a full sink. -/
inductive CutShort (h : ReplyHandler σ ε) (rooms : Outlet → Room) {α : Type} :
    EStateM.Result ClientError (ReplyReader σ ε) α →
      EStateM.Result ClientError (ReplyReader σ ε) α → Prop
  | ok {a : α} {r : ReplyReader σ ε} (unchecked : Unchecked rooms r) :
      CutShort h rooms (.ok a (r.limited rooms)) (.ok a r)
  | failed {e : ClientError} {r : ReplyReader σ ε} (within : WithinLimits rooms r.trace)
      (byHandler : FailedByHandler h e r) :
      CutShort h rooms (.error e (r.limited rooms)) (.error e r)
  | stopped {q : ReplyReader σ ε} {full : EStateM.Result ClientError (ReplyReader σ ε) α}
      (within : WithinLimits rooms q.trace) (off : BreaksOff rooms q.trace (traceOf full)) :
      CutShort h rooms (.error (outputFailed Sink.full) q) full

/-- A program takes nothing back of what happened, and runs with limited sinks as it does
without limits, until it stops at a full sink. -/
structure StopsShort (h : ReplyHandler σ ε) (rooms : Outlet → Room) {α : Type}
    (program : Step σ ε α) : Prop where
  grows : ∀ r, r.trace <+: traceOf (program r)
  cutShort : ∀ r, Unchecked rooms r →
    CutShort h rooms (program (r.limited rooms)) (program r)

variable {h : ReplyHandler σ ε} {rooms : Outlet → Room} {α β : Type} {r : ReplyReader σ ε}

theorem trace_record (more : List (Event ε)) (r : ReplyReader σ ε) :
    (r.record more).trace = r.trace ++ bytewise more := by
  rw [trace, events_record, bytewise_append, trace]

namespace StopsShort

theorem skip (a : α) : StopsShort h rooms (pure a : Step σ ε α) where
  grows _ := List.prefix_rfl
  cutShort _ unchecked := .ok unchecked

/-- A sequence. Where the first part stopped at a full sink, the second part is run without
limits alone, and only adds to what happened. -/
theorem bind {first : Step σ ε α} {next : α → Step σ ε β} (here : StopsShort h rooms first)
    (after : ∀ a, StopsShort h rooms (next a)) : StopsShort h rooms (first >>= next) := by
  have goesOn (r : ReplyReader σ ε) : traceOf (first r) <+: traceOf ((first >>= next) r) := by
    cases ended : first r with
    | ok a t =>
        rw [bind_of_ok ended]
        exact (after a).grows t
    | error e t =>
        rw [bind_of_error ended]
        exact List.prefix_rfl
  refine ⟨fun r => (here.grows r).trans (goesOn r), fun r unchecked => ?_⟩
  have later := goesOn r
  have both := here.cutShort r unchecked
  generalize ended : first (r.limited rooms) = cut at both
  generalize ended' : first r = full at both later
  cases both with
  | ok unchecked' =>
      rw [bind_of_ok ended, bind_of_ok ended']
      exact (after _).cutShort _ unchecked'
  | failed within byHandler =>
      rw [bind_of_error ended, bind_of_error ended']
      exact .failed within byHandler
  | stopped within off =>
      rw [bind_of_error ended]
      exact .stopped within (off.mono later)

/-- A loop over a list. -/
theorem forM {f : β → Step σ ε Unit} (list : List β)
    (body : ∀ b, StopsShort h rooms (f b)) : StopsShort h rooms (list.forM f) := by
  induction list with
  | nil => exact skip ()
  | cons b list ih => exact (body b).bind fun _ => ih

/-- Reading what does not depend on the sinks. -/
theorem read {next : ReplyReader σ ε → Step σ ε α}
    (blind : ∀ r, next (r.limited rooms) = next r) (after : ∀ r, StopsShort h rooms (next r)) :
    StopsShort h rooms (get >>= next) where
  grows r := (after r).grows r
  cutShort r unchecked := by
    change CutShort h rooms (next (r.limited rooms) (r.limited rooms)) (next r r)
    rw [blind r]
    exact (after r).cutShort r unchecked

end StopsShort

/-! ## What does not concern the sinks -/

/-- A change of a reader that neither depends on its sinks nor writes to them. -/
structure Aside (f : ReplyReader σ ε → ReplyReader σ ε) : Prop where
  commutes : ∀ r out err, f { r with out, err } = { f r with out, err }
  silent : ∀ r, ∃ more, Silent more ∧ (f r).events = r.events ++ more

namespace Aside

variable {f g : ReplyReader σ ε → ReplyReader σ ε}

theorem comp (first : Aside f) (second : Aside g) : Aside fun r => g (f r) where
  commutes r out err := by rw [first.commutes, second.commutes]
  silent r := by
    obtain ⟨more, silent, same⟩ := first.silent r
    obtain ⟨more', silent', same'⟩ := second.silent (f r)
    exact ⟨more ++ more', silent.append silent', by rw [same', same, List.append_assoc]⟩

theorem trace_eq (aside : Aside f) (r : ReplyReader σ ε) :
    ∃ more, Silent more ∧ (f r).trace = r.trace ++ more := by
  obtain ⟨more, silent, same⟩ := aside.silent r
  refine ⟨bytewise more, fun outlet => ?_, ?_⟩
  · rw [written_bytewise, silent]
  · rw [trace, same, bytewise_append, trace]

theorem grows (aside : Aside f) (r : ReplyReader σ ε) : r.trace <+: (f r).trace := by
  obtain ⟨more, -, same⟩ := aside.trace_eq r
  exact ⟨more, same.symm⟩

theorem limited_eq (aside : Aside f) (r : ReplyReader σ ε) :
    f (r.limited rooms) = (f r).limited rooms := by
  obtain ⟨more, silent, same⟩ := aside.trace_eq r
  have unwritten (outlet : Outlet) : written outlet (f r).trace = written outlet r.trace := by
    rw [same, written_append, silent, List.append_nil]
  rw [limited, limited, aside.commutes, unwritten, unwritten]

theorem unchecked (aside : Aside f) (unchecked : Unchecked rooms r) : Unchecked rooms (f r) := by
  obtain ⟨more, silent, same⟩ := aside.trace_eq r
  have sinksKept : f r = { f r with out := r.out, err := r.err } := aside.commutes r r.out r.err
  refine ⟨?_, ?_, ?_⟩
  · rw [sinksKept]
    exact unchecked.out
  · rw [sinksKept]
    exact unchecked.err
  · rw [same]
    exact unchecked.within.append_silent silent

theorem stopsShort (aside : Aside f) :
    StopsShort h rooms (modify f : Step σ ε Unit) where
  grows r := aside.grows r
  cutShort r unchecked := by
    change CutShort h rooms (.ok () (f (r.limited rooms))) (.ok () (f r))
    rw [aside.limited_eq]
    exact .ok (aside.unchecked unchecked)

end Aside

/-- A change under which nothing happens. -/
theorem aside_of_events {f : ReplyReader σ ε → ReplyReader σ ε}
    (commutes : ∀ r out err, f { r with out, err } = { f r with out, err })
    (same : ∀ r, (f r).events = r.events) : Aside f where
  commutes := commutes
  silent r := ⟨[], fun _ => rfl, by rw [same, List.append_nil]⟩

theorem aside_record {more : List (Event ε)} (silent : Silent more) :
    Aside (record more : ReplyReader σ ε → ReplyReader σ ε) where
  commutes _ _ _ := rfl
  silent r := ⟨more, silent, events_record more r⟩

theorem aside_acted (f : σ → Except ClientError Unit × σ × List ε) :
    Aside (acted f : ReplyReader σ ε → ReplyReader σ ε) where
  commutes _ _ _ := rfl
  silent r := ⟨_, silent_handler _, events_acted f r⟩

/-! ## Steps of a reader -/

/-- The sink that a reader writes to. -/
def sink : Outlet → ReplyReader σ ε → Sink
  | .out, r => r.out
  | .err, r => r.err

/-- Write to one of the sinks. -/
def write : Outlet → Bytes → Step σ ε Unit
  | .out => writeOut
  | .err => writeErr

/-- A reader after it has written to one of the sinks, as far as that was possible. -/
def wrote : Outlet → Bytes → ReplyReader σ ε → ReplyReader σ ε
  | .out => wroteOut
  | .err => wroteErr

theorem write_apply (outlet : Outlet) (bytes : Bytes) (r : ReplyReader σ ε) :
    write outlet bytes r = match (r.sink outlet).failure bytes with
      | none => .ok () (wrote outlet bytes r)
      | some error => .error (outputFailed error) (wrote outlet bytes r) := by
  cases outlet <;> rfl

theorem trace_wrote (outlet : Outlet) (bytes : Bytes) (r : ReplyReader σ ε) :
    (wrote outlet bytes r).trace =
      r.trace ++ bytewise (outlet.events ((r.sink outlet).taken bytes)) := by
  cases outlet <;> exact trace_record _ _

theorem sink_limited (outlet : Outlet) (r : ReplyReader σ ε) :
    (r.limited rooms).sink outlet =
      { room := (rooms outlet).after (written outlet r.trace) } := by
  cases outlet <;> rfl

namespace Unchecked

variable {outlet : Outlet} {bytes : Bytes}

theorem sink_eq (unchecked : Unchecked rooms r) (outlet : Outlet) : r.sink outlet = {} := by
  cases outlet with
  | out => exact unchecked.out
  | err => exact unchecked.err

/-- Without limits everything is written. -/
theorem trace_eq (unchecked : Unchecked rooms r) (outlet : Outlet) (bytes : Bytes) :
    (wrote outlet bytes r).trace = r.trace ++ bytewise (outlet.events bytes) := by
  rw [trace_wrote, unchecked.sink_eq, Sink.taken_room]
  rfl

/-- Where there is room, limits make no difference to a write but that less room is left. -/
theorem wrote_limited (unchecked : Unchecked rooms r)
    (fits : ((rooms outlet).after (written outlet r.trace)).fits bytes = true) :
    wrote outlet bytes (r.limited rooms) = (wrote outlet bytes r).limited rooms := by
  have left (other : Outlet) : (rooms other).after (written other (wrote outlet bytes r).trace) =
      ((rooms other).after (written other r.trace)).after
        (if other = outlet then bytes else []) := by
    rw [unchecked.trace_eq, written_append, written_bytewise, written_events, Room.after_append]
  have whole : ((r.limited rooms).sink outlet).taken bytes = bytes := by
    rw [sink_limited, Sink.taken_room, Room.taken_of_fits fits]
  have everything : (r.sink outlet).taken bytes = bytes := by
    rw [unchecked.sink_eq, Sink.taken_room]
    rfl
  rw [limited.eq_1 rooms (wrote outlet bytes r), left, left]
  cases outlet with
  | out =>
      rw [if_pos rfl, if_neg Outlet.noConfusion, Room.after_nil, ← Sink.after_room _ bytes]
      simp only [wrote, wroteOut]
      change (r.limited rooms).out.taken bytes = bytes at whole
      change r.out.taken bytes = bytes at everything
      rw [whole, everything]
      rfl
  | err =>
      rw [if_neg Outlet.noConfusion, if_pos rfl, Room.after_nil, ← Sink.after_room _ bytes]
      simp only [wrote, wroteErr]
      change (r.limited rooms).err.taken bytes = bytes at whole
      change r.err.taken bytes = bytes at everything
      rw [whole, everything]
      rfl

/-- Where there is room, no limit is reached. -/
theorem after_wrote (unchecked : Unchecked rooms r)
    (fits : ((rooms outlet).after (written outlet r.trace)).fits bytes = true) :
    Unchecked rooms (wrote outlet bytes r) := by
  have enough : WithinLimits rooms (wrote outlet bytes r).trace := by
    rw [Room.fits_append (unchecked.within outlet)] at fits
    rw [unchecked.trace_eq]
    exact unchecked.within.append_events fits
  cases outlet with
  | out =>
      have still : (wroteOut bytes r).out = {} := by
        change r.out.after bytes = {}
        rw [unchecked.out, Sink.after_takesAll]
      exact ⟨still, unchecked.err, enough⟩
  | err =>
      have still : (wroteErr bytes r).err = {} := by
        change r.err.after bytes = {}
        rw [unchecked.err, Sink.after_takesAll]
      exact ⟨unchecked.out, still, enough⟩

end Unchecked

/-- A write without limits takes everything, and one with limits all for which there is room. -/
theorem write_stopsShort (outlet : Outlet) (bytes : Bytes) :
    StopsShort h rooms (write outlet bytes : Step σ ε Unit) where
  grows r := by
    rw [write_apply]
    split <;> exact ⟨_, (trace_wrote outlet bytes r).symm⟩
  cutShort r unchecked := by
    rw [write_apply, write_apply, unchecked.sink_eq, Sink.failure_takesAll, sink_limited,
      Sink.failure_room]
    cases fits : ((rooms outlet).after (written outlet r.trace)).fits bytes with
    | true =>
        rw [unchecked.wrote_limited fits]
        exact .ok (unchecked.after_wrote fits)
    | false =>
        have stops := trace_wrote outlet bytes (r.limited rooms)
        rw [sink_limited, Sink.taken_room] at stops
        obtain ⟨within, off⟩ := breaksOff_of_not_fits unchecked.within fits
        refine .stopped (stops ▸ within) ?_
        change BreaksOff rooms (wrote outlet bytes (r.limited rooms)).trace
          (wrote outlet bytes r).trace
        rw [stops, unchecked.trace_eq]
        exact off

/-- Limits on what is written do not bear on a flush of standard output. -/
theorem flushOut_stopsShort : StopsShort h rooms (flushOut : Step σ ε Unit) where
  grows r := by
    rw [flushOut_apply]
    split
    · exact ⟨_, (trace_record [.flushed] { r with out := r.out.flushed }).symm⟩
    · exact List.prefix_rfl
  cutShort r unchecked := by
    have steady : Steady r := by
      rw [Steady, unchecked.out]
      rfl
    have flushed : flushOut r = .ok () (r.record [.flushed]) := flushOut_of_steady steady
    have flushed' : flushOut (r.limited rooms) = .ok () ((r.limited rooms).record [.flushed]) :=
      flushOut_of_steady rfl
    have aside : Aside (record [.flushed] : ReplyReader σ ε → ReplyReader σ ε) :=
      aside_record fun _ => rfl
    rw [flushed, flushed', aside.limited_eq]
    exact .ok (aside.unchecked unchecked)

/-- Nor do they bear on a flush of standard error. -/
theorem flushErr_stopsShort : StopsShort h rooms (flushErr : Step σ ε Unit) where
  grows r := by
    rw [flushErr_apply]
    split <;> exact List.prefix_rfl
  cutShort r unchecked := by
    have steady : r.err.Steady := by
      rw [unchecked.err]
      rfl
    have flushed : flushErr r = .ok () r := by
      rw [flushErr_apply, steady.flushFailure_eq, steady.flushed_eq]
    rw [flushed]
    exact .ok unchecked

theorem traceOf_act (f : σ → Except ClientError Unit × σ × List ε) (r : ReplyReader σ ε) :
    traceOf (act f r) = (acted f r).trace := by
  cases answer : (f r.state).1 with
  | ok _ => rw [act_of_ok answer, traceOf]
  | error e => rw [act_of_error answer, traceOf]

/-- The handler is told that the window system cannot be used. This is where it may fail. -/
theorem unsupported_stopsShort : StopsShort h rooms (perform h .unsupported) := by
  have aside : Aside fun r : ReplyReader σ ε => acted h.unsupported (r.record [.unsupported]) :=
    (aside_record fun _ => rfl).comp (aside_acted h.unsupported)
  constructor
  · intro r
    rw [perform_unsupported, traceOf_act]
    exact aside.grows r
  · intro r unchecked
    have told := aside.unchecked unchecked
    rw [perform_unsupported, perform_unsupported]
    cases answer : (h.unsupported r.state).1 with
    | ok _ =>
        rw [act_of_ok (r := r.record [.unsupported]) answer,
          act_of_ok (r := (r.limited rooms).record [.unsupported]) answer, aside.limited_eq]
        exact .ok told
    | error e =>
        rw [act_of_error (r := r.record [.unsupported]) answer,
          act_of_error (r := (r.limited rooms).record [.unsupported]) answer, aside.limited_eq]
        refine .failed told.within ⟨r.state, r.events, answer, rfl, ?_⟩
        rw [events_acted, events_record, List.append_assoc]
        rfl

theorem perform_stopsShort (action : Action) : StopsShort h rooms (perform h action) := by
  cases action with
  | out bytes => exact write_stopsShort .out bytes
  | err bytes => exact (write_stopsShort .err bytes).bind fun _ => flushErr_stopsShort
  | flush => exact flushOut_stopsShort
  | atLineStart now =>
      have aside : Aside fun r : ReplyReader σ ε => { r with atLineStart := now } :=
        aside_of_events (fun _ _ _ => rfl) fun _ => rfl
      exact aside.stopsShort
  | serverError =>
      have aside : Aside fun r : ReplyReader σ ε => { r with outcome := .serverError } :=
        aside_of_events (fun _ _ _ => rfl) fun _ => rfl
      exact aside.stopsShort
  | serverPid pid =>
      have told : Aside fun r : ReplyReader σ ε => { r with state := h.serverPid pid r.state } :=
        aside_of_events (fun _ _ _ => rfl) fun _ => rfl
      have noted : Silent [(.serverPid pid : Event ε)] := fun _ => rfl
      exact (told.comp (aside_record noted)).stopsShort
  | unsupported => exact unsupported_stopsShort
  | suspend =>
      have aside : Aside fun r : ReplyReader σ ε =>
          acted (fun s => (.ok (), h.suspend s)) (r.record [.suspend]) :=
        (aside_record fun _ => rfl).comp (aside_acted _)
      exact aside.stopsShort

theorem performAll_stopsShort (actions : List Action) :
    StopsShort h rooms (performAll h actions) := .forM actions perform_stopsShort

/-- Which actions answer a line does not depend on the sinks. -/
theorem dispatch_stopsShort (line : Bytes) : StopsShort h rooms (dispatch h line) := by
  refine .read (fun _ => rfl) fun r => ?_
  split
  · exact performAll_stopsShort _
  · exact .skip ()

theorem feed_stopsShort (bytes : Bytes) : StopsShort h rooms (feed h bytes) := by
  have keeps (kept : ReplyReader σ ε → Bytes)
      (blind : ∀ r out err, kept { r with out, err } = kept r) :
      Aside fun r : ReplyReader σ ε => { r with pending := kept r } :=
    aside_of_events (fun r out err => by rw [blind]) fun _ => rfl
  refine (keeps (fun r => r.pending ++ bytes) fun _ _ _ => rfl).stopsShort.bind fun _ => ?_
  refine .read (fun _ => rfl) fun r => ?_
  refine .bind (.forM _ dispatch_stopsShort) fun _ => ?_
  exact (keeps (fun _ => _) fun _ _ _ => rfl).stopsShort.bind fun _ => perform_stopsShort .flush

theorem finish_stopsShort : StopsShort h rooms (finish h) := by
  have drops : Aside fun r : ReplyReader σ ε => { r with pending := [] } :=
    aside_of_events (fun _ _ _ => rfl) fun _ => rfl
  refine .read (fun _ => rfl) fun r => drops.stopsShort.bind fun _ => ?_
  refine (dispatch_stopsShort r.pending).bind fun _ => ?_
  refine .read (fun _ => rfl) fun q => (performAll_stopsShort _).bind fun _ => ?_
  exact .read (fun _ => rfl) fun _ => .skip _

theorem receive_stopsShort (chunks : List Bytes) : StopsShort h rooms (receive h chunks) :=
  .bind (.forM chunks feed_stopsShort) fun _ => finish_stopsShort

/-! ## Whole runs -/

/-- A run with limited sinks fails to write, at a sink that is full by then, and without
limits the next thing to happen would have been one more byte for this sink. -/
def StopsAtFullSink (rooms : Outlet → Room)
    (cut full : EStateM.Result ClientError (ReplyReader σ ε) α) : Prop :=
  (∃ q, cut = .error (outputFailed Sink.full) q) ∧ BreaksOff rooms (traceOf cut) (traceOf full)

namespace CutShort

variable {cut full : EStateM.Result ClientError (ReplyReader σ ε) α}

/-- A run is the same as without limits, or it stops at a full sink. -/
theorem same_or_stops (related : CutShort h rooms cut full) :
    (Matches (fun q r => q = r.limited rooms) cut full ∧ traceOf cut = traceOf full ∧
        WithinLimits rooms (traceOf full)) ∨
      (StopsAtFullSink rooms cut full ∧ WithinLimits rooms (traceOf cut)) := by
  cases related with
  | ok unchecked => exact .inl ⟨.ok rfl, rfl, unchecked.within⟩
  | failed within => exact .inl ⟨.error rfl, rfl, within⟩
  | stopped within off => exact .inr ⟨⟨⟨_, rfl⟩, off⟩, within⟩

/-- The limited run does what the unlimited one does, as far as the limits allow. -/
theorem isLongest (related : CutShort h rooms cut full) :
    traceOf cut <+: traceOf full ∧ WithinLimits rooms (traceOf cut) ∧
      ∀ log, log <+: traceOf full → WithinLimits rooms log → log <+: traceOf cut := by
  rcases related.same_or_stops with ⟨-, same, within⟩ | ⟨⟨-, off⟩, within⟩
  · rw [same]
    exact ⟨List.prefix_rfl, within, fun _ begins _ => begins⟩
  · exact ⟨off.begins, within, fun _ => off.longest⟩

theorem stopsAtFullSink_iff (related : CutShort h rooms cut full) :
    StopsAtFullSink rooms cut full ↔ ¬ WithinLimits rooms (traceOf full) := by
  refine ⟨fun stops => stops.2.not_withinLimits, fun beyond => ?_⟩
  rcases related.same_or_stops with ⟨-, -, within⟩ | ⟨stops, -⟩
  · exact absurd within beyond
  · exact stops

theorem matches_of_within (related : CutShort h rooms cut full)
    (within : WithinLimits rooms (traceOf full)) :
    Matches (fun q r => q = r.limited rooms) cut full := by
  rcases related.same_or_stops with ⟨same, -, -⟩ | ⟨stops, -⟩
  · exact same
  · exact absurd within stops.2.not_withinLimits

/-- Without limits nobody but the handler fails a run. -/
theorem failedByHandler (related : CutShort h (fun _ => {}) cut full) :
    Ends (fun _ _ => True) (FailedByHandler h) full := by
  cases related with
  | ok => exact .ok trivial
  | failed _ byHandler => exact .error byHandler
  | stopped _ off =>
      obtain ⟨_, _, limit, -⟩ := off
      nomatch limit

end CutShort

/-- A reader at its start has written nothing, so any limits are those of its sinks. -/
theorem receive_cutShort (h : ReplyHandler σ ε) (rooms : Outlet → Room) (chunks : List Bytes)
    (suppressed : Bool) (s : σ) :
    CutShort h rooms
      (receive h chunks
        { suppressed, out := { room := rooms .out }, err := { room := rooms .err }, state := s })
      (receive h chunks { suppressed, state := s }) := by
  have start : ({ suppressed, state := s } : ReplyReader σ ε).limited rooms =
      { suppressed, out := { room := rooms .out }, err := { room := rooms .err }, state := s } := by
    have unwritten (outlet : Outlet) : (rooms outlet).after
        (written outlet ({ suppressed, state := s } : ReplyReader σ ε).trace) = rooms outlet :=
      Room.after_nil _
    rw [limited, unwritten, unwritten]
  rw [← start]
  exact (receive_stopsShort chunks).cutShort _ ⟨rfl, rfl, withinLimits_nil rooms⟩

/-- A sink that runs full only cuts a run short. What has happened up to the end or the
first error is the longest beginning of what would happen without limits for which the
sinks have room: each byte for which there is room has been written, on either sink, and
each call of the handler made that comes before the first byte for which there is none.
The run stops at a full sink, with the error of a failed write, exactly if without limits
more would be written than a sink takes, up to the first error of the handler; otherwise
it ends as it would without limits. It fails with the same error in one other case: where
the handler does, since without limits nobody else fails a run. -/
theorem limits_only_truncate (h : ReplyHandler σ ε) (rooms : Outlet → Room)
    (chunks : List Bytes) (suppressed : Bool) (s : σ) :
    let full := receive h chunks { suppressed, state := s }
    let cut := receive h chunks
      { suppressed, out := { room := rooms .out }, err := { room := rooms .err }, state := s }
    (traceOf cut <+: traceOf full ∧ WithinLimits rooms (traceOf cut) ∧
        ∀ log, log <+: traceOf full → WithinLimits rooms log → log <+: traceOf cut) ∧
      (StopsAtFullSink rooms cut full ↔ ¬ WithinLimits rooms (traceOf full)) ∧
      (WithinLimits rooms (traceOf full) →
        Matches (fun q r => q = r.limited rooms) cut full) ∧
      ((∃ q, cut = .error (outputFailed Sink.full) q) ↔
        ¬ WithinLimits rooms (traceOf full) ∨ ∃ r, full = .error (outputFailed Sink.full) r) ∧
      Ends (fun _ _ => True) (FailedByHandler h) full := by
  intro full cut
  have related : CutShort h rooms cut full := receive_cutShort h rooms chunks suppressed s
  have byHandler : Ends (fun _ _ => True) (FailedByHandler h) full :=
    (receive_cutShort h (fun _ => {}) chunks suppressed s).failedByHandler
  refine ⟨related.isLongest, related.stopsAtFullSink_iff, related.matches_of_within, ?_,
    byHandler⟩
  constructor
  · rintro ⟨q, failed⟩
    by_cases within : WithinLimits rooms (traceOf full)
    · have same := related.matches_of_within within
      rw [failed] at same
      generalize full = result at same
      cases same with
      | error _ => exact .inr ⟨_, rfl⟩
    · exact .inl within
  · rintro (beyond | ⟨r, failed⟩)
    · exact (related.stopsAtFullSink_iff.mpr beyond).1
    · rcases related.same_or_stops with ⟨same, -, -⟩ | ⟨stops, -⟩
      · rw [failed] at same
        generalize cut = result at same
        cases same with
        | error _ => exact ⟨_, rfl⟩
      · exact stops.1

/-- The sink runs full in the middle of a word, before the process would be stopped. -/
example :
    traceOf (receive callCounter [Bytes.ofText "-emacs-pid 7\n-print a", Bytes.ofText "b\n-suspend"]
      { suppressed := false, out := { room := ⟨some 1⟩ }, state := 0 }) =
        [.serverPid 7, .flushed, .out [97]] := by
  decide +kernel

end ReplyReader

end EditorClient
