/-
# Timeouts that can be set

The text of a timeout denotes a number of seconds. It is read as the nearest double, and the
double is rounded to whole nanoseconds. What is refused is settled on the double. So a
timeout is always below `2 ^ 64` seconds, but it may be of no nanoseconds at all, and such
a timeout cannot be set.

A number is rounded twice on this way, and still there is one limit below which nothing is
left of it. A double is rounded to no nanoseconds if it is at most half of one, and half a
nanosecond is no double itself. The limit is the middle between its two neighbours.
-/

import EditorClient.Proofs.Number.Nearest
import EditorClient.Proofs.Options.Spellings
import EditorClient.Proofs.Session.Chunks

namespace EditorClient

/-- The number that is written in scientific form. -/
def Scientific.value (n : Scientific) : ℚ := n.digits * 10 ^ n.exponent

theorem Binary64.rounded_roundTimes (x : Binary64) (factor : Nat) :
    Rounded (x.value * factor) (x.roundTimes factor) := by
  have rounded := rounded_scaled (x.significand * factor) Nat.one_pos x.exponent
  rw [Nat.cast_one, div_one, Nat.cast_mul, mul_right_comm] at rounded
  exact rounded

namespace Duration

/-- The number that a text denotes. -/
def number? (text : String) : Option Scientific :=
  match Blank.trim text.toList with
  | '+' :: number => Scientific.read? number
  | number => Scientific.read? number

theorem read?_eq (text : String) :
    read? text = (number? text).bind fun number =>
      (Binary64.ofDecimal? number.digits number.exponent).bind ofSeconds? := by
  unfold read? number?
  generalize Blank.trim text.toList = written
  split
  · rfl
  · simp only
    rfl

/-- The greatest number of seconds that is read as no time at all. Half a nanosecond lies
between two doubles, and this is the middle between them, just below half a nanosecond. -/
def vanishing : ℚ := 9671406556917033 / 2 ^ 84

/-- A timeout that was read from a text that denotes this number of seconds. -/
structure ReadFrom (number : ℚ) (d : Duration) : Prop where
  rounded : ∃ x : Binary64, x.Nearest number ∧ Rounded (x.value * perSecond) d.nanoseconds
  below : d.nanoseconds < 2 ^ 64 * perSecond
  positive : 0 < d.nanoseconds ↔ vanishing < number

variable {number : ℚ} {x : Binary64}

/-- What is read as half a nanosecond or less is vanishing: the two doubles around half a
nanosecond decide, since there are none between them. -/
theorem value_le_half_iff (near : x.Nearest number) :
    x.value * perSecond ≤ 1 / 2 ↔ number ≤ vanishing := by
  have middle : vanishing = ((4835703278458516 : Nat) + 1 / 2) * 2 ^ (-83 : Int) := by
    norm_num [vanishing]
  rw [middle, ← near.value_le_iff (by decide) (by decide) (by decide) (by decide) (by decide)]
  constructor
  · intro small
    by_contra! above
    have next := near.double.next_le (by decide) above
    norm_num [perSecond] at next small
    linarith
  · intro small
    norm_num [perSecond] at small ⊢
    linarith

/-- A double that is accepted is rounded to nanoseconds, and it is at most the last whole
second below the limit. -/
theorem value_le_of_ofSeconds? {d : Duration} (fits : x.significand ≤ Binary64.significandBound)
    (accepted : ofSeconds? x = some d) :
    d = ⟨x.roundTimes perSecond⟩ ∧ x.value ≤ 2 ^ 64 - 1 := by
  simp only [ofSeconds?] at accepted
  split_ifs at accepted with refused
  obtain ⟨-, short⟩ := not_or.mp refused
  refine ⟨(Option.some.inj accepted).symm, ?_⟩
  by_cases whole : 0 ≤ x.exponent
  · have less : x.significand <<< x.exponent.natAbs + 1 ≤ 2 ^ 64 :=
      not_le.mp fun long => short ⟨whole, long⟩
    have same : x.exponent = (x.exponent.natAbs : Int) := by omega
    rw [Nat.shiftLeft_eq] at less
    rw [Binary64.value, same, zpow_natCast, le_sub_iff_add_le]
    exact_mod_cast less
  · have power : (2 : ℚ) ^ x.exponent ≤ 1 := zpow_le_one_of_nonpos₀ one_le_two (by omega)
    have digits : (x.significand : ℚ) ≤ 2 ^ 53 := by exact_mod_cast fits
    calc x.value ≤ x.significand * 1 := mul_le_mul_of_nonneg_left power (by positivity)
      _ ≤ 2 ^ 64 - 1 := by linarith

theorem readFrom_of_ofSeconds? {d : Duration} (near : x.Nearest number)
    (accepted : ofSeconds? x = some d) : ReadFrom number d := by
  obtain ⟨rfl, most⟩ := value_le_of_ofSeconds? near.fits accepted
  have rounded := x.rounded_roundTimes perSecond
  refine ⟨⟨x, near, rounded⟩, ?_, ?_⟩
  · have high := (abs_le.mp rounded.near).1
    have less : (x.roundTimes perSecond : ℚ) < 2 ^ 64 * perSecond := by
      calc (x.roundTimes perSecond : ℚ) ≤ x.value * perSecond + 1 / 2 := by linarith
        _ ≤ (2 ^ 64 - 1) * perSecond + 1 / 2 := by gcongr
        _ < 2 ^ 64 * perSecond := by norm_num [perSecond]
    exact_mod_cast less
  · rw [Nat.pos_iff_ne_zero, ne_eq, rounded.eq_zero_iff, value_le_half_iff near, not_le]

/-- Whatever is read as a timeout denotes a number, and comes from it. -/
theorem readFrom_of_read? {text : String} {d : Duration} (read : read? text = some d) :
    ∃ number, number? text = some number ∧ ReadFrom number.value d := by
  rw [read?_eq, Option.bind_eq_some_iff] at read
  obtain ⟨number, denotes, read⟩ := read
  obtain ⟨x, found, accepted⟩ := Option.bind_eq_some_iff.mp read
  exact ⟨number, denotes, readFrom_of_ofSeconds? (Binary64.ofDecimal?_nearest found) accepted⟩

end Duration

/-! ## Timeouts that the client accepts -/

/-- A text that the client accepts as a timeout, from an option or from the environment,
and the timeout that it is. -/
inductive AcceptedTimeout : String → Duration → Prop
  | option {value : Bytes} {o : Options} {d : Duration}
      (accepted : Options.ofSetting .timeout value = .ok o) (timed : o.timeout = some d) :
      AcceptedTimeout (Utf8.lossy value) d
  | environment {env : Environment} {text : String} {d : Duration}
      (given : env.getText? timeoutVariable = some text)
      (accepted : Config.timeoutOf env = .ok (some d)) : AcceptedTimeout text d

namespace AcceptedTimeout

variable {text : String} {d : Duration} {o : Options}

theorem read? (accepted : AcceptedTimeout text d) : Duration.read? text = some d := by
  cases accepted with
  | option accepted timed =>
      rw [Options.ofSetting] at accepted
      split at accepted
      case h_1 read =>
        cases accepted
        exact read.trans timed
      case h_2 => cases accepted
  | environment given accepted =>
      rw [Config.timeoutOf, given] at accepted
      split at accepted
      case h_1 => cases accepted
      case h_2 => cases accepted
      case h_3 same =>
        cases same
        split at accepted
        case h_1 read =>
          cases accepted
          exact read
        case h_2 => cases accepted

/-- In a command line that is read, each spelling of the option has an accepted text. -/
theorem of_spells {before args after : List Bytes} {value : Bytes}
    (takes : Options.TakesOptions before) (spells : Options.Spells .timeout value args)
    (parsed : Options.parse (before ++ args ++ after) = .ok o) :
    ∃ d, AcceptedTimeout (Utf8.lossy value) d := by
  rw [Options.parse_eq, Options.progress_append, Options.progress_append] at parsed
  rcases Options.takesOptions_iff.mp takes with ⟨said, ready⟩ | ⟨error, failed⟩
  · rw [ready, Options.steps_of_spells spells, Options.Progress.set, Options.ofSetting] at parsed
    split at parsed
    case h_1 accepted =>
      split at accepted
      case h_1 d read =>
        have set : Options.ofSetting .timeout value = .ok { timeout := some d } := by
          rw [Options.ofSetting, read]
        exact ⟨d, .option set rfl⟩
      case h_2 => cases accepted
    case h_2 =>
      rw [Options.Progress.steps_failed] at parsed
      cases parsed
  · rw [failed, Options.Progress.steps_failed, Options.Progress.steps_failed] at parsed
    cases parsed

/-- The timeout of a command line is that of one of its options. -/
theorem of_parse {args : List Bytes} (parsed : Options.parse args = .ok o)
    (timed : o.timeout = some d) : ∃ text, AcceptedTimeout text d := by
  let Supplied (o : Options) : Prop := ∀ d, o.timeout = some d → ∃ text, AcceptedTimeout text d
  suffices Supplied o from this d timed
  refine Options.parse_closed (fun _ => nofun) (fun s => ?_)
    (@fun setting _ _ accepted d timed => ?_) (fun first second d timed => ?_) parsed
  · cases s <;> exact nofun
  · cases setting with
    | timeout => exact ⟨_, .option accepted timed⟩
    | _ =>
        cases accepted
        nomatch timed
  · rcases Option.or_eq_some_iff.mp timed with later | ⟨-, here⟩
    · exact second d later
    · exact first d here

/-- The client has a timeout only from a text that it accepts. -/
theorem of_resolve {args : List Bytes} {program : String} {env : Environment}
    {directory : Bytes} {c : Config} (parsed : Options.parse args = .ok o)
    (resolved : Config.resolve program o env directory = .ok c) (timed : c.timeout = some d) :
    ∃ text, AcceptedTimeout text d := by
  rcases (Config.resolves_of_resolve resolved).timeout with ⟨-, same⟩ | ⟨-, accepted⟩
  · exact of_parse parsed (same.symm.trans timed)
  · rw [timed] at accepted
    cases found : env.getText? timeoutVariable with
    | some text => exact ⟨text, .environment found accepted⟩
    | none =>
        rw [Config.timeoutOf, found] at accepted
        cases accepted

end AcceptedTimeout

/-! ## Sessions that wait that long -/

namespace Session

/-- A session that is told to wait for no time at all ends before its first request. -/
theorem run_of_instant {c : Config} (instant : c.timeout = some ⟨0⟩) (p : Platform)
    (input : Bytes) (connection : Connection) (out err : Sink) :
    run c p input connection out err =
      ⟨.error (.io "failed to set read timeout" .zeroTimeout), start c connection, [], out, err⟩ :=
  run_of_error (bind_of_error (setTimeout_of_instant instant _) _)

/-- Every accepted timeout is below `2 ^ 64` seconds and comes from the number that its text
denotes. If that number is more than vanishing, the timeout is positive and can be set; and
if it is not, every session with that timeout fails before its first request. -/
theorem accepted_timeout_settable {text : String} {d : Duration}
    (accepted : AcceptedTimeout text d) :
    ∃ number, Duration.number? text = some number ∧ d.ReadFrom number.value ∧
      ∀ c : Config, c.timeout = some d →
        (Duration.vanishing < number.value → ∀ r, setTimeout c.timeout r = .ok () r) ∧
        (number.value ≤ Duration.vanishing → ∀ p input connection out err,
          (run c p input connection out err).result =
            .error (.io "failed to set read timeout" .zeroTimeout)) := by
  obtain ⟨number, denotes, comes⟩ := Duration.readFrom_of_read? accepted.read?
  refine ⟨number, denotes, comes, fun c timed => ⟨fun more => ?_, fun less => ?_⟩⟩
  · refine setTimeout_of_lasting ?_
    rw [timed]
    rintro ⟨⟩
    exact absurd (comes.positive.mpr more) (lt_irrefl 0)
  · have none : d.nanoseconds = 0 :=
      Nat.eq_zero_of_not_pos fun positive => less.not_gt (comes.positive.mp positive)
    have instant : c.timeout = some ⟨0⟩ := by rw [timed, ← none]
    intro p input connection out err
    rw [run_of_instant instant]

/-- Half a nanosecond, with a sign and a blank. The double that is nearest to it is above
it, and is rounded up. -/
theorem half_nanosecond_settable :
    AcceptedTimeout "+5e-10 " ⟨1⟩ ∧
      ∃ number, Duration.number? "+5e-10 " = some number ∧
        Duration.ReadFrom number.value ⟨1⟩ ∧
        ∀ c : Config, c.timeout = some ⟨1⟩ → ∀ r, setTimeout c.timeout r = .ok () r := by
  let env : Environment := ⟨[(Bytes.ofText timeoutVariable, Bytes.ofText "+5e-10 ")]⟩
  have given : env.getText? timeoutVariable = some "+5e-10 " := by decide +kernel
  have accepted : AcceptedTimeout "+5e-10 " ⟨1⟩ := .environment given (by decide +kernel)
  obtain ⟨number, denotes, comes, settable⟩ := accepted_timeout_settable accepted
  have more := comes.positive.mp Nat.one_pos
  exact ⟨accepted, number, denotes, comes, fun c timed => (settable c timed).1 more⟩

/-- A tenth of a nanosecond is more than zero, and is accepted as a timeout of no time. -/
theorem tenth_nanosecond_accepted :
    Options.parse [Bytes.ofText "--timeout", Bytes.ofText "1e-10"] =
        .ok { timeout := some ⟨0⟩ } ∧
      (∀ program env directory, ∃ c,
        Config.resolve program { timeout := some ⟨0⟩ } env directory = .ok c ∧
          ∀ p input connection out err, (run c p input connection out err).result =
            .error (.io "failed to set read timeout" .zeroTimeout)) ∧
      ¬ ∀ text d, AcceptedTimeout text d → 0 < d.nanoseconds := by
  refine ⟨by decide +kernel, fun program env directory => ⟨_, rfl, ?_⟩, fun positive => ?_⟩
  · intro p input connection out err
    rw [run_of_instant rfl]
  · let env : Environment := ⟨[(Bytes.ofText timeoutVariable, Bytes.ofText "1e-10")]⟩
    have given : env.getText? timeoutVariable = some "1e-10" := by decide +kernel
    have accepted : AcceptedTimeout "1e-10" ⟨0⟩ := .environment given (by decide +kernel)
    exact absurd (positive _ _ accepted) (lt_irrefl 0)

end Session

end EditorClient
