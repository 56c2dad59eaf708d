/-
# The trials of a search

A seeker that is watched keeps a record of its attempts: of each the place, the states
before and after it, and what came of it. Watching changes nothing, for the search with the
record runs in step with the one without it. So what was done in the course of a search can
be read off the record, attempt by attempt, where the last state alone would not tell.

Two things hold of every record. What is in it was answered by the seeker, and the
connection that a search comes to was made in the latest of its trials, all others having
missed.
-/

import EditorClient.Proofs.Server.Course

namespace EditorClient.Search

variable {σ κ : Type}

/-- An attempt, with the states before and after it. -/
structure Trial (σ κ : Type) extends Attempt κ where
  before : σ
  after : σ

/-- Whether the seeker answers like this. -/
def Trial.Answers (seeker : Seeker σ κ) (trial : Trial σ κ) : Prop :=
  seeker.attempt trial.candidate trial.before =
    match trial.result with
    | .ok connection => .ok connection trial.after
    | .error error => .error error trial.after

/-- A seeker with a record of its attempts, the latest first. -/
def watched (seeker : Seeker σ κ) : Seeker (σ × List (Trial σ κ)) κ where
  attempt candidate s :=
    match seeker.attempt candidate s.1 with
    | .ok connection t => .ok connection (t, ⟨⟨candidate, .ok connection⟩, s.1, t⟩ :: s.2)
    | .error error t => .error error (t, ⟨⟨candidate, .error error⟩, s.1, t⟩ :: s.2)
  launch socket := beside (seeker.launch socket)
  notice bytes s := ((seeker.notice bytes s.1).1, ((seeker.notice bytes s.1).2, s.2))

/-- What an attempt that is watched comes to is the trial that stands in the record then. -/
theorem attempt_watched (seeker : Seeker σ κ) (candidate : Candidate)
    (s : σ × List (Trial σ κ)) :
    ∃ trial : Trial σ κ, trial.Answers seeker ∧ trial.candidate = candidate ∧
      trial.before = s.1 ∧
      (watched seeker).attempt candidate s =
        match trial.result with
        | .ok connection => .ok connection (trial.after, trial :: s.2)
        | .error error => .error error (trial.after, trial :: s.2) := by
  simp only [watched]
  cases answer : seeker.attempt candidate s.1 with
  | ok connection t => exact ⟨⟨⟨candidate, .ok connection⟩, s.1, t⟩, answer, rfl, rfl, rfl⟩
  | error error t => exact ⟨⟨⟨candidate, .error error⟩, s.1, t⟩, answer, rfl, rfl, rfl⟩

/-! ## Watching changes nothing -/

theorem inStep_watched (seeker : Seeker σ κ) :
    InStep (fun s t => s.1 = t) (watched seeker) seeker where
  attempt candidate := by
    rintro ⟨s, record⟩ _ rfl
    simp only [watched]
    cases seeker.attempt candidate s with
    | ok connection t => exact .ok rfl
    | error error t => exact .error rfl
  launch socket := by
    rintro ⟨s, record⟩ _ rfl
    simp only [watched, beside]
    cases seeker.launch socket s with
    | ok _ t => exact .ok rfl
    | error error t => exact .error rfl
  notice := by
    rintro bytes s _ rfl
    rfl

/-- A search comes to the same result and the same state when it is watched. -/
theorem establish_watched (seeker : Seeker σ κ) (c : Config) (s : σ) :
    Matches (fun q q' => q.state.1 = q'.state)
      (establish (watched seeker) c { state := (s, []) }) (establish seeker c { state := s }) :=
  (establish_inStep (inStep_watched seeker) c ⟨rfl, rfl⟩).mono fun _ _ abreast => abreast.state

/-! ## What a search keeps -/

/-- What every answer of a seeker keeps, a search keeps. -/
theorem establish_preserves {I : σ → Prop} {seeker : Seeker σ κ}
    (attempt : ∀ candidate, Preserves I (seeker.attempt candidate))
    (launch : ∀ socket, Preserves I (seeker.launch socket))
    (notice : ∀ bytes s, I s → I (seeker.notice bytes s).2) (c : Config) :
    Preserves (fun q => I q.state) (establish seeker c) := by
  have alone {α ε : Type} {program : EStateM ε σ α} (keeps : Preserves I program) :
      Lockstep (fun s t => s = t ∧ I s) program program := by
    rintro s _ ⟨rfl, holds⟩
    have ends := keeps holds
    generalize program s = result at ends
    cases ends with
    | ok holds => exact .ok ⟨rfl, holds⟩
    | error holds => exact .error ⟨rfl, holds⟩
  have inStep : InStep (fun s t => s = t ∧ I s) seeker seeker := {
    attempt := fun candidate => alone (attempt candidate)
    launch := fun socket => alone (launch socket)
    notice := by
      rintro bytes s _ ⟨rfl, holds⟩
      exact ⟨rfl, notice bytes s holds⟩ }
  intro q holds
  have agree := establish_inStep inStep c (⟨⟨rfl, holds⟩, rfl⟩ : Abreast _ q q)
  generalize establish seeker c q = result at agree
  cases agree with
  | ok abreast => exact .ok abreast.state.2
  | error abreast => exact .error abreast.state.2

/-! ## Which trial decides -/

/-- No trial has come to a connection. -/
def NoneConnected (q : Search (σ × List (Trial σ κ))) : Prop :=
  ∀ trial ∈ q.state.2, ∀ connection, trial.result ≠ .ok connection

/-- All trials have missed. -/
def AllMissed (q : Search (σ × List (Trial σ κ))) : Prop :=
  ∀ trial ∈ q.state.2, trial.missed = true

/-- The latest trial has come to this connection, and all others have missed. -/
def ConnectedLast (connection : κ) (q : Search (σ × List (Trial σ κ))) : Prop :=
  ∃ last earlier, q.state.2 = last :: earlier ∧ last.result = .ok connection ∧
    ∀ trial ∈ earlier, trial.missed = true

theorem not_ok_of_missed {attempt : Attempt κ} (missed : attempt.missed = true)
    (connection : κ) : attempt.result ≠ .ok connection := by
  intro ok
  rw [Attempt.missed, ok] at missed
  nomatch missed

theorem AllMissed.noneConnected {q : Search (σ × List (Trial σ κ))} (all : AllMissed q) :
    NoneConnected q := fun trial there => not_ok_of_missed (all trial there)

/-- Where a search stands after trying one place or several: it may go on only if all
missed. -/
def Tried : EStateM.Result ClientError (Search (σ × List (Trial σ κ))) (Option κ) → Prop :=
  Ends (fun found q => match found with
    | none => AllMissed q
    | some connection => ConnectedLast connection q) fun _ q => NoneConnected q

section

variable (seeker : Seeker σ κ)

theorem tryOne_watched (candidate : Candidate) {q : Search (σ × List (Trial σ κ))}
    (all : AllMissed q) : Tried (tryOne (watched seeker) candidate q) := by
  obtain ⟨trial, -, rfl, -, answer⟩ := attempt_watched seeker candidate q.state
  cases outcome : trial.result with
  | ok connection =>
      rw [outcome] at answer
      rw [tryOne_of_ok answer]
      exact .ok ⟨trial, q.state.2, rfl, outcome, all⟩
  | error error =>
      rw [outcome] at answer
      rw [tryOne_of_error answer]
      have same : (⟨trial.candidate, .error error⟩ : Attempt κ) = trial.toAttempt := by
        rw [← outcome]
      dsimp only
      rw [same]
      split
      case isTrue missed => exact .ok (List.forall_mem_cons.mpr ⟨missed, all⟩)
      case isFalse =>
        have none : ∀ connection, trial.result ≠ .ok connection := by
          intro connection ok
          rw [outcome] at ok
          nomatch ok
        exact .error (List.forall_mem_cons.mpr ⟨none, all.noneConnected⟩)

/-- The induction is on the places that are left. -/
theorem tryAll_watched (candidates : List Candidate) {q : Search (σ × List (Trial σ κ))}
    (all : AllMissed q) : Tried (tryAll (watched seeker) candidates q) := by
  induction candidates generalizing q with
  | nil => exact .ok all
  | cons candidate rest ih =>
      apply (tryOne_watched seeker candidate all).bind
      intro found q' holds
      cases found with
      | none => exact ih holds
      | some connection => exact .ok holds

/-- How the trials of a search tell its result. -/
def Decided : EStateM.Result ClientError (Search (σ × List (Trial σ κ))) (Found κ) → Prop :=
  Ends (fun found q => match found with
    | .connected connection => ConnectedLast connection q
    | .unavailable => NoneConnected q) fun _ q => NoneConnected q

theorem escalate_watched (c : Config) {q : Search (σ × List (Trial σ κ))} (all : AllMissed q) :
    Decided (escalate (watched seeker) c q) := by
  rw [escalate]
  split
  case isTrue =>
    have launched : Ends (fun _ => AllMissed) (fun _ => NoneConnected)
        (launch (watched seeker) c.socketName q) := by
      rw [launch_apply]
      simp only [watched, beside]
      cases seeker.launch c.socketName q.state.1 with
      | ok _ t => exact .ok all
      | error error t => exact .error all.noneConnected
    apply launched.bind
    intro _ q' all'
    have noticed : Ends (fun _ => AllMissed) (fun _ => NoneConnected)
        (notify (watched seeker) launchNotice q') := by
      rw [notify_apply]
      exact .ok all'
    apply noticed.bind
    intro _ q'' all''
    apply (tryAll_watched seeker (Candidate.all c) all'').bind
    intro found q''' holds
    cases found with
    | none => exact .error holds.noneConnected
    | some connection => exact .ok holds
  case isFalse =>
    split
    · exact .ok all.noneConnected
    · exact .error all.noneConnected

/-- The connection of a search was made in the latest trial, and no other trial has come
to one. -/
theorem establish_decided (c : Config) (s : σ) :
    Decided (establish (watched seeker) c { state := (s, []) }) := by
  rw [establish_eq]
  have start : AllMissed ({ state := (s, []) } : Search (σ × List (Trial σ κ))) := nofun
  apply (tryAll_watched seeker (Candidate.all c) start).bind
  intro found q holds
  cases found with
  | some connection => exact .ok holds
  | none => exact escalate_watched seeker c holds

end

end EditorClient.Search
