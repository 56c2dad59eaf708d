/-
# The course of a search

What comes of trying a place, or of starting a server, is not up to the search. A
`Course` is one way in which it can come out: the attempts of the first pass with their
results, the launch of a server if there was one, and the attempts of the second pass.
`Course.Happens` says that a seeker answers like this when it is asked in this order, and
it speaks of no configuration. `Course.Obeys` says what a configuration asks of a course,
and it speaks of no seeker.

Every search has a course that happens and obeys. So which places are tried, whether a
server is started and how the search ends are read off the course alone, and what becomes
of the notice to the user is of no account to any of them.
-/

import EditorClient.Proofs.Lockstep
import EditorClient.Server.Search

namespace EditorClient.Search

variable {σ κ : Type}

/-! ## Attempts -/

/-- A place that was tried, and what came of it. -/
structure Attempt (κ : Type) where
  candidate : Candidate
  result : Except ClientError κ

/-- Whether an attempt failed for a reason that is about its place alone. -/
def Attempt.missed (attempt : Attempt κ) : Bool :=
  match attempt.result with
  | .error (.transport _) => true
  | _ => false

/-- The step of the search that an attempt is. -/
def Attempt.step (attempt : Attempt κ) : SearchStep := .tried attempt.candidate

/-- Trying these places one after the other, from the first state, has these results and
leaves the last state. -/
inductive Attempted (seeker : Seeker σ κ) : σ → List (Attempt κ) → σ → Prop
  | nothing (s : σ) : Attempted seeker s [] s
  | connected {s middle t : σ} {candidate : Candidate} {connection : κ}
      {later : List (Attempt κ)} (here : seeker.attempt candidate s = .ok connection middle)
      (rest : Attempted seeker middle later t) :
      Attempted seeker s (⟨candidate, .ok connection⟩ :: later) t
  | failed {s middle t : σ} {candidate : Candidate} {error : ClientError}
      {later : List (Attempt κ)} (here : seeker.attempt candidate s = .error error middle)
      (rest : Attempted seeker middle later t) :
      Attempted seeker s (⟨candidate, .error error⟩ :: later) t

/-- A pass over places: they are tried in order, up to the first attempt that did not
miss, or else all of them. -/
structure Pass (candidates : List Candidate) (attempts : List (Attempt κ)) : Prop where
  inOrder : attempts.map (·.candidate) <+: candidates
  goesOn : ∀ attempt ∈ attempts.dropLast, attempt.missed = true
  stops : attempts.map (·.candidate) ≠ candidates →
    ∃ attempt ∈ attempts, attempt.missed = false

/-- What attempts come to: the result of the first that did not miss, if there is one. -/
def decided (attempts : List (Attempt κ)) : Option (Except ClientError κ) :=
  (attempts.find? (! ·.missed)).map (·.result)

/-- A result that leaves this state. -/
def ended {α : Type} (result : Except ClientError α) (s : Search σ) :
    EStateM.Result ClientError (Search σ) α :=
  match result with
  | .ok a => .ok a s
  | .error error => .error error s

theorem decided_of_missed {attempts : List (Attempt κ)}
    (missed : ∀ attempt ∈ attempts, attempt.missed = true) : decided attempts = none := by
  simpa [decided] using missed

theorem missed_of_decided {attempts : List (Attempt κ)} (none : decided attempts = none) :
    ∀ attempt ∈ attempts, attempt.missed = true := by
  simpa [decided] using none

/-! ## One pass -/

theorem pass_nil : Pass [] ([] : List (Attempt κ)) where
  inOrder := List.nil_prefix
  goesOn := by simp
  stops different := absurd rfl different

theorem pass_of_missed {attempt : Attempt κ} {candidates : List Candidate}
    {later : List (Attempt κ)} (missed : attempt.missed = true) (pass : Pass candidates later) :
    Pass (attempt.candidate :: candidates) (attempt :: later) where
  inOrder := List.cons_prefix_cons.mpr ⟨rfl, pass.inOrder⟩
  goesOn := by
    cases later with
    | nil => simp
    | cons next others =>
        rw [List.dropLast_cons_cons, List.forall_mem_cons]
        exact ⟨missed, pass.goesOn⟩
  stops different := by
    obtain ⟨other, there, hit⟩ := pass.stops fun same => different (congrArg _ same)
    exact ⟨other, List.mem_cons_of_mem attempt there, hit⟩

theorem pass_of_hit {attempt : Attempt κ} (hit : attempt.missed = false)
    (candidates : List Candidate) : Pass (attempt.candidate :: candidates) [attempt] where
  inOrder := List.prefix_append [attempt.candidate] candidates
  goesOn := by simp
  stops _ := ⟨attempt, List.mem_singleton_self attempt, hit⟩

/-- A pass tries nothing but its places. -/
theorem Pass.mem {candidates : List Candidate} {attempts : List (Attempt κ)}
    (pass : Pass candidates attempts) {attempt : Attempt κ} (there : attempt ∈ attempts) :
    attempt.candidate ∈ candidates :=
  pass.inOrder.mem (List.mem_map_of_mem there)

/-- In a pass, an attempt that did not miss is the one that decides. -/
theorem Pass.decided_of_mem {candidates : List Candidate} {attempts : List (Attempt κ)}
    (pass : Pass candidates attempts) {attempt : Attempt κ} (there : attempt ∈ attempts)
    (hit : attempt.missed = false) : decided attempts = some attempt.result := by
  rcases List.eq_nil_or_concat attempts with rfl | ⟨before, last, rfl⟩
  · exact absurd there List.not_mem_nil
  · rw [List.concat_eq_append] at pass there ⊢
    have others : ∀ attempt ∈ before, attempt.missed = true := by
      simpa using pass.goesOn
    have same : attempt = last := by
      rcases List.mem_append.mp there with early | late
      · rw [others attempt early] at hit
        nomatch hit
      · exact List.mem_singleton.mp late
    have none : before.find? (! ·.missed) = none := by
      simpa using others
    rw [decided, List.find?_append, none, ← same]
    simp [hit]

theorem tryOne_of_ok {seeker : Seeker σ κ} {candidate : Candidate} {q : Search σ}
    {connection : κ} {t : σ} (here : seeker.attempt candidate q.state = .ok connection t) :
    tryOne seeker candidate q = .ok (some connection) ⟨t, .tried candidate :: q.steps⟩ := by
  have noted : record (.tried candidate) q = .ok () ⟨q.state, .tried candidate :: q.steps⟩ := rfl
  apply (bind_of_ok noted _).trans
  dsimp only
  rw [here]

/-- A failure lets the search go on if it is a miss. -/
theorem tryOne_of_error {seeker : Seeker σ κ} {candidate : Candidate} {q : Search σ}
    {error : ClientError} {t : σ} (here : seeker.attempt candidate q.state = .error error t) :
    tryOne seeker candidate q =
      let next : Search σ := ⟨t, .tried candidate :: q.steps⟩
      if (⟨candidate, .error error⟩ : Attempt κ).missed then .ok none next
      else .error error next := by
  have noted : record (.tried candidate) q = .ok () ⟨q.state, .tried candidate :: q.steps⟩ := rfl
  apply (bind_of_ok noted _).trans
  dsimp only
  rw [here]
  cases error <;> rfl

/-- Trying places is a pass over them, and ends as its attempts decide. The induction is on
the places: a miss goes on with the others, and anything else is the end of the pass. -/
theorem tryAll_pass (seeker : Seeker σ κ) (candidates : List Candidate) (q : Search σ) :
    ∃ attempts t, Attempted seeker q.state attempts t ∧ Pass candidates attempts ∧
      tryAll seeker candidates q =
        let final : Search σ := ⟨t, (attempts.map Attempt.step).reverse ++ q.steps⟩
        match decided attempts with
        | none => .ok none final
        | some result => ended (result.map some) final := by
  induction candidates generalizing q with
  | nil => exact ⟨[], q.state, .nothing _, pass_nil, rfl⟩
  | cons candidate rest ih =>
      cases here : seeker.attempt candidate q.state with
      | ok connection state =>
          have hit : (⟨candidate, .ok connection⟩ : Attempt κ).missed = false := rfl
          refine ⟨[⟨candidate, .ok connection⟩], state, .connected here (.nothing _),
            pass_of_hit hit rest, ?_⟩
          exact bind_of_ok (tryOne_of_ok here) _
      | error error state =>
          have tried := tryOne_of_error here
          cases kind : (⟨candidate, .error error⟩ : Attempt κ).missed with
          | true =>
              obtain ⟨later, t, attempted, pass, ends⟩ :=
                ih ⟨state, .tried candidate :: q.steps⟩
              refine ⟨⟨candidate, .error error⟩ :: later, t, .failed here attempted,
                pass_of_missed kind pass, ?_⟩
              have same : decided (⟨candidate, .error error⟩ :: later) = decided later := by
                rw [decided, List.find?_cons_of_neg (by simp [kind]), decided]
              rw [if_pos kind] at tried
              apply (bind_of_ok tried _).trans
              change tryAll seeker rest _ = _
              rw [ends, same]
              simp [Attempt.step]
          | false =>
              refine ⟨[⟨candidate, .error error⟩], state, .failed here (.nothing _),
                pass_of_hit kind rest, ?_⟩
              have here : decided [(⟨candidate, .error error⟩ : Attempt κ)] =
                  some (.error error) := by
                simp [decided, kind]
              rw [if_neg (by simp [kind])] at tried
              rw [tryAll, bind_of_error tried, here]
              rfl

/-! ## Courses -/

/-- One way in which a search can come out. A launch that worked comes with the part of the
notice that could be shown. -/
structure Course (κ : Type) where
  first : List (Attempt κ)
  launch : Option (Except IoError Bytes)
  second : List (Attempt κ)

namespace Course

/-- The steps of a search that takes this course, in order. -/
def steps (socket : Option Bytes) (course : Course κ) : List SearchStep :=
  course.first.map Attempt.step ++
    (match course.launch with
      | none => []
      | some (.error _) => [.launched socket]
      | some (.ok shown) => [.launched socket, .noticed shown]) ++
    course.second.map Attempt.step

/-- What a seeker answers, asked in this order: the attempts of the first pass, the launch
of a server if there is one, and after one that worked the notice and a second pass. -/
inductive Happens (seeker : Seeker σ κ) (socket : Option Bytes) : σ → Course κ → σ → Prop
  | withoutLaunch {s t : σ} {first : List (Attempt κ)} (tried : Attempted seeker s first t) :
      Happens seeker socket s ⟨first, none, []⟩ t
  | launchFailed {s middle t : σ} {first : List (Attempt κ)} {error : IoError}
      (tried : Attempted seeker s first middle)
      (failed : seeker.launch socket middle = .error error t) :
      Happens seeker socket s ⟨first, some (.error error), []⟩ t
  | launched {s middle after t : σ} {first second : List (Attempt κ)}
      (tried : Attempted seeker s first middle)
      (works : seeker.launch socket middle = .ok () after)
      (again : Attempted seeker (seeker.notice (Bytes.ofText launchNotice) after).2 second t) :
      Happens seeker socket s
        ⟨first, some (.ok (seeker.notice (Bytes.ofText launchNotice) after).1), second⟩ t

/-- What a configuration asks of a course, and of what the search comes to. -/
structure Obeys (c : Config) (course : Course κ) (result : Except ClientError (Found κ)) :
    Prop where
  /-- The places are tried in order. -/
  first : Pass (Candidate.all c) course.first
  /-- A server is started exactly if all places were tried and missed, and the command of
  the alternate editor is empty. -/
  launches : course.launch.isSome = true ↔
    course.first.map (·.candidate) = Candidate.all c ∧
      (∀ attempt ∈ course.first, attempt.missed = true) ∧ c.alternateEditor = some ""
  /-- The same places are tried once more, in the same order, if it could be started. -/
  second : ∀ shown, course.launch = some (.ok shown) → Pass (Candidate.all c) course.second
  /-- Nothing else is tried. -/
  onlySecond : (∀ shown, course.launch ≠ some (.ok shown)) → course.second = []
  /-- Where the user or the environment named a place, no other is tried. -/
  explicit : ∀ attempt ∈ course.first ++ course.second,
    (∀ name, c.socketName = some name → attempt.candidate = .socket name true) ∧
    (∀ name, c.socketName = none → c.serverFile = some name →
      attempt.candidate = .serverFile name true)
  /-- An attempt that did not miss is the result: its connection or its error. -/
  decides : ∀ attempt ∈ course.first ++ course.second, attempt.missed = false →
    result = attempt.result.map .connected
  /-- A server that could not be started is the result. -/
  launchFails : ∀ error, course.launch = some (.error error) →
    result = .error (.daemonLaunch error)
  /-- If all places missed also after the launch, then this is the result. -/
  unreachable : ∀ shown, course.launch = some (.ok shown) →
    (∀ attempt ∈ course.second, attempt.missed = true) → result = .error .daemonUnreachable
  /-- If all places missed and no server is to be started, then the alternate editor takes
  over exactly if there is one. -/
  unavailable : (∀ attempt ∈ course.first, attempt.missed = true) →
    c.alternateEditor ≠ some "" →
      (result = .ok .unavailable ↔ ∃ editor, editor ≠ "" ∧ c.alternateEditor = some editor)
  /-- If there is none, then the error is about the place that was named, if one was. -/
  notFound : (∀ attempt ∈ course.first, attempt.missed = true) → c.alternateEditor = none →
    result = .error (match c.socketName, c.serverFile with
      | some name, _ => .socketAccess name
      | none, some name => .serverFileAccess name
      | none, none => .noTransport)

end Course

/-- A place that is tried is the one that was named, if one was. -/
theorem explicit_of_mem_all {c : Config} {candidate : Candidate}
    (there : candidate ∈ Candidate.all c) :
    (∀ name, c.socketName = some name → candidate = .socket name true) ∧
    (∀ name, c.socketName = none → c.serverFile = some name →
      candidate = .serverFile name true) := by
  constructor
  · intro name named
    rw [Candidate.all, named] at there
    exact List.mem_singleton.mp there
  · intro name none named
    rw [Candidate.all, none, named] at there
    exact List.mem_singleton.mp there

theorem notFound_all (c : Config) :
    notFound (Candidate.all c) = match c.socketName, c.serverFile with
      | some name, _ => .socketAccess name
      | none, some name => .serverFileAccess name
      | none, none => .noTransport := by
  rw [Candidate.all]
  cases c.socketName with
  | some name => rfl
  | none => cases c.serverFile <;> rfl

/-- A pass of misses tries all of its places. -/
theorem Pass.all_of_missed {candidates : List Candidate} {attempts : List (Attempt κ)}
    (pass : Pass candidates attempts) (missed : ∀ attempt ∈ attempts, attempt.missed = true) :
    attempts.map (·.candidate) = candidates := by
  apply Decidable.byContradiction
  intro different
  obtain ⟨attempt, there, hit⟩ := pass.stops different
  rw [missed attempt there] at hit
  nomatch hit

/-- What a search tries is among the places of its configuration. -/
theorem explicit_of_pass {c : Config} {first second : List (Attempt κ)}
    (pass : Pass (Candidate.all c) first) (again : second = [] ∨ Pass (Candidate.all c) second) :
    ∀ attempt ∈ first ++ second,
      (∀ name, c.socketName = some name → attempt.candidate = .socket name true) ∧
      (∀ name, c.socketName = none → c.serverFile = some name →
        attempt.candidate = .serverFile name true) := by
  intro attempt there
  rcases List.mem_append.mp there with early | late
  · exact explicit_of_mem_all (pass.mem early)
  · rcases again with none | again
    · rw [none] at late
      nomatch late
    · exact explicit_of_mem_all (again.mem late)

/-- Only a later attempt can decide where the first ones missed. -/
theorem mem_second_of_hit {first second : List (Attempt κ)} {attempt : Attempt κ}
    (missed : ∀ attempt ∈ first, attempt.missed = true) (there : attempt ∈ first ++ second)
    (hit : attempt.missed = false) : attempt ∈ second := by
  rcases List.mem_append.mp there with early | late
  · rw [missed attempt early] at hit
    nomatch hit
  · exact late

/-- A search whose first pass has a hit. -/
theorem obeys_of_hit {c : Config} {attempts : List (Attempt κ)}
    {result : Except ClientError κ} (pass : Pass (Candidate.all c) attempts)
    (hit : decided attempts = some result) :
    (⟨attempts, none, []⟩ : Course κ).Obeys c (result.map .connected) := by
  have notAll : ¬ ∀ attempt ∈ attempts, attempt.missed = true := by
    intro missed
    rw [decided_of_missed missed] at hit
    nomatch hit
  exact {
    first := pass
    launches := ⟨nofun, fun due => absurd due.2.1 notAll⟩
    second := nofun
    onlySecond := fun _ => rfl
    explicit := explicit_of_pass pass (.inl rfl)
    decides := by
      intro attempt there decides
      rw [List.append_nil] at there
      rw [pass.decided_of_mem there decides] at hit
      cases hit
      rfl
    launchFails := nofun
    unreachable := nofun
    unavailable := fun missed => absurd missed notAll
    notFound := fun missed => absurd missed notAll }

section

variable {c : Config} {first : List (Attempt κ)} (pass : Pass (Candidate.all c) first)
  (missed : ∀ attempt ∈ first, attempt.missed = true)

include pass missed

/-- A search that gives up after its first pass. -/
theorem obeys_of_missed (never : c.launchesDaemon = false) :
    (⟨first, none, []⟩ : Course κ).Obeys c
      (if c.hasFallback then .ok .unavailable else .error (notFound (Candidate.all c))) := by
  have other : c.alternateEditor ≠ some "" := by
    simpa [Config.launchesDaemon] using never
  exact {
    first := pass
    launches := ⟨nofun, fun due => absurd due.2.2 other⟩
    second := nofun
    onlySecond := fun _ => rfl
    explicit := explicit_of_pass pass (.inl rfl)
    decides := by
      intro attempt there hit
      nomatch mem_second_of_hit missed there hit
    launchFails := nofun
    unreachable := nofun
    unavailable := by
      intro _ _
      cases editor : c.alternateEditor with
      | none => simp [Config.hasFallback, editor]
      | some command =>
          have nonempty : command ≠ "" := by
            intro empty
            exact other (editor.trans (congrArg some empty))
          simp [Config.hasFallback, editor, nonempty]
    notFound := by
      intro _ none
      rw [if_neg (by simp [Config.hasFallback, none]), notFound_all] }

/-- After these attempts a server is to be started. -/
theorem launches_of_missed (launches : c.launchesDaemon = true) :
    first.map (·.candidate) = Candidate.all c ∧
      (∀ attempt ∈ first, attempt.missed = true) ∧ c.alternateEditor = some "" :=
  ⟨pass.all_of_missed missed, missed, by simpa [Config.launchesDaemon] using launches⟩

/-- A search that cannot start a server. -/
theorem obeys_of_launch_error (launches : c.launchesDaemon = true) (error : IoError) :
    (⟨first, some (.error error), []⟩ : Course κ).Obeys c (.error (.daemonLaunch error)) := by
  have due := launches_of_missed pass missed launches
  exact {
    first := pass
    launches := ⟨fun _ => due, fun _ => rfl⟩
    second := nofun
    onlySecond := fun _ => rfl
    explicit := explicit_of_pass pass (.inl rfl)
    decides := by
      intro attempt there hit
      nomatch mem_second_of_hit missed there hit
    launchFails := by
      rintro _ ⟨⟩
      rfl
    unreachable := nofun
    unavailable := fun _ other => absurd due.2.2 other
    notFound := by
      intro _ none
      rw [due.2.2] at none
      nomatch none }

/-- A search that tries its places once more. -/
theorem obeys_of_launch (launches : c.launchesDaemon = true) (shown : Bytes)
    {second : List (Attempt κ)} (again : Pass (Candidate.all c) second) :
    (⟨first, some (.ok shown), second⟩ : Course κ).Obeys c
      (match decided second with
        | none => .error .daemonUnreachable
        | some result => result.map .connected) := by
  have due := launches_of_missed pass missed launches
  exact {
    first := pass
    launches := ⟨fun _ => due, fun _ => rfl⟩
    second := fun _ _ => again
    onlySecond := fun never => absurd rfl (never shown)
    explicit := explicit_of_pass pass (.inr again)
    decides := by
      intro attempt there hit
      rw [again.decided_of_mem (mem_second_of_hit missed there hit) hit]
    launchFails := nofun
    unreachable := by
      intro _ _ none
      rw [decided_of_missed none]
    unavailable := fun _ other => absurd due.2.2 other
    notFound := by
      intro _ none
      rw [due.2.2] at none
      nomatch none }

end

theorem launch_apply (seeker : Seeker σ κ) (socket : Option Bytes) (q : Search σ) :
    launch seeker socket q =
      match seeker.launch socket q.state with
      | .ok _ state => .ok () ⟨state, .launched socket :: q.steps⟩
      | .error error state => .error (.daemonLaunch error) ⟨state, .launched socket :: q.steps⟩ :=
  rfl

theorem notify_apply (seeker : Seeker σ κ) (notice : String) (q : Search σ) :
    notify seeker notice q =
      let shown := seeker.notice (Bytes.ofText notice) q.state
      .ok () ⟨shown.2, .noticed shown.1 :: q.steps⟩ := rfl

/-- What follows a first pass in which all places missed. -/
def escalate (seeker : Seeker σ κ) (c : Config) : Op σ (Found κ) :=
  if c.launchesDaemon then do
    launch seeker c.socketName
    notify seeker launchNotice
    match ← tryAll seeker (Candidate.all c) with
    | some connection => return .connected connection
    | none => throw .daemonUnreachable
  else if c.hasFallback then return .unavailable
  else throw (notFound (Candidate.all c))

theorem establish_eq (seeker : Seeker σ κ) (c : Config) :
    establish seeker c = tryAll seeker (Candidate.all c) >>= fun found =>
      match found with
      | some connection => pure (.connected connection)
      | none => escalate seeker c := rfl

/-- After a first pass of misses the search takes a course that began so. -/
theorem escalate_course (seeker : Seeker σ κ) (c : Config) {s middle : σ}
    {attempts : List (Attempt κ)} (tried : Attempted seeker s attempts middle)
    (pass : Pass (Candidate.all c) attempts)
    (missed : ∀ attempt ∈ attempts, attempt.missed = true) :
    ∃ course result t, Course.Happens seeker c.socketName s course t ∧ course.Obeys c result ∧
      escalate seeker c ⟨middle, (attempts.map Attempt.step).reverse⟩ =
        ended result ⟨t, (course.steps c.socketName).reverse⟩ := by
  cases launches : c.launchesDaemon with
  | false =>
      refine ⟨⟨attempts, none, []⟩, _, middle, .withoutLaunch tried,
        obeys_of_missed pass missed launches, ?_⟩
      rw [escalate, if_neg (by simp [launches])]
      have steps : (⟨attempts, none, []⟩ : Course κ).steps c.socketName =
          attempts.map Attempt.step := by
        simp [Course.steps]
      rw [steps]
      cases c.hasFallback <;> rfl
  | true =>
      have started := launch_apply seeker c.socketName
        ⟨middle, (attempts.map Attempt.step).reverse⟩
      rw [escalate, if_pos launches]
      cases answer : seeker.launch c.socketName middle with
      | error error t =>
          simp only [answer] at started
          refine ⟨⟨attempts, some (.error error), []⟩, _, t, .launchFailed tried answer,
            obeys_of_launch_error pass missed launches error, ?_⟩
          apply (bind_of_error started _).trans
          simp [Course.steps, ended]
      | ok _ after =>
          simp only [answer] at started
          obtain ⟨second, t, again, pass', ends⟩ := tryAll_pass seeker (Candidate.all c)
            ⟨(seeker.notice (Bytes.ofText launchNotice) after).2,
              .noticed (seeker.notice (Bytes.ofText launchNotice) after).1 ::
                .launched c.socketName :: (attempts.map Attempt.step).reverse⟩
          refine ⟨⟨attempts, some (.ok _), second⟩, _, t, .launched tried answer again,
            obeys_of_launch pass missed launches _ pass', ?_⟩
          have steps : (second.map Attempt.step).reverse ++
              .noticed (seeker.notice (Bytes.ofText launchNotice) after).1 ::
                .launched c.socketName :: (attempts.map Attempt.step).reverse =
              ((⟨attempts, some (.ok (seeker.notice (Bytes.ofText launchNotice) after).1),
                second⟩ : Course κ).steps c.socketName).reverse := by
            simp [Course.steps]
          apply (bind_of_ok started _).trans
          apply (bind_of_ok (notify_apply seeker launchNotice _) _).trans
          simp only [steps] at ends
          cases hit : decided second with
          | none =>
              rw [hit] at ends
              exact bind_of_ok ends _
          | some result =>
              rw [hit] at ends
              cases result with
              | ok connection => exact bind_of_ok ends _
              | error error => exact bind_of_error ends _

/-! ## Two seekers in step -/

/-- Whether a step is that the user was shown something. -/
def isNotice : SearchStep → Bool
  | .noticed _ => true
  | _ => false

section

variable {τ : Type}

/-- Two seekers that answer alike from related states. Of a notice it does not matter how
much of it could be shown. -/
structure InStep (R : σ → τ → Prop) (first : Seeker σ κ) (second : Seeker τ κ) : Prop where
  attempt : ∀ candidate, Lockstep R (first.attempt candidate) (second.attempt candidate)
  launch : ∀ socket, Lockstep R (first.launch socket) (second.launch socket)
  notice : ∀ bytes s t, R s t → R (first.notice bytes s).2 (second.notice bytes t).2

/-- Two searches that have come equally far, from related states to related states. -/
structure Abreast (R : σ → τ → Prop) (q : Search σ) (q' : Search τ) : Prop where
  state : R q.state q'.state
  steps : q.steps.filter (! isNotice ·) = q'.steps.filter (! isNotice ·)

variable {R : σ → τ → Prop} {first : Seeker σ κ} {second : Seeker τ κ}

theorem Abreast.step {q : Search σ} {q' : Search τ} (abreast : Abreast R q q')
    (step : SearchStep) {s : σ} {t : τ} (related : R s t) :
    Abreast R ⟨s, step :: q.steps⟩ ⟨t, step :: q'.steps⟩ where
  state := related
  steps := by
    rw [List.filter_cons, List.filter_cons, abreast.steps]

section

variable (inStep : InStep R first second)

include inStep

theorem tryOne_inStep (candidate : Candidate) :
    Lockstep (Abreast R) (tryOne first candidate) (tryOne second candidate) := by
  intro q q' abreast
  have agree := inStep.attempt candidate abreast.state
  generalize here : first.attempt candidate q.state = result at agree
  generalize there : second.attempt candidate q'.state = result' at agree
  cases agree with
  | ok related =>
      rw [tryOne_of_ok here, tryOne_of_ok there]
      exact .ok (abreast.step _ related)
  | error related =>
      rw [tryOne_of_error here, tryOne_of_error there]
      dsimp only
      split
      · exact .ok (abreast.step _ related)
      · exact .error (abreast.step _ related)

theorem tryAll_inStep (candidates : List Candidate) :
    Lockstep (Abreast R) (tryAll first candidates) (tryAll second candidates) := by
  induction candidates with
  | nil => exact .skip none
  | cons candidate rest ih =>
      apply (tryOne_inStep inStep candidate).bind
      intro found
      cases found with
      | some connection => exact .skip (some connection)
      | none => exact ih

theorem launch_inStep (socket : Option Bytes) :
    Lockstep (Abreast R) (launch first socket) (launch second socket) := by
  intro q q' abreast
  rw [launch_apply, launch_apply]
  have agree := inStep.launch socket abreast.state
  generalize first.launch socket q.state = result at agree
  generalize second.launch socket q'.state = result' at agree
  cases agree with
  | ok related => exact .ok (abreast.step _ related)
  | error related => exact .error (abreast.step _ related)

theorem notify_inStep (notice : String) :
    Lockstep (Abreast R) (notify first notice) (notify second notice) := by
  intro q q' abreast
  rw [notify_apply, notify_apply]
  exact .ok ⟨inStep.notice _ _ _ abreast.state, abreast.steps⟩

theorem escalate_inStep (c : Config) :
    Lockstep (Abreast R) (escalate first c) (escalate second c) := by
  rw [escalate, escalate]
  split
  · apply (launch_inStep inStep c.socketName).bind
    intro _
    apply (notify_inStep inStep launchNotice).bind
    intro _
    apply (tryAll_inStep inStep (Candidate.all c)).bind
    intro found
    cases found with
    | some connection => exact .skip (Found.connected connection)
    | none => exact fun _ _ abreast => .error abreast
  · split
    · exact .skip Found.unavailable
    · exact fun _ _ abreast => .error abreast

/-- With seekers that answer alike, a search comes to the same. -/
theorem establish_inStep (c : Config) :
    Lockstep (Abreast R) (establish first c) (establish second c) := by
  rw [establish_eq, establish_eq]
  apply (tryAll_inStep inStep (Candidate.all c)).bind
  intro found
  cases found with
  | some connection => exact .skip (Found.connected connection)
  | none => exact escalate_inStep inStep c

end

end

/-! ## The notice -/

variable {ν ν' : Type}

/-- A program beside something that it does not touch. -/
def beside {ε α : Type} (program : EStateM ε σ α) : EStateM ε (σ × ν) α := fun s =>
  match program s.1 with
  | .ok a t => .ok a (t, s.2)
  | .error error t => .error error (t, s.2)

/-- A seeker that shows its notices by a sink with a state of its own. -/
def showingBy (sink : Bytes → ν → Bytes × ν) (seeker : Seeker σ κ) : Seeker (σ × ν) κ where
  attempt candidate := beside (seeker.attempt candidate)
  launch socket := beside (seeker.launch socket)
  notice bytes s := ((sink bytes s.2).1, (s.1, (sink bytes s.2).2))

/-- Two searches that differ at most in what became of their notices. -/
structure SameButNotices (q : Search (σ × ν)) (q' : Search (σ × ν')) : Prop where
  state : q.state.1 = q'.state.1
  steps : q.steps.filter (! isNotice ·) = q'.steps.filter (! isNotice ·)

/-- What stands beside a program makes no difference to it. -/
theorem beside_lockstep {ε α : Type} (program : EStateM ε σ α) :
    Lockstep (fun (s : σ × ν) (t : σ × ν') => s.1 = t.1) (beside program) (beside program) := by
  rintro ⟨s, n⟩ ⟨_, n'⟩ rfl
  simp only [beside]
  cases program s with
  | ok a t => exact .ok rfl
  | error error t => exact .error rfl

/-- What becomes of the notices makes no difference to a search. -/
theorem establish_lockstep (seeker : Seeker σ κ) (sink : Bytes → ν → Bytes × ν)
    (sink' : Bytes → ν' → Bytes × ν') (c : Config) :
    Lockstep SameButNotices (establish (showingBy sink seeker) c)
      (establish (showingBy sink' seeker) c) := by
  have inStep : InStep (fun (s : σ × ν) (t : σ × ν') => s.1 = t.1) (showingBy sink seeker)
      (showingBy sink' seeker) :=
    ⟨fun _ => beside_lockstep _, fun _ => beside_lockstep _, fun _ _ _ same => same⟩
  intro q q' same
  exact (establish_inStep inStep c ⟨same.state, same.steps⟩).mono
    fun _ _ abreast => ⟨abreast.state, abreast.steps⟩

/-- Whatever comes of trying places, of starting a server and of showing a notice, a search
takes a course that its configuration allows and comes to the result that belongs to the
course. And where the notices go to a sink of their own, neither the result nor the places
that were tried nor the launch depends on the sink. -/
theorem establish_course (seeker : Seeker σ κ) (c : Config) (s : σ) :
    (∃ course result t, Course.Happens seeker c.socketName s course t ∧ course.Obeys c result ∧
      establish seeker c { state := s } =
        ended result ⟨t, (course.steps c.socketName).reverse⟩) ∧
    ∀ (sink : Bytes → ν → Bytes × ν) (sink' : Bytes → ν' → Bytes × ν') (n : ν) (n' : ν'),
      Matches SameButNotices (establish (showingBy sink seeker) c { state := (s, n) })
        (establish (showingBy sink' seeker) c { state := (s, n') }) := by
  constructor
  · obtain ⟨attempts, middle, tried, pass, ends⟩ :=
      tryAll_pass seeker (Candidate.all c) { state := s }
    rw [List.append_nil] at ends
    rw [establish_eq]
    cases hit : decided attempts with
    | none =>
        rw [hit] at ends
        rw [bind_of_ok ends]
        exact escalate_course seeker c tried pass (missed_of_decided hit)
    | some result =>
        rw [hit] at ends
        refine ⟨⟨attempts, none, []⟩, _, middle, .withoutLaunch tried, obeys_of_hit pass hit, ?_⟩
        have steps : (⟨attempts, none, []⟩ : Course κ).steps c.socketName =
            attempts.map Attempt.step := by
          simp [Course.steps]
        rw [steps]
        cases result with
        | ok connection => exact bind_of_ok ends _
        | error error => exact bind_of_error ends _
  · intro sink sink' n n'
    exact establish_lockstep seeker sink sink' c ⟨rfl, rfl⟩

end EditorClient.Search
