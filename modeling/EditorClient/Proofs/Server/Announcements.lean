/-
# What the user is told of connections

Before a connection to another machine is opened, the user is told that there is one. The
line is printed in the course of a trial that can still fail, and all places may be tried
once more after it. So whether it is true is a matter of the whole search: it is said once at
most, and only of the connection that the search comes to, exactly if no call to another
machine fails.

`Account` is what a search of a machine comes to, with its trials. `Truthful` is what the
lines promise and speaks of no program. The machine is any, as is what starting a server
makes of it; so the content of the server file and the answer to a call may be others in
the second pass. Standard output takes all that is printed: where a line cannot be printed,
the program is broken off.
-/

import EditorClient.Machine.Visit
import EditorClient.Proofs.Server.Trials

namespace EditorClient

/-- The host of which a line tells that it was connected to. -/
def Printed.host? : Printed → Option Ipv4
  | .connectedTo _ ip => some ip
  | .cutOff _ | .byChild _ => none

namespace Search

/-- The hosts of which the user was told during a trial. -/
def Trial.told (trial : Trial Visit Link) : List Ipv4 :=
  (trial.after.printed.take
    (trial.after.printed.length - trial.before.printed.length)).filterMap Printed.host?

/-- Whether a trial came so far as to call this address. -/
def Trial.Calls (c : Config) (trial : Trial Visit Link) (address : Address) : Prop :=
  ∃ token, Endpoint.locate trial.before.machine c.env trial.candidate =
    .ok (.network address token)

end Search

namespace Visit

open Search

/-- The hosts of which the user was told, the latest first. -/
def told (v : Visit) : List Ipv4 := v.printed.filterMap Printed.host?

/-- A search of a machine: its result, its trials in order, and the visit at its end. -/
structure Account where
  result : Except ClientError (Found Link)
  trials : List (Trial Visit Link)
  final : Visit

/-- The account of a search that was watched. -/
def Account.ofResult :
    EStateM.Result ClientError (Search (Visit × List (Trial Visit Link))) (Found Link) → Account
  | .ok found q => ⟨.ok found, q.state.2.reverse, q.state.1⟩
  | .error error q => ⟨.error error, q.state.2.reverse, q.state.1⟩

/-- The account of a search of this machine. -/
def account (c : Config) (launcher : Launcher) (m : Machine) : Account :=
  .ofResult (establish (watched (seeker c launcher)) c { state := ({ machine := m }, []) })

/-- What the user may believe: at most one connection to another machine was told of, and it
is there, at the address that was named; a call that failed was not told of. -/
structure Truthful (c : Config) (a : Account) : Prop where
  once : a.final.told.length ≤ 1
  real : ∀ ip ∈ a.final.told, ip.isLoopback = false ∧
    ∃ trial ∈ a.trials, ∃ link address, trial.Calls c address ∧ address.ip = ip ∧
      trial.result = .ok link ∧ a.result = .ok (.connected link)
  silent : ∀ trial ∈ a.trials, ∀ address, trial.Calls c address →
    (∀ link, trial.result ≠ .ok link) → trial.told = []

/-! ## What a trial prints -/

/-- The hosts of which the user is to be told when a connection to this endpoint is opened. -/
def toTell (c : Config) : Endpoint → List Ipv4
  | .socket _ => []
  | .network address _ =>
    if address.ip.isLoopback = false ∧ c.quiet = false then [address.ip] else []

/-- A visit after the user was told of the connection that is about to be opened. -/
def announced (c : Config) (endpoint : Endpoint) (v : Visit) : Visit :=
  { v with printed := (toTell c endpoint).map (.connectedTo c.program) ++ v.printed }

/-- Where standard output takes everything, the user is told of each connection that is to be told
of. -/
theorem announce_eq {v : Visit} (takesAll : v.out = {}) (c : Config) (endpoint : Endpoint) :
    announce c endpoint v = .ok () (v.announced c endpoint) := by
  cases endpoint with
  | socket path => rfl
  | network address token =>
      have told : tellOf c.program address.ip v =
          .ok () { v with printed := .connectedTo c.program address.ip :: v.printed } := by
        simp only [tellOf, takesAll, Sink.failure_takesAll, Sink.after_takesAll]
      simp only [announce, announced, toTell, Endpoint.isForeign, Bool.not_eq_true,
        Bool.not_eq_true']
      split
      · exact told
      · rfl

/-- The hosts of which the user is to be told when a place is tried on this machine. -/
def toTellAt (c : Config) (m : Machine) (candidate : Candidate) : List Ipv4 :=
  match Endpoint.locate m c.env candidate with
  | .ok endpoint => toTell c endpoint
  | .error _ => []

/-- Trying a place tells of the connection that is about to be opened, whatever comes of
it. -/
theorem printed_attempt (c : Config) (candidate : Candidate) {v : Visit}
    (takesAll : v.out = {}) :
    let telling (w : Visit) := w.out = {} ∧
      w.printed = (toTellAt c v.machine candidate).map (.connectedTo c.program) ++ v.printed
    Ends (fun _ => telling) (fun _ => telling) (attempt c candidate v) := by
  intro telling
  rw [attempt]
  cases found : Endpoint.locate v.machine c.env candidate with
  | error error =>
      have nothing : toTellAt c v.machine candidate = [] := by rw [toTellAt, found]
      have silent (w : Visit) (same : w.printed = v.printed) (still : w.out = v.out) :
          telling w := by
        simp only [telling, nothing, same, still]
        exact ⟨takesAll, rfl⟩
      cases error with
      | transport error =>
          apply Ends.error
          split
          · exact silent _ rfl rfl
          · exact silent _ rfl rfl
      | _ => exact .error (silent v rfl rfl)
  | ok endpoint =>
      have tells : toTellAt c v.machine candidate = toTell c endpoint := by rw [toTellAt, found]
      have announced : telling (v.announced c endpoint) := ⟨takesAll, by rw [tells, announced]⟩
      dsimp only
      rw [bind_of_ok (announce_eq takesAll c endpoint), call]
      split
      · exact .ok announced
      · exact .error announced

variable {c : Config} {launcher : Launcher} {trial : Trial Visit Link}

/-- A trial of this search in which the user could be told of everything. -/
structure Heard (c : Config) (launcher : Launcher) (trial : Trial Visit Link) : Prop where
  answers : trial.Answers (seeker c launcher)
  takesAll : trial.before.out = {}

theorem printed_trial (heard : Heard c launcher trial) :
    trial.after.out = {} ∧
      trial.after.printed =
        (toTellAt c trial.before.machine trial.candidate).map (.connectedTo c.program) ++
          trial.before.printed := by
  have ends := printed_attempt c trial.candidate heard.takesAll
  have answer : attempt c trial.candidate trial.before = _ := heard.answers
  rw [answer] at ends
  cases outcome : trial.result with
  | ok link =>
      rw [outcome] at ends
      exact ends.post_of_ok
  | error error =>
      rw [outcome] at ends
      exact ends.failed_of_error

theorem hosts_map (program : String) (ips : List Ipv4) :
    (ips.map (Printed.connectedTo program)).filterMap Printed.host? = ips := by
  rw [List.filterMap_map]
  exact List.filterMap_some

/-- What the user was told during a trial. -/
theorem told_trial (heard : Heard c launcher trial) :
    trial.told = toTellAt c trial.before.machine trial.candidate := by
  rw [Trial.told, (printed_trial heard).2, List.length_append, Nat.add_sub_cancel,
    List.take_left' rfl, hosts_map]

theorem told_after (heard : Heard c launcher trial) :
    trial.after.told = trial.told ++ trial.before.told := by
  rw [told_trial heard, told, (printed_trial heard).2, List.filterMap_append, hosts_map, told]

/-- A host that was told of is the one that was called, and it is not this machine. -/
theorem calls_of_mem_told (heard : Heard c launcher trial) {ip : Ipv4}
    (there : ip ∈ trial.told) :
    ip.isLoopback = false ∧ ∃ address, trial.Calls c address ∧ address.ip = ip := by
  rw [told_trial heard, toTellAt] at there
  cases found : Endpoint.locate trial.before.machine c.env trial.candidate with
  | error error =>
      rw [found] at there
      nomatch there
  | ok endpoint =>
      rw [found] at there
      cases endpoint with
      | socket path => nomatch there
      | network address token =>
          dsimp only [toTell] at there
          split at there
          case isTrue foreign =>
              rw [List.mem_singleton.mp there]
              exact ⟨foreign.1, address, ⟨token, found⟩, rfl⟩
          case isFalse => nomatch there

/-- During a trial that calls an address the user is told of it exactly if it is foreign
and the client is not to be quiet. -/
theorem told_of_calls (heard : Heard c launcher trial) {address : Address}
    (calls : trial.Calls c address) :
    trial.told =
      if address.ip.isLoopback = false ∧ c.quiet = false then [address.ip] else [] := by
  obtain ⟨token, found⟩ := calls
  rw [told_trial heard, toTellAt, found]
  rfl

theorem told_length_le (heard : Heard c launcher trial) : trial.told.length ≤ 1 := by
  rw [told_trial heard, toTellAt]
  cases Endpoint.locate trial.before.machine c.env trial.candidate with
  | error error => exact Nat.zero_le 1
  | ok endpoint =>
      cases endpoint with
      | socket path => exact Nat.zero_le 1
      | network address token =>
          dsimp only [toTell]
          split
          · exact Nat.le_refl 1
          · exact Nat.zero_le 1

/-! ## What a search prints -/

/-- The user was told what the trials of the record told, and could be told of more. -/
structure Accounted (c : Config) (launcher : Launcher) (s : Visit × List (Trial Visit Link)) :
    Prop where
  told : s.1.told = s.2.flatMap Trial.told
  takesAll : s.1.out = {}
  heard : ∀ trial ∈ s.2, Heard c launcher trial

theorem attempt_accounted (candidate : Candidate) :
    Preserves (Accounted c launcher) ((watched (seeker c launcher)).attempt candidate) := by
  intro s accounted
  obtain ⟨trial, answers, -, start, answer⟩ := attempt_watched (seeker c launcher) candidate s
  have heard : Heard c launcher trial := ⟨answers, start ▸ accounted.takesAll⟩
  have told : trial.after.told = (trial :: s.2).flatMap Trial.told := by
    rw [told_after heard, start, accounted.told, List.flatMap_cons]
  have after : Accounted c launcher (trial.after, trial :: s.2) :=
    ⟨told, (printed_trial heard).1, List.forall_mem_cons.mpr ⟨heard, accounted.heard⟩⟩
  rw [answer]
  cases trial.result with
  | ok link => exact .ok after
  | error error => exact .error after

theorem launch_accounted (socket : Option Bytes) :
    Preserves (Accounted c launcher) ((watched (seeker c launcher)).launch socket) := by
  intro s accounted
  have after (v : Visit) (told : v.told = s.1.told) (out : v.out = s.1.out) :
      Accounted c launcher (v, s.2) :=
    ⟨told.trans accounted.told, out.trans accounted.takesAll, accounted.heard⟩
  simp only [watched, beside, seeker, start]
  cases (launcher socket s.1.machine).2 with
  | ok machine => exact .ok (after _ rfl rfl)
  | error error => exact .error (after _ rfl rfl)

theorem notice_accounted (notice : Bytes) (s : Visit × List (Trial Visit Link))
    (accounted : Accounted c launcher s) :
    Accounted c launcher ((watched (seeker c launcher)).notice notice s).2 :=
  ⟨accounted.told, accounted.takesAll, accounted.heard⟩

theorem establish_accounted (c : Config) (launcher : Launcher) (m : Machine) :
    Ends (fun _ q => Accounted c launcher q.state) (fun _ q => Accounted c launcher q.state)
      (establish (watched (seeker c launcher)) c { state := ({ machine := m }, []) }) :=
  establish_preserves attempt_accounted launch_accounted notice_accounted c
    ⟨rfl, rfl, fun _ none => absurd none List.not_mem_nil⟩

/-! ## Accounts -/

/-- An account is of the search as it is when nobody watches. -/
theorem account_eq (c : Config) (launcher : Launcher) (m : Machine) :
    ∃ steps, establish (seeker c launcher) c { state := { machine := m } } =
      ended (account c launcher m).result ⟨(account c launcher m).final, steps⟩ := by
  have agree := establish_watched (seeker c launcher) c { machine := m }
  rw [account]
  generalize establish (watched (seeker c launcher)) c _ = result at agree ⊢
  generalize establish (seeker c launcher) c _ = result' at agree ⊢
  cases agree with
  | @ok found q q' same => exact ⟨q'.steps, congrArg _ (congrArg (Search.mk · q'.steps) same.symm)⟩
  | @error error q q' same =>
      exact ⟨q'.steps, congrArg _ (congrArg (Search.mk · q'.steps) same.symm)⟩

/-- What the user was told is what the trials told. -/
theorem told_account (c : Config) (launcher : Launcher) (m : Machine) :
    (account c launcher m).final.told = (account c launcher m).trials.reverse.flatMap Trial.told ∧
      ∀ trial ∈ (account c launcher m).trials, Heard c launcher trial := by
  have ends := establish_accounted c launcher m
  rw [account]
  generalize establish (watched (seeker c launcher)) c _ = result at ends ⊢
  cases ends with
  | ok accounted | error accounted =>
      dsimp only [Account.ofResult]
      rw [List.reverse_reverse]
      exact ⟨accounted.told, fun trial there => accounted.heard trial (List.mem_reverse.mp there)⟩

/-- A trial that came to a connection was the last one, the connection is what the search
came to, and no other trial has come to any. -/
theorem last_of_ok (c : Config) (launcher : Launcher) (m : Machine) {trial : Trial Visit Link}
    (there : trial ∈ (account c launcher m).trials) {link : Link} (ok : trial.result = .ok link) :
    (account c launcher m).result = .ok (.connected link) ∧
      ∃ earlier, (account c launcher m).trials = earlier ++ [trial] ∧
        ∀ other ∈ earlier, ∀ link, other.result ≠ .ok link := by
  have decided := establish_decided (seeker c launcher) c { machine := m }
  revert there
  rw [account]
  generalize establish (watched (seeker c launcher)) c _ = result at decided ⊢
  intro there
  cases decided with
  | @error error q none => exact absurd ok (none trial (List.mem_reverse.mp there) link)
  | @ok found q holds =>
      cases found with
      | unavailable => exact absurd ok (holds trial (List.mem_reverse.mp there) link)
      | connected connection =>
          obtain ⟨last, earlier, record, connected, missed⟩ := holds
          have place : trial ∈ last :: earlier := record ▸ List.mem_reverse.mp there
          rcases List.mem_cons.mp place with rfl | before
          · rw [connected] at ok
            cases ok
            refine ⟨rfl, earlier.reverse, ?_, fun other there => ?_⟩
            · dsimp only [Account.ofResult]
              rw [record, List.reverse_cons]
            · exact not_ok_of_missed (missed other (List.mem_reverse.mp there))
          · exact absurd ok (not_ok_of_missed (missed trial before) link)

/-- Every call to another machine was answered. -/
def AllAnswered (c : Config) (a : Account) : Prop :=
  ∀ trial ∈ a.trials, ∀ address, trial.Calls c address → address.ip.isLoopback = false →
    ∃ link, trial.result = .ok link

section

variable {m : Machine}

/-- Where the user is told of a connection only in a trial that comes to one, all that is
told is true: there is one such trial at most, and its connection is the one that the search
comes to. -/
theorem truthful_of_connected
    (connected : ∀ trial ∈ (account c launcher m).trials, ∀ ip ∈ trial.told,
      ∃ link, trial.result = .ok link) :
    Truthful c (account c launcher m) := by
  obtain ⟨told, heard⟩ := told_account c launcher m
  have silent : ∀ trial ∈ (account c launcher m).trials, (∀ link, trial.result ≠ .ok link) →
      trial.told = [] := by
    intro trial there none
    apply List.eq_nil_iff_forall_not_mem.mpr
    intro ip named
    obtain ⟨link, ok⟩ := connected trial there ip named
    exact none link ok
  refine ⟨?_, ?_, fun trial there _ _ none => silent trial there none⟩
  · by_cases any : ∃ trial ∈ (account c launcher m).trials, ∃ link, trial.result = .ok link
    · obtain ⟨trial, there, link, ok⟩ := any
      obtain ⟨-, earlier, shape, others⟩ := last_of_ok c launcher m there ok
      have nothing : earlier.reverse.flatMap Trial.told = [] := by
        rw [List.flatMap_eq_nil_iff]
        intro other before
        have before := List.mem_reverse.mp before
        exact silent other (shape ▸ List.mem_append_left _ before) (others other before)
      rw [told, shape, List.reverse_append, List.flatMap_append, nothing, List.append_nil,
        List.reverse_singleton, List.flatMap_singleton]
      exact told_length_le (heard trial there)
    · have nothing : (account c launcher m).trials.reverse.flatMap Trial.told = [] := by
        rw [List.flatMap_eq_nil_iff]
        intro trial there
        have there := List.mem_reverse.mp there
        exact silent trial there fun link ok => any ⟨trial, there, link, ok⟩
      rw [told, nothing]
      exact Nat.zero_le 1
  · intro ip named
    rw [told] at named
    obtain ⟨trial, there, named⟩ := List.mem_flatMap.mp named
    have there := List.mem_reverse.mp there
    obtain ⟨foreign, address, calls, same⟩ := calls_of_mem_told (heard trial there) named
    obtain ⟨link, ok⟩ := connected trial there ip named
    exact ⟨foreign, trial, there, link, address, calls, same, ok,
      (last_of_ok c launcher m there ok).1⟩

theorem truthful_of_allAnswered (answered : AllAnswered c (account c launcher m)) :
    Truthful c (account c launcher m) := by
  apply truthful_of_connected
  intro trial there ip told
  have heard := (told_account c launcher m).2 trial there
  obtain ⟨foreign, address, calls, rfl⟩ := calls_of_mem_told heard told
  exact answered trial there address calls foreign

/-- A client that is to be quiet tells nothing. -/
theorem truthful_of_quiet (quiet : c.quiet = true) : Truthful c (account c launcher m) := by
  apply truthful_of_connected
  intro trial there ip told
  have heard := (told_account c launcher m).2 trial there
  obtain ⟨-, address, calls, -⟩ := calls_of_mem_told heard told
  rw [told_of_calls heard calls, if_neg (by simp [quiet])] at told
  nomatch told

/-- A call to another machine that fails was told of all the same. -/
theorem allAnswered_of_truthful (loud : c.quiet = false)
    (truthful : Truthful c (account c launcher m)) : AllAnswered c (account c launcher m) := by
  intro trial there address calls foreign
  have heard := (told_account c launcher m).2 trial there
  apply Classical.byContradiction
  intro none
  have nothing := truthful.silent trial there address calls fun link ok => none ⟨link, ok⟩
  rw [told_of_calls heard calls, if_pos ⟨foreign, loud⟩] at nothing
  nomatch nothing

end

/-! ## Calls that fail -/

section

variable {m m' : Machine} {candidate : Candidate} {address : Address} {token token' : Bytes}
  {error error' : IoError}

/-- Where a search stands: on this machine, after the user was told of these hosts, the
latest first, and with room for more. -/
structure Stands (v : Visit) (m : Machine) (told : List Ipv4) : Prop where
  machine : v.machine = m
  told : v.told = told
  takesAll : v.out = {}

variable {told : List Ipv4}

/-- A call that fails is reported, and it was told of before. -/
theorem attempt_of_failed_call {v : Visit} (takesAll : v.out = {})
    (found : Endpoint.locate v.machine c.env candidate = .ok (.network address token))
    (failed : v.machine.callAddress address = .error error) :
    attempt c candidate v = .error (.transport (.refused error))
      ((v.announced c (.network address token)).report c (.refused error)) := by
  have refused : Endpoint.connect v.machine (.network address token) =
      .error (.refused error) := by
    rw [Endpoint.connect, failed]
  rw [attempt, found]
  dsimp only
  rw [bind_of_ok (announce_eq takesAll c _), call, announced, refused]

variable (launcher) in
/-- A pass over a single place where the call fails tells of a connection. -/
theorem tryAll_of_failed_call (loud : c.quiet = false) (foreign : address.ip.isLoopback = false)
    {q : Search Visit} (stands : Stands q.state m told)
    (found : Endpoint.locate m c.env candidate = .ok (.network address token))
    (failed : m.callAddress address = .error error) :
    ∃ q' : Search Visit, tryAll (seeker c launcher) [candidate] q = .ok none q' ∧
      Stands q'.state m (address.ip :: told) := by
  have answer : (seeker c launcher).attempt candidate q.state = _ :=
    attempt_of_failed_call stands.takesAll (stands.machine ▸ found) (stands.machine ▸ failed)
  refine ⟨_, bind_of_ok (tryOne_of_error answer) _, stands.machine, ?_, stands.takesAll⟩
  have told_announced : ((q.state.announced c (.network address token)).report c
      (.refused error)).told = (q.state.announced c (.network address token)).told := rfl
  rw [told_announced, Visit.told, announced, toTell, if_pos ⟨foreign, loud⟩,
    List.filterMap_append, hosts_map, List.singleton_append, ← stands.told, Visit.told]

/-- Starting a server tells of no connection. -/
theorem launch_of_started {socket : Option Bytes} {q : Search Visit}
    (stands : Stands q.state m told) (started : (launcher socket m).2 = .ok m') :
    ∃ q' : Search Visit, launch (seeker c launcher) socket q = .ok () q' ∧
      Stands q'.state m' told := by
  have started : (launcher socket q.state.machine).2 = .ok m' := stands.machine ▸ started
  rw [launch_apply]
  simp only [seeker, start, started]
  exact ⟨_, rfl, rfl, stands.told, stands.takesAll⟩

variable (c launcher) in
theorem notify_keeps (notice : String) {q : Search Visit} (stands : Stands q.state m told) :
    ∃ q' : Search Visit, notify (seeker c launcher) notice q = .ok () q' ∧
      Stands q'.state m told :=
  ⟨_, notify_apply (seeker c launcher) notice q, stands.machine, stands.told, stands.takesAll⟩

variable (launcher) in
/-- A single place that leads to another machine, where the call fails both before a server
was started and after it: the user is told twice of a connection, and there is none. -/
theorem account_of_failed_calls (only : Candidate.all c = [candidate])
    (launches : c.launchesDaemon = true) (loud : c.quiet = false)
    (foreign : address.ip.isLoopback = false) (started : (launcher c.socketName m).2 = .ok m')
    (found : Endpoint.locate m c.env candidate = .ok (.network address token))
    (found' : Endpoint.locate m' c.env candidate = .ok (.network address token'))
    (failed : m.callAddress address = .error error)
    (failed' : m'.callAddress address = .error error') :
    (account c launcher m).result = .error .daemonUnreachable ∧
      (account c launcher m).final.told = [address.ip, address.ip] := by
  obtain ⟨steps, same⟩ := account_eq c launcher m
  -- The first pass, the launch, the notice and the second pass, one after the other.
  obtain ⟨q₁, first, stands₁⟩ := tryAll_of_failed_call launcher loud foreign
    (q := { state := { machine := m } }) ⟨rfl, rfl, rfl⟩ found failed
  obtain ⟨q₂, launched, stands₂⟩ := launch_of_started (c := c) stands₁ started
  obtain ⟨q₃, noticed, stands₃⟩ := notify_keeps c launcher launchNotice stands₂
  obtain ⟨q₄, second, stands₄⟩ := tryAll_of_failed_call launcher loud foreign stands₃
    found' failed'
  rw [establish_eq, only, bind_of_ok first] at same
  dsimp only at same
  rw [escalate, if_pos launches, bind_of_ok launched, bind_of_ok noticed, only,
    bind_of_ok second] at same
  have ends : ended (account c launcher m).result ⟨(account c launcher m).final, steps⟩ =
      .error .daemonUnreachable q₄ := same.symm
  cases outcome : (account c launcher m).result with
  | ok found =>
      rw [outcome] at ends
      cases ends
  | error error =>
      rw [outcome] at ends
      cases ends
      exact ⟨rfl, stands₄.told⟩

end

/-! ## When it is true -/

/-- What a search tells of connections to other machines is true exactly if the client is
quiet or every call to another machine was answered: whatever the machine, the content of
its server file, the answers to the calls and what comes of starting a server. -/
theorem truthful_iff (c : Config) (launcher : Launcher) (m : Machine) :
    (∃ steps, establish (seeker c launcher) c { state := { machine := m } } =
      ended (account c launcher m).result ⟨(account c launcher m).final, steps⟩) ∧
    (Truthful c (account c launcher m) ↔
      c.quiet = true ∨ AllAnswered c (account c launcher m)) := by
  refine ⟨account_eq c launcher m, ?_, ?_⟩
  · intro truthful
    cases loud : c.quiet with
    | true => exact .inl rfl
    | false => exact .inr (allAnswered_of_truthful loud truthful)
  · rintro (quiet | answered)
    · exact truthful_of_quiet quiet
    · exact truthful_of_allAnswered answered

/-- A visit of one file, by a server that is looked for under the name of a server file and
is to be started where it is not found. -/
def visitOfFile : Config where
  program := "edclient"
  noWait := false
  quiet := false
  suppressOutput := false
  eval := false
  createFrame := false
  terminal := false
  display := none
  altDisplay := none
  parentId := none
  frameParameters := none
  tramp := none
  socketName := none
  serverFile := some (Bytes.ofText "srv")
  alternateEditor := some ""
  timeout := none
  directory := Bytes.ofText "/w"
  items := [Bytes.ofText "f"]
  env := ⟨[(Bytes.ofText "HOME", Bytes.ofText "h")]⟩

/-- The place of the server file that is looked for in `visitOfFile`. -/
def placeOfFile : Place :=
  [Bytes.ofText "h", Bytes.ofText ".emacs.d", Bytes.ofText "server", Bytes.ofText "srv"]

/-- A server file that names another host. -/
def farFile : Bytes := Bytes.ofText "0.0.0.0:1\n" ++ List.replicate ServerFile.tokenLength 107

/-- A machine with this server file, where no host can be reached. -/
def unreached : Machine where
  tree.entries := (placeOfFile, .file farFile) ::
    [3, 2, 1].map fun n => (placeOfFile.take n, .directory)

theorem find_unreached :
    unreached.find (Bytes.ofText "h/.emacs.d/server/srv") = .ok (.file farFile) := by
  have names : FileTree.names (Bytes.ofText "h/.emacs.d/server/srv") = placeOfFile := by decide
  have walked : unreached.tree.walk FileTree.linkLimit [] placeOfFile = .ok placeOfFile := by
    simp only [placeOfFile, FileTree.walk]
    rfl
  have resolved : unreached.tree.resolve unreached.directory
      (Bytes.ofText "h/.emacs.d/server/srv") = .ok placeOfFile := by
    rw [FileTree.resolve, if_neg (by decide), if_neg (by decide), if_neg (by decide), names]
    exact walked
  rw [Machine.find, FileTree.find, resolved]
  rfl

theorem locate_unreached :
    Endpoint.locate unreached visitOfFile.env (.serverFile (Bytes.ofText "srv") true) =
      .ok (.network ⟨⟨0, 0, 0, 0⟩, 1⟩ (List.replicate ServerFile.tokenLength 107)) := by
  have path : unreached.host.serverFilePath visitOfFile.env (Bytes.ofText "srv") =
      some (Bytes.ofText "h/.emacs.d/server/srv") := by decide
  rw [Endpoint.locate, path]
  dsimp only
  rw [Endpoint.readServerFile, Machine.contents?, find_unreached]
  rfl

/-- No host was reached, and two connections were told of. -/
theorem told_unreached :
    let a := account visitOfFile (fun _ m => ([], .ok m)) unreached
    a.result = .error .daemonUnreachable ∧ a.final.told = [⟨0, 0, 0, 0⟩, ⟨0, 0, 0, 0⟩] ∧
      ¬ Truthful visitOfFile a := by
  intro a
  obtain ⟨result, told⟩ :=
    account_of_failed_calls (fun _ m => ([], .ok m)) rfl rfl rfl rfl rfl
      locate_unreached locate_unreached rfl rfl
  refine ⟨result, told, fun truthful => ?_⟩
  have once := truthful.once
  rw [told] at once
  exact absurd once (by decide)

end Visit

end EditorClient
