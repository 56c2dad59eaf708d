/-
# Which socket a name leads to

The name of a socket stands for one path, and for a second one only if the first was
looked at and is of no use. The path that comes of it is one that the name stands for and
that was vetted: something is there, it belongs to the effective user, and the address of
a local socket has room for the path. If there is no such path there is no socket, so an
error means that nothing that was looked at could have been used.

What is looked at is told by the outcome alone: a path is inspected if something else
there would change what comes of the name.
-/

import EditorClient.Proofs.Text.Decimal
import EditorClient.Proofs.Text.Utf8
import EditorClient.Server.Path
import Mathlib.Logic.Function.Basic

namespace EditorClient.Host

open Bytes

variable {host : Host} {env : Environment} {name path : Bytes}

/-- The byte besides the slash that makes a name a path. -/
abbrev backslash : UInt8 := 92

/-- A path that may be used: something is there, it belongs to the effective user, and the
path is shorter than the address of a local socket. -/
structure Vetted (host : Host) (path : Bytes) : Prop where
  owned : host.inspect path = .ownedBy host.user
  short : path.length < 108

/-- A path with a slash at its end, if it names anything. -/
def slashed (path : Bytes) : Bytes :=
  if path = [] ∨ path.getLast? = some slash then path else path ++ [slash]

/-- The socket with a name in the directory of a user, written out. -/
def socketOf (env : Environment) (user : UserId) (name : Bytes) : Bytes :=
  slashed (temporaryDirectory env) ++ ofText ("emacs" ++ Decimal.ofNat user.toNat) ++
    slash :: name

/-- The paths that the name of a socket stands for: itself, if it is a path, or else the
socket in the directory of the effective user, and the one in the directory of the user
who logged in where that is another user and the first was looked at in vain. -/
inductive StandsFor (host : Host) (env : Environment) (name : Bytes) : Bytes → Prop
  | itself (separated : slash ∈ name ∨ backslash ∈ name) : StandsFor host env name name
  | own (plain : slash ∉ name ∧ backslash ∉ name) :
      StandsFor host env name (socketOf env host.user name)
  | login {user : UserId} (plain : slash ∉ name ∧ backslash ∉ name)
      (known : host.loginUser env = some user) (another : user ≠ host.user)
      (short : (socketOf env host.user name).length < 108)
      (useless : host.inspect (socketOf env host.user name) ≠ .ownedBy host.user) :
      StandsFor host env name (socketOf env user name)

/-- The machine with something else at one path. -/
def showing (host : Host) (path : Bytes) (seen : Inspection) : Host :=
  { host with inspect := Function.update host.inspect path seen }

/-- Whether a path is looked at: something else there would make a difference. -/
def Inspects (host : Host) (env : Environment) (name path : Bytes) : Prop :=
  ∃ seen, (host.showing path seen).socketPath env name ≠ host.socketPath env name

/-! ## Paths -/

theorem isPath_iff : isPath name = true ↔ slash ∈ name ∨ backslash ∈ name := by
  simp only [isPath, List.any_eq_true, Bool.or_eq_true, decide_eq_true_eq]
  constructor
  · rintro ⟨b, there, rfl | rfl⟩
    · exact .inl there
    · exact .inr there
  · rintro (there | there)
    · exact ⟨slash, there, .inl rfl⟩
    · exact ⟨backslash, there, .inr rfl⟩

theorem plain_iff : isPath name = false ↔ slash ∉ name ∧ backslash ∉ name := by
  rw [← not_or, ← isPath_iff, Bool.not_eq_true]

theorem joinPath_of_relative {base : Bytes} (relative : slash ∉ path) :
    joinPath base path = slashed base ++ path := by
  have first : path.head? ≠ some slash := fun first => relative (List.mem_of_head? first)
  rw [joinPath, if_neg first, slashed]
  split
  · rfl
  · rw [List.append_assoc, List.singleton_append]

theorem slashed_of_not_mem {last : Bytes} (base : Bytes) (given : last ≠ [])
    (absent : slash ∉ last) : slashed (base ++ last) = base ++ last ++ [slash] := by
  apply if_neg
  rintro (none | ends)
  · exact given (List.append_eq_nil_iff.mp none).2
  · rw [List.getLast?_append, Option.or_eq_some_iff] at ends
    rcases ends with ends | ⟨none, -⟩
    · exact absent (List.mem_of_getLast? ends)
    · exact given (List.getLast?_eq_none_iff.mp none)

/-- The name of a directory for sockets is one name. -/
theorem slash_not_mem_emacs (n : Nat) : slash ∉ ofText ("emacs" ++ Decimal.ofNat n) := by
  intro there
  have character := (Utf8.mem_ofText (by decide) _).mp there
  rw [String.toList_append, List.mem_append, Decimal.toList_ofNat] at character
  rcases character with letter | digit
  · exact absurd letter (by decide)
  · exact absurd (Decimal.isDigit_of_mem_toDigits digit) (by decide)

theorem userSocket_eq (plain : isPath name = false) (env : Environment) (user : UserId) :
    userSocket (temporaryDirectory env) user name = socketOf env user name := by
  have given : ofText ("emacs" ++ Decimal.ofNat user.toNat) ≠ [] := by
    rw [ofText, String.toList_append, List.flatMap_append]
    exact List.append_ne_nil_of_left_ne_nil (by decide) _
  have absent := slash_not_mem_emacs user.toNat
  rw [userSocket, joinPath_of_relative absent, joinPath_of_relative (plain_iff.mp plain).1,
    slashed_of_not_mem _ given absent, socketOf, List.append_assoc _ [slash],
    List.singleton_append]

/-! ## Vetting -/

theorem vet_eq_ok_iff :
    host.vet host.user path = .ok () ↔ host.inspect path = .ownedBy host.user := by
  unfold vet
  cases host.inspect path with
  | missing | failed error => exact ⟨nofun, nofun⟩
  | ownedBy owner =>
      rw [Inspection.ownedBy.injEq]
      dsimp only
      split
      case isTrue same => exact ⟨fun _ => same, fun _ => rfl⟩
      case isFalse different => exact ⟨nofun, fun same => absurd same different⟩

theorem checkLength_of_short (short : path.length < 108) : checkLength path = .ok () :=
  if_neg (Nat.not_le.mpr short)

theorem checkLength_of_long (long : ¬ path.length < 108) :
    checkLength path = .error (.nameTooLong path) :=
  if_pos (Nat.not_lt.mp long)

theorem usable_of_short (short : path.length < 108) :
    host.usable path = (host.vet host.user path).map fun _ => path := by
  rw [usable, checkLength_of_short short]
  cases host.vet host.user path <;> rfl

theorem usable_of_long (long : ¬ path.length < 108) :
    host.usable path = .error (.nameTooLong path) := by
  rw [usable, checkLength_of_long long]
  rfl

theorem usable_eq_ok_iff {found : Bytes} :
    host.usable path = .ok found ↔ path = found ∧ host.Vetted path := by
  by_cases short : path.length < 108
  · rw [usable_of_short short]
    constructor
    · intro used
      cases vetted : host.vet host.user path with
      | error error =>
          rw [vetted] at used
          nomatch used
      | ok _ =>
          rw [vetted] at used
          exact ⟨Except.ok.inj used, vet_eq_ok_iff.mp vetted, short⟩
    · rintro ⟨rfl, vetted⟩
      rw [vet_eq_ok_iff.mpr vetted.owned]
      rfl
  · rw [usable_of_long short]
    exact ⟨nofun, fun used => absurd used.2.short short⟩

/-! ## What a name leads to -/

theorem socketPath_of_path (separated : isPath name = true) :
    host.socketPath env name = host.usable name := if_pos separated

/-- The outcome for a name that is no path, with the sockets written out. -/
theorem socketPath_of_plain (plain : isPath name = false) :
    host.socketPath env name =
      match checkLength (socketOf env host.user name) with
      | .error error => .error error
      | .ok _ =>
        match host.vet host.user (socketOf env host.user name) with
        | .ok _ => .ok (socketOf env host.user name)
        | .error error =>
          match host.loginUser env with
          | none => .error error
          | some login =>
            if login = host.user then .error error
            else host.usable (socketOf env login name) := by
  simp only [← userSocket_eq plain]
  exact if_neg (by rw [plain]; exact Bool.false_ne_true)

theorem socketPath_of_long (host : Host) (plain : isPath name = false)
    (long : ¬ (socketOf env host.user name).length < 108) :
    host.socketPath env name = .error (.nameTooLong (socketOf env host.user name)) := by
  rw [socketPath_of_plain plain, checkLength_of_long long]

theorem socketPath_of_vetted (host : Host) (plain : isPath name = false)
    (vetted : host.Vetted (socketOf env host.user name)) :
    host.socketPath env name = .ok (socketOf env host.user name) := by
  rw [socketPath_of_plain plain, checkLength_of_short vetted.short,
    vet_eq_ok_iff.mpr vetted.owned]

/-- Where the first socket is of no use, the login decides. -/
theorem socketPath_of_useless (host : Host) (plain : isPath name = false)
    (short : (socketOf env host.user name).length < 108) {error : TransportError}
    (useless : host.vet host.user (socketOf env host.user name) = .error error) :
    host.socketPath env name =
      match host.loginUser env with
      | none => .error error
      | some login =>
        if login = host.user then .error error else host.usable (socketOf env login name) := by
  rw [socketPath_of_plain plain, checkLength_of_short short, useless]

theorem not_owned_of_vet {error : TransportError}
    (useless : host.vet host.user path = .error error) : host.inspect path ≠ .ownedBy host.user := by
  intro owned
  rw [vet_eq_ok_iff.mpr owned] at useless
  nomatch useless

theorem vetted_of_socketPath (found : host.socketPath env name = .ok path) :
    host.StandsFor env name path ∧ host.Vetted path := by
  cases kind : isPath name with
  | true =>
      rw [socketPath_of_path kind, usable_eq_ok_iff] at found
      obtain ⟨rfl, vetted⟩ := found
      exact ⟨.itself (isPath_iff.mp kind), vetted⟩
  | false =>
      have plain := plain_iff.mp kind
      by_cases short : (socketOf env host.user name).length < 108
      · cases seen : host.vet host.user (socketOf env host.user name) with
        | ok _ =>
            have vetted : host.Vetted (socketOf env host.user name) :=
              ⟨vet_eq_ok_iff.mp seen, short⟩
            rw [socketPath_of_vetted host kind vetted] at found
            cases found
            exact ⟨.own plain, vetted⟩
        | error error =>
            rw [socketPath_of_useless host kind short seen] at found
            cases known : host.loginUser env with
            | none =>
                rw [known] at found
                nomatch found
            | some login =>
                rw [known] at found
                dsimp only at found
                split at found
                case isTrue => nomatch found
                case isFalse another =>
                    obtain ⟨rfl, vetted⟩ := usable_eq_ok_iff.mp found
                    exact ⟨.login plain known another short (not_owned_of_vet seen), vetted⟩
      · rw [socketPath_of_long host kind short] at found
        nomatch found

/-- A name leads to the paths that it stands for and that were vetted, so to one at most. -/
theorem socketPath_eq_ok_iff :
    host.socketPath env name = .ok path ↔ host.StandsFor env name path ∧ host.Vetted path := by
  constructor
  · exact vetted_of_socketPath
  · rintro ⟨stands, vetted⟩
    cases stands with
    | itself separated =>
        rw [socketPath_of_path (isPath_iff.mpr separated)]
        exact usable_eq_ok_iff.mpr ⟨rfl, vetted⟩
    | own plain => exact socketPath_of_vetted host (plain_iff.mpr plain) vetted
    | login plain known another short useless =>
        cases seen : host.vet host.user (socketOf env host.user name) with
        | ok _ => exact absurd (vet_eq_ok_iff.mp seen) useless
        | error error =>
            rw [socketPath_of_useless host (plain_iff.mpr plain) short seen, known]
            dsimp only
            rw [if_neg another]
            exact usable_eq_ok_iff.mpr ⟨rfl, vetted⟩

/-! ## What is looked at -/

section

variable (host) (seen : Inspection) {found : Bytes}

@[simp]
theorem user_showing : (host.showing path seen).user = host.user := rfl

@[simp]
theorem loginUser_showing : (host.showing path seen).loginUser env = host.loginUser env := rfl

@[simp]
theorem inspect_showing_self : (host.showing path seen).inspect path = seen :=
  Function.update_self ..

theorem inspect_showing_of_ne (other : found ≠ path) :
    (host.showing path seen).inspect found = host.inspect found :=
  Function.update_of_ne other _ _

theorem vet_showing (user : UserId) (other : found ≠ path) :
    (host.showing path seen).vet user found = host.vet user found := by
  rw [vet, inspect_showing_of_ne host seen other, vet]

/-- A path that is too long is not looked at. -/
theorem usable_showing (other : found.length < 108 → found ≠ path) :
    (host.showing path seen).usable found = host.usable found := by
  by_cases short : found.length < 108
  · rw [usable_of_short short, usable_of_short short, user_showing,
      vet_showing host seen host.user (other short)]
  · rw [usable_of_long short, usable_of_long short]

/-- What is at any other path than those that the name stands for is of no account. -/
theorem socketPath_showing (other : host.StandsFor env name path → ¬ path.length < 108) :
    (host.showing path seen).socketPath env name = host.socketPath env name := by
  have apart {found : Bytes} (stands : host.StandsFor env name found)
      (short : found.length < 108) : found ≠ path := by
    rintro rfl
    exact other stands short
  cases kind : isPath name with
  | true =>
      rw [socketPath_of_path kind, socketPath_of_path kind]
      exact usable_showing host seen (apart (.itself (isPath_iff.mp kind)))
  | false =>
      have plain := plain_iff.mp kind
      rw [socketPath_of_plain kind, socketPath_of_plain kind, user_showing, loginUser_showing]
      by_cases short : (socketOf env host.user name).length < 108
      · rw [checkLength_of_short short, vet_showing host seen _ (apart (.own plain) short)]
        cases vetted : host.vet host.user (socketOf env host.user name) with
        | ok _ => rfl
        | error error =>
            cases known : host.loginUser env with
            | none => rfl
            | some login =>
                dsimp only
                split
                case isTrue => rfl
                case isFalse another =>
                    exact usable_showing host seen
                      (apart (.login plain known another short (not_owned_of_vet vetted)))
      · rw [checkLength_of_long short]

end

/-- Every user has a directory of his own. -/
theorem user_eq_of_socketOf {user login : UserId}
    (same : socketOf env user name = socketOf env login name) : user = login := by
  rw [socketOf, socketOf, List.append_left_inj, List.append_right_inj] at same
  have text := Utf8.ofText_injective same
  rw [String.append_right_inj] at text
  have digits := congrArg String.toList text
  rw [Decimal.toList_ofNat, Decimal.toList_ofNat] at digits
  apply UInt32.toNat_inj.mp
  rw [← Decimal.value_toDigits user.toNat, digits, Decimal.value_toDigits]

/-- What a name stands for does not depend on what is there. -/
theorem StandsFor.showing (stands : host.StandsFor env name path) (seen : Inspection) :
    (host.showing path seen).StandsFor env name path := by
  cases stands with
  | itself separated => exact .itself separated
  | own plain => exact .own plain
  | login plain known another short useless =>
      refine .login plain known another short ?_
      rw [user_showing, inspect_showing_of_ne]
      · exact useless
      · intro same
        exact another (user_eq_of_socketOf same).symm

/-- The paths that are looked at are those that the name stands for, as far as they are
short enough. -/
theorem inspects_iff :
    host.Inspects env name path ↔ host.StandsFor env name path ∧ path.length < 108 := by
  constructor
  · rintro ⟨seen, different⟩
    by_contra not
    exact different (socketPath_showing host seen fun stands short => not ⟨stands, short⟩)
  · rintro ⟨stands, short⟩
    -- A path that is used is lost when nothing is there, and any other could be used.
    by_cases owned : host.inspect path = .ownedBy host.user
    · refine ⟨.missing, fun same => ?_⟩
      rw [socketPath_eq_ok_iff.mpr ⟨stands, owned, short⟩] at same
      have there := (socketPath_eq_ok_iff.mp same).2.owned
      rw [inspect_showing_self] at there
      nomatch there
    · refine ⟨.ownedBy host.user, fun same => ?_⟩
      have vetted : (host.showing path (.ownedBy host.user)).Vetted path :=
        ⟨inspect_showing_self host _, short⟩
      rw [socketPath_eq_ok_iff.mpr ⟨stands.showing _, vetted⟩] at same
      exact owned (socketPath_eq_ok_iff.mp same.symm).2.owned

/-- Only sockets that were vetted are used: the name of a socket leads to a path exactly if
it stands for that path and something is there, belongs to the effective user and is not
too far down for the address of a local socket. After an error, that is true of none of the
paths that were looked at. -/
theorem only_vetted_sockets (host : Host) (env : Environment) (name : Bytes) :
    (∀ path, host.socketPath env name = .ok path ↔
      host.StandsFor env name path ∧ host.Vetted path) ∧
    ∀ error, host.socketPath env name = .error error →
      ∀ path, host.Inspects env name path → ¬ host.Vetted path := by
  refine ⟨fun path => socketPath_eq_ok_iff, ?_⟩
  intro error failed path inspected vetted
  obtain ⟨stands, -⟩ := inspects_iff.mp inspected
  rw [socketPath_eq_ok_iff.mpr ⟨stands, vetted⟩] at failed
  nomatch failed

/-- A machine on which ann, who is user 501, works as user 1000. In her directory there is a
socket that belongs to this user. -/
def elevated (owner : UserId) : Host where
  user := 1000
  inspect path := if path = ofText "/run/emacs501/server" then .ownedBy owner else .missing
  account name := if name = "ann" then some 501 else none
  home := none

/-- The environment that she took along. -/
def elevatedEnv : Environment :=
  ⟨[(ofText "TMPDIR", ofText "/run/"), (ofText "USER", ofText "ann")]⟩

/-- The socket of the login is used if it belongs to the effective user too, and refused if
it still belongs to the login. -/
theorem socket_of_login :
    let name := ofText "server"
    let path := ofText "/run/emacs501/server"
    (elevated 1000).socketPath elevatedEnv name = .ok path ∧ (elevated 1000).Vetted path ∧
      (elevated 501).socketPath elevatedEnv name = .error .foreignOwner ∧
      (elevated 501).Inspects elevatedEnv name path ∧ ¬ (elevated 501).Vetted path := by
  intro name path
  have found : (elevated 1000).socketPath elevatedEnv (ofText "server") =
      .ok (ofText "/run/emacs501/server") := rfl
  have failed : (elevated 501).socketPath elevatedEnv (ofText "server") =
      .error .foreignOwner := rfl
  have handedOver : ((elevated 501).showing (ofText "/run/emacs501/server")
      (.ownedBy 1000)).socketPath elevatedEnv (ofText "server") =
      .ok (ofText "/run/emacs501/server") := rfl
  have inspected : (elevated 501).Inspects elevatedEnv name path := by
    refine ⟨.ownedBy 1000, ?_⟩
    rw [handedOver, failed]
    exact nofun
  have used := (only_vetted_sockets (elevated 1000) elevatedEnv name).1 path
  have refused := (only_vetted_sockets (elevated 501) elevatedEnv name).2 _ failed path
  exact ⟨found, (used.mp found).2, failed, inspected, refused inspected⟩

end EditorClient.Host
