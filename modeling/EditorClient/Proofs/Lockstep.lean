/-
# Running two programs in step

Claims that compare two runs are proved by running both in step: a relation
between their states holds at the start, every step of one is answered by a step
of the other that gives the same value or the same error, and the relation holds
again. The relation says at once what of the two states is the same and what each
state satisfies on its own, so an invariant of a single run is a case of it.

The two programs need not have the same steps. `Lockstep.bind` and
`Lockstep.forM` put proofs for parts together; what one program does and the
other does not is answered by doing nothing.

What holds of a single run only as long as nothing fails is stated with `Keeps`,
whose rules have the same names. Where something is to be said of a run that fails
as well, `Ends` says it of its result, and `Preserves` that it is kept.
-/

namespace EditorClient

variable {ε σ τ α β : Type}

/-- A sequence succeeds if both of its parts do. -/
theorem bind_eq_ok {first : EStateM ε σ α} {next : α → EStateM ε σ β} {s t : σ} {b : β} :
    (first >>= next) s = .ok b t ↔ ∃ a s', first s = .ok a s' ∧ next a s' = .ok b t := by
  change EStateM.bind first next s = _ ↔ _
  unfold EStateM.bind
  cases first s with
  | ok a s' => simp [and_assoc]
  | error e s' => simp

/-- A sequence fails where its first part fails, or where what follows does. -/
theorem bind_eq_error {first : EStateM ε σ α} {next : α → EStateM ε σ β} {s t : σ} {e : ε} :
    (first >>= next) s = .error e t ↔
      first s = .error e t ∨ ∃ a s', first s = .ok a s' ∧ next a s' = .error e t := by
  change EStateM.bind first next s = _ ↔ _
  unfold EStateM.bind
  cases first s with
  | ok a s' => simp [and_assoc]
  | error e' s' => simp

/-- What follows a successful step starts where that step ended. -/
theorem bind_of_ok {first : EStateM ε σ α} {s s' : σ} {a : α} (done : first s = .ok a s')
    (next : α → EStateM ε σ β) : (first >>= next) s = next a s' := by
  change EStateM.bind first next s = _
  rw [EStateM.bind, done]

/-- A step that fails is the end. -/
theorem bind_of_error {first : EStateM ε σ α} {s s' : σ} {e : ε} (failed : first s = .error e s')
    (next : α → EStateM ε σ β) : (first >>= next) s = .error e s' := by
  change EStateM.bind first next s = _
  rw [EStateM.bind, failed]

/-- Only the result of the first part matters for what follows. -/
theorem bind_congr_left {first second : EStateM ε σ α} {s : σ} (same : first s = second s)
    (next : α → EStateM ε σ β) : (first >>= next) s = (second >>= next) s := by
  change EStateM.bind first next s = EStateM.bind second next s
  rw [EStateM.bind, EStateM.bind, same]

/-- What follows matters only where the first part succeeds. -/
theorem bind_congr_right {first : EStateM ε σ α} {s : σ} {next next' : α → EStateM ε σ β}
    (same : ∀ a t, first s = .ok a t → next a t = next' a t) :
    (first >>= next) s = (first >>= next') s := by
  cases ended : first s with
  | ok a t => rw [bind_of_ok ended, bind_of_ok ended, same a t ended]
  | error e t => rw [bind_of_error ended, bind_of_error ended]

theorem forM_singleton (f : α → EStateM ε σ Unit) (a : α) : [a].forM f = f a :=
  bind_pure_unit

/-- Two results carry the same value or the same error, and leave related states. -/
inductive Matches (R : σ → τ → Prop) : EStateM.Result ε σ α → EStateM.Result ε τ α → Prop
  | ok {a : α} {s : σ} {t : τ} (related : R s t) : Matches R (.ok a s) (.ok a t)
  | error {e : ε} {s : σ} {t : τ} (related : R s t) : Matches R (.error e s) (.error e t)

/-- From related states two programs come to matching results. -/
def Lockstep (R : σ → τ → Prop) (first : EStateM ε σ α) (second : EStateM ε τ α) : Prop :=
  ∀ ⦃s t⦄, R s t → Matches R (first s) (second t)

namespace Matches

variable {R : σ → τ → Prop}

/-- A weaker relation holds where a stronger one does. -/
theorem mono {Q : σ → τ → Prop} (weaker : ∀ s t, R s t → Q s t)
    {first : EStateM.Result ε σ α} {second : EStateM.Result ε τ α}
    (agree : Matches R first second) : Matches Q first second := by
  cases agree with
  | ok related => exact .ok (weaker _ _ related)
  | error related => exact .error (weaker _ _ related)

/-- Two runs that match a third one match each other. -/
theorem trans_right {υ : Type} {Q : υ → τ → Prop} {P : σ → υ → Prop}
    (common : ∀ s t u, R s t → Q u t → P s u)
    {first : EStateM.Result ε σ α} {second : EStateM.Result ε υ α}
    {third : EStateM.Result ε τ α}
    (left : Matches R first third) (right : Matches Q second third) :
    Matches P first second := by
  cases left with
  | ok related =>
      cases right with
      | ok related' => exact .ok (common _ _ _ related related')
  | error related =>
      cases right with
      | error related' => exact .error (common _ _ _ related related')

/-- What follows a successful step starts from related states; a failed step ends
both programs. -/
theorem bind {Q : σ → τ → Prop} {first : EStateM ε σ α} {second : EStateM ε τ α}
    {next : α → EStateM ε σ β} {next' : α → EStateM ε τ β} {s : σ} {t : τ}
    (agree : Matches R (first s) (second t))
    (after : ∀ a s' t', first s = .ok a s' → second t = .ok a t' → R s' t' →
      Matches Q (next a s') (next' a t'))
    (failed : ∀ s' t', R s' t' → Q s' t') :
    Matches Q ((first >>= next) s) ((second >>= next') t) := by
  change Matches Q (EStateM.bind first next s) (EStateM.bind second next' t)
  unfold EStateM.bind
  generalize here : first s = result at agree
  generalize there : second t = result' at agree
  cases agree with
  | ok related => exact after _ _ _ here there related
  | error related => exact .error (failed _ _ related)

end Matches

namespace Lockstep

variable {R : σ → τ → Prop}

/-- Doing nothing keeps the states related. -/
theorem skip (a : α) :
    Lockstep R (pure a : EStateM ε σ α) (pure a : EStateM ε τ α) :=
  fun _ _ related => .ok related

/-- Programs run in step if their first parts do and what follows does. -/
theorem bind {first : EStateM ε σ α} {second : EStateM ε τ α}
    {next : α → EStateM ε σ β} {next' : α → EStateM ε τ β}
    (here : Lockstep R first second) (after : ∀ a, Lockstep R (next a) (next' a)) :
    Lockstep R (first >>= next) (second >>= next') := fun _ _ related =>
  (here related).bind (fun a _ _ _ _ later => after a later) fun _ _ later => later

/-- Reading both states. -/
theorem read {next : σ → EStateM ε σ α} {next' : τ → EStateM ε τ α}
    (after : ∀ s t, R s t → Matches R (next s s) (next' t t)) :
    Lockstep R (get >>= next) (get >>= next') :=
  fun s t related => after s t related

/-- A change of both states that keeps them related. -/
theorem update {f : σ → σ} {g : τ → τ} (keeps : ∀ s t, R s t → R (f s) (g t)) :
    Lockstep R (modify f : EStateM ε σ Unit) (modify g : EStateM ε τ Unit) :=
  fun s t related => .ok (keeps s t related)

/-- A loop over one list whose bodies run in step. -/
theorem forM {f : α → EStateM ε σ Unit} {g : α → EStateM ε τ Unit} (list : List α)
    (body : ∀ a, Lockstep R (f a) (g a)) : Lockstep R (list.forM f) (list.forM g) := by
  induction list with
  | nil => exact skip ()
  | cons a list ih => exact (body a).bind fun _ => ih

end Lockstep

/-- A program keeps a property of its state wherever it succeeds. Of the state in
which it fails nothing is said. -/
def Keeps (I : σ → Prop) (program : EStateM ε σ α) : Prop :=
  ∀ ⦃s a t⦄, I s → program s = .ok a t → I t

namespace Keeps

variable {I : σ → Prop}

theorem skip (a : α) : Keeps I (pure a : EStateM ε σ α) := by
  intro s _ _ holds done
  cases done
  exact holds

theorem bind {first : EStateM ε σ α} {next : α → EStateM ε σ β} (here : Keeps I first)
    (after : ∀ a, Keeps I (next a)) : Keeps I (first >>= next) := by
  intro s b t holds done
  obtain ⟨a, middle, first, later⟩ := bind_eq_ok.mp done
  exact after a (here holds first) later

theorem update {f : σ → σ} (keeps : ∀ s, I s → I (f s)) :
    Keeps I (modify f : EStateM ε σ Unit) := by
  intro s _ _ holds done
  cases done
  exact keeps s holds

theorem forM {f : α → EStateM ε σ Unit} (list : List α) (body : ∀ a, Keeps I (f a)) :
    Keeps I (list.forM f) := by
  induction list with
  | nil => exact skip ()
  | cons a list ih => exact (body a).bind fun _ => ih

end Keeps

/-- A run succeeded with a value and a state of this kind, or failed with an error and a
state of that kind. -/
inductive Ends (post : α → σ → Prop) (failed : ε → σ → Prop) : EStateM.Result ε σ α → Prop
  | ok {a : α} {s : σ} (holds : post a s) : Ends post failed (.ok a s)
  | error {e : ε} {s : σ} (holds : failed e s) : Ends post failed (.error e s)

namespace Ends

variable {post : α → σ → Prop} {failed : ε → σ → Prop} {s : σ}

theorem mono {post' : α → σ → Prop} {failed' : ε → σ → Prop}
    {result : EStateM.Result ε σ α} (ends : Ends post failed result)
    (weaker : ∀ a s, post a s → post' a s) (weaker' : ∀ e s, failed e s → failed' e s) :
    Ends post' failed' result := by
  cases ends with
  | ok holds => exact .ok (weaker _ _ holds)
  | error holds => exact .error (weaker' _ _ holds)

/-- Less may be said of a failure. -/
theorem mono_failed {failed' : ε → σ → Prop} {result : EStateM.Result ε σ α}
    (ends : Ends post failed result) (weaker : ∀ e s, failed e s → failed' e s) :
    Ends post failed' result :=
  ends.mono (fun _ _ holds => holds) weaker

/-- Of a failure nothing need be said. -/
theorem of_ok {result : EStateM.Result ε σ α} (holds : ∀ a s, result = .ok a s → post a s) :
    Ends post (fun _ _ => True) result := by
  cases result with
  | ok a s => exact .ok (holds a s rfl)
  | error e s => exact .error trivial

theorem post_of_ok {a : α} (ends : Ends post failed (.ok a s)) : post a s := by
  cases ends with
  | ok holds => exact holds

theorem failed_of_error {e : ε} (ends : Ends post failed (.error e s)) : failed e s := by
  cases ends with
  | error holds => exact holds

/-- What follows starts where the first part succeeded. -/
theorem bind {post' : β → σ → Prop} {first : EStateM ε σ α} {next : α → EStateM ε σ β}
    (here : Ends post failed (first s)) (after : ∀ a t, post a t → Ends post' failed (next a t)) :
    Ends post' failed ((first >>= next) s) := by
  cases ended : first s with
  | ok a t =>
      rw [bind_of_ok ended]
      rw [ended] at here
      cases here with
      | ok holds => exact after a t holds
  | error e t =>
      rw [bind_of_error ended]
      rw [ended] at here
      cases here with
      | error holds => exact .error holds

/-- A loop over a list, with what holds after each part of the list. One that fails has
come to an element of the list and not beyond it. -/
theorem forM (inv : List α → σ → Prop) (failed : List α → ε → σ → Prop)
    {f : α → EStateM ε σ Unit} (list : List α)
    (body : ∀ done, ∀ a ∈ list, ∀ s, inv done s →
      Ends (fun _ t => inv (done ++ [a]) t) (failed (done ++ [a])) (f a s))
    (done : List α) (holds : inv done s) :
    Ends (fun _ t => inv (done ++ list) t)
      (fun e t => ∃ upTo, upTo <+: list ∧ failed (done ++ upTo) e t) (list.forM f s) := by
  induction list generalizing done s with
  | nil => exact .ok ((List.append_nil done).symm ▸ holds)
  | cons a list ih =>
      have here : Ends (fun _ t => inv (done ++ [a]) t)
          (fun e t => ∃ upTo, upTo <+: a :: list ∧ failed (done ++ upTo) e t) (f a s) :=
        (body done a List.mem_cons_self s holds).mono_failed fun _ _ ends =>
          ⟨[a], List.prefix_append [a] list, ends⟩
      refine here.bind fun _ t next => ?_
      have later := ih (fun done b there => body done b (List.mem_cons_of_mem a there))
        (done ++ [a]) next
      rw [List.append_assoc, List.singleton_append] at later
      refine later.mono_failed fun e u ends => ?_
      obtain ⟨upTo, reached, ends⟩ := ends
      rw [List.append_assoc, List.singleton_append] at ends
      exact ⟨a :: upTo, List.cons_prefix_cons.mpr ⟨rfl, reached⟩, ends⟩

/-- A loop whose body keeps a property, also where it fails. -/
theorem forM_same {I : σ → Prop} {f : α → EStateM ε σ Unit} {list : List α}
    (body : ∀ a ∈ list, ∀ s, I s → Ends (fun _ => I) (fun _ => I) (f a s)) (holds : I s) :
    Ends (fun _ => I) (fun _ => I) (list.forM f s) :=
  (forM (fun _ => I) (fun _ _ => I) list (fun _ => body) [] holds).mono_failed
    fun _ _ ⟨_, _, same⟩ => same

/-- Two things are so if each of them is. -/
theorem and {post' : α → σ → Prop} {failed' : ε → σ → Prop} {result : EStateM.Result ε σ α}
    (first : Ends post failed result) (second : Ends post' failed' result) :
    Ends (fun a s => post a s ∧ post' a s) (fun e s => failed e s ∧ failed' e s) result := by
  cases first with
  | ok holds =>
      cases second with
      | ok holds' => exact .ok ⟨holds, holds'⟩
  | error holds =>
      cases second with
      | error holds' => exact .error ⟨holds, holds'⟩

end Ends

/-- A program keeps a property of its state, also where it fails. -/
def Preserves (I : σ → Prop) (program : EStateM ε σ α) : Prop :=
  ∀ ⦃s⦄, I s → Ends (fun _ => I) (fun _ => I) (program s)

namespace Preserves

variable {I : σ → Prop}

theorem forM {f : α → EStateM ε σ Unit} {list : List α} (body : ∀ a ∈ list, Preserves I (f a)) :
    Preserves I (list.forM f) := fun _ holds =>
  Ends.forM_same (fun a there _ still => body a there still) holds

end Preserves

end EditorClient
