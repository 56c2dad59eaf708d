/-
# Targets that are tried one after the other

A target has a display or is the terminal, and it may have an alternate display. Falling
back uses up the alternate display, and where there is none it leads to the terminal.
So it only goes one way: a target that is the terminal stays so and a client that waits
goes on waiting, the display changes at the first step if at all, and from the second
step on nothing changes any more.
-/

import EditorClient.Request.Frame

namespace EditorClient.FrameTarget

/-- A frame can open at the target: on the terminal or on a display with a name, and the
alternate display has a name as well. -/
structure Placed (t : FrameTarget) : Prop where
  somewhere : t.terminal = false → t.display.isSome = true
  named : ∀ name, t.display = some name → name ≠ ""
  alternate : ∀ name, t.altDisplay = some name → name ≠ ""

/-- The target is the terminal for good: nothing else is left to try, and the client
waits. -/
structure AtLast (t : FrameTarget) : Prop where
  terminal : t.terminal = true
  waits : t.noWait = false
  spent : t.altDisplay = none

/-- A target comes after another one if it does not go back on it: it is the terminal if
the other is, and the client waits if it did. -/
structure Follows (later t : FrameTarget) : Prop where
  terminal : t.terminal = true → later.terminal = true
  waits : t.noWait = false → later.noWait = false

variable {t : FrameTarget}

/-! ## One step back -/

theorem Placed.fallBack (placed : t.Placed) : t.fallBack.Placed := by
  rw [FrameTarget.fallBack]
  split
  case h_1 name other =>
      refine ⟨fun _ => rfl, ?_, fun name none => absurd none.symm (Option.some_ne_none name)⟩
      rintro _ ⟨⟩
      exact placed.alternate name other
  case h_2 spent =>
      refine ⟨?_, placed.named, placed.alternate⟩
      intro elsewhere
      contradiction

/-- Without an alternate display the next target is the terminal. -/
theorem atLast_fallBack (spent : t.altDisplay = none) : t.fallBack.AtLast := by
  have last : t.fallBack = { t with noWait := false, terminal := true } := by
    rw [FrameTarget.fallBack, spent]
  rw [last]
  exact ⟨rfl, rfl, spent⟩

theorem Follows.refl (t : FrameTarget) : Follows t t := ⟨id, id⟩

theorem Follows.trans {later last : FrameTarget} (there : Follows last later)
    (here : Follows later t) : Follows last t :=
  ⟨there.terminal ∘ here.terminal, there.waits ∘ here.waits⟩

theorem fallBack_follows (t : FrameTarget) : Follows t.fallBack t := by
  rw [FrameTarget.fallBack]
  split
  · exact ⟨id, id⟩
  · exact ⟨fun _ => rfl, fun _ => rfl⟩

/-- The alternate display is tried once. -/
theorem altDisplay_fallBack (t : FrameTarget) : t.fallBack.altDisplay = none := by
  rw [FrameTarget.fallBack]
  split
  case h_1 => rfl
  case h_2 spent => exact spent

theorem display_fallBack (t : FrameTarget) : t.fallBack.display = t.altDisplay.or t.display := by
  rw [FrameTarget.fallBack]
  split
  case h_1 name other => rw [other, Option.some_or]
  case h_2 spent => rw [spent, Option.none_or]

/-- Where nothing else is left to try, there is nothing to change. -/
theorem AtLast.fallBack_eq (last : t.AtLast) : t.fallBack = t := by
  obtain ⟨display, altDisplay, terminal, noWait⟩ := t
  obtain ⟨rfl, rfl, rfl⟩ := last
  rfl

/-! ## Many steps back -/

theorem fallBackTimes_add (first later : Nat) (t : FrameTarget) :
    t.fallBackTimes (first + later) = (t.fallBackTimes first).fallBackTimes later := by
  induction first generalizing t with
  | zero => rw [Nat.zero_add, FrameTarget.fallBackTimes]
  | succ first ih =>
      rw [Nat.succ_add]
      exact ih t.fallBack

theorem fallBackTimes_succ (number : Nat) (t : FrameTarget) :
    t.fallBackTimes (number + 1) = (t.fallBackTimes number).fallBack :=
  fallBackTimes_add number 1 t

theorem Placed.fallBackTimes (placed : t.Placed) (number : Nat) :
    (t.fallBackTimes number).Placed := by
  induction number generalizing t with
  | zero => exact placed
  | succ number ih => exact ih placed.fallBack

theorem AtLast.fallBackTimes_eq (last : t.AtLast) (number : Nat) :
    t.fallBackTimes number = t := by
  induction number with
  | zero => rfl
  | succ number ih => rw [FrameTarget.fallBackTimes, last.fallBack_eq, ih]

theorem AtLast.fallBackTimes (last : t.AtLast) (number : Nat) :
    (t.fallBackTimes number).AtLast :=
  (last.fallBackTimes_eq number).symm ▸ last

/-- Once a step back had no display to go to, all later targets are the terminal. -/
theorem atLast_of_spent {step number : Nat} (earlier : step < number)
    (spent : (t.fallBackTimes step).altDisplay = none) : (t.fallBackTimes number).AtLast := by
  obtain ⟨others, rfl⟩ := Nat.exists_eq_add_of_lt earlier
  rw [Nat.add_assoc, fallBackTimes_add]
  exact (atLast_fallBack spent).fallBackTimes others

theorem fallBackTimes_follows (number : Nat) (t : FrameTarget) :
    Follows (t.fallBackTimes number) t := by
  induction number generalizing t with
  | zero => exact .refl t
  | succ number ih => exact (ih t.fallBack).trans (fallBack_follows t)

theorem display_fallBackTimes (number : Nat) (t : FrameTarget) :
    (t.fallBackTimes (number + 1)).display = t.altDisplay.or t.display := by
  induction number generalizing t with
  | zero => exact display_fallBack t
  | succ number ih =>
      rw [FrameTarget.fallBackTimes, ih, altDisplay_fallBack, Option.none_or, display_fallBack]

end EditorClient.FrameTarget
