/-
# Lines that are ahead of a session

The tasks that a session has to do tell which lines it will look at before it reaches its goal,
and what it will keep of the line that has no end yet: `ahead` and `keptAfter` say this of a
list of tasks. A task and what it leaves look at the line together, so what has been looked at
and what is ahead are always the lines that have arrived: `Looks` says so of a session on its
way, and is kept by all that can happen to it.
-/

import EditorClient.Proofs.Session.Stages

namespace EditorClient.Session

variable {c : Config} {arrived kept : Bytes} {passed : List Bytes} {task : Task}
  {todo : List Task} {goal : Goal} {r : ReplyReader Session SessionEvent}

/-! ## What tasks look at -/

/-- The line that a task will have looked at in the end, where this is kept of one. -/
def Task.lines (kept : Bytes) : Task → List Bytes
  | .line bytes => [bytes]
  | .lastLine => [kept]
  | _ => []

/-- What is kept of a line after a task. -/
def Task.keeps (kept : Bytes) : Task → Bytes
  | .keep rest => rest
  | .lastLine => []
  | _ => kept

/-- What is kept of a line after several tasks. -/
def keptAfter (kept : Bytes) (todo : List Task) : Bytes := todo.foldl Task.keeps kept

/-- The lines that tasks will have looked at. -/
def ahead : Bytes → List Task → List Bytes
  | _, [] => []
  | kept, task :: todo => task.lines kept ++ ahead (task.keeps kept) todo

theorem keptAfter_append (kept : Bytes) (first later : List Task) :
    keptAfter kept (first ++ later) = keptAfter (keptAfter kept first) later :=
  List.foldl_append

theorem ahead_append (kept : Bytes) (first later : List Task) :
    ahead kept (first ++ later) = ahead kept first ++ ahead (keptAfter kept first) later := by
  induction first generalizing kept with
  | nil => rfl
  | cons task rest ih =>
      rw [List.cons_append, ahead, ih, ahead, List.append_assoc]
      rfl

/-- Tasks that look at no line and keep none. -/
def Blind (tasks : List Task) : Prop := ∀ kept, ahead kept tasks = [] ∧ keptAfter kept tasks = kept

theorem blind_acts (actions : List Action) : Blind (acts actions) := by
  intro kept
  induction actions with
  | nil => exact ⟨rfl, rfl⟩
  | cons action rest ih => exact ih

theorem ahead_lines (kept : Bytes) (lines : List Bytes) :
    ahead kept (lines.map .line) = lines ∧ keptAfter kept (lines.map .line) = kept := by
  induction lines with
  | nil => exact ⟨rfl, rfl⟩
  | cons line rest ih => exact ⟨congrArg (line :: ·) ih.1, ih.2⟩

/-- What has arrived is looked at up to the last newline, and the rest is kept. -/
theorem ahead_takeIn (kept bytes : Bytes) :
    ahead kept (takeIn bytes ++ [.tellAgain]) = Lines.complete bytes ∧
      keptAfter kept (takeIn bytes ++ [.tellAgain]) = Lines.tail bytes := by
  obtain ⟨lines, same⟩ := ahead_lines kept (Lines.complete bytes)
  rw [takeIn, List.append_assoc, ahead_append, keptAfter_append, lines, same]
  exact ⟨List.append_nil _, rfl⟩

/-- The line that a task looks at itself. -/
def Task.looks : Task → List Bytes
  | .line bytes => [bytes]
  | _ => []

/-- Only the last task of all leaves a line to look at. -/
theorem blind_more (other : task ≠ .lastLine)
    (r : ReplyReader Session SessionEvent) : Blind (task.more c r) := by
  have nothing : Blind [] := fun kept => ⟨rfl, rfl⟩
  cases task with
  | limit | request | flushErrors | keep => exact nothing
  | tell =>
      rw [Task.more]
      split
      · exact blind_acts _
      · exact nothing
  | tellAgain =>
      rw [Task.more]
      split
      · exact fun kept => ⟨rfl, rfl⟩
      · exact nothing
  | line bytes =>
      rw [Task.more]
      split
      · exact nothing
      · exact blind_acts _
  | act action => cases action <;> exact fun kept => ⟨rfl, rfl⟩
  | lastLine => exact absurd rfl other
  | closeLine => exact blind_acts _

/-- A task and what it leaves look at the line together, and keep the same. -/
theorem ahead_more (task : Task) (todo : List Task) (r : ReplyReader Session SessionEvent) :
    task.looks ++ ahead (task.keeps r.pending) (task.more c r ++ todo) =
        ahead r.pending (task :: todo) ∧
      keptAfter (task.keeps r.pending) (task.more c r ++ todo) =
        keptAfter r.pending (task :: todo) := by
  by_cases last : task = .lastLine
  · subst last
    exact ⟨rfl, rfl⟩
  · obtain ⟨none, same⟩ := blind_more (c := c) last r (task.keeps r.pending)
    have looks : task.looks = task.lines r.pending := by
      cases task with
      | lastLine => exact absurd rfl last
      | _ => rfl
    rw [ahead_append, keptAfter_append, none, same, looks]
    exact ⟨rfl, rfl⟩

/-! ## A session on its way -/

/-- The lines that a session has looked at when it reaches its goal. -/
def Goal.lines (arrived : Bytes) : Goal → List Bytes
  | .read => Lines.complete arrived
  | .result _ => Lines.complete arrived ++ [Lines.tail arrived]

theorem Goal.lines_prefix (arrived : Bytes) (goal : Goal) :
    goal.lines arrived <+: Lines.complete arrived ++ [Lines.tail arrived] := by
  cases goal with
  | read => exact List.prefix_append _ _
  | result broken => exact List.prefix_rfl

/-- These of the lines that arrived have been looked at, and tasks are left for the others, when
this is kept of a line. -/
structure Looks (arrived : Bytes) (passed : List Bytes) (todo : List Task) (goal : Goal)
    (kept : Bytes) : Prop where
  lines : passed ++ ahead kept todo = goal.lines arrived
  rest : goal = .read → keptAfter kept todo = Lines.tail arrived

theorem Looks.start (first : Bool) : Looks [] [] [.limit, .request first, .tell] .read [] :=
  ⟨rfl, fun _ => rfl⟩

/-- A task has been worked at. -/
theorem Looks.more (looks : Looks arrived passed (task :: todo) goal r.pending) :
    Looks arrived (passed ++ task.looks) (task.more c r ++ todo) goal (task.keeps r.pending) := by
  obtain ⟨same, kept⟩ := ahead_more (c := c) task todo r
  constructor
  · rw [List.append_assoc, same]
    exact looks.lines
  · rw [kept]
    exact looks.rest

theorem Looks.among (looks : Looks arrived passed todo goal kept) :
    passed <+: Lines.complete arrived ++ [Lines.tail arrived] :=
  (List.prefix_append _ _).trans (looks.lines ▸ goal.lines_prefix arrived)

/-- With nothing left to do, all that there is to look at has been looked at. -/
theorem Looks.all (looks : Looks arrived passed [] goal kept) : passed = goal.lines arrived :=
  (List.append_nil _).symm.trans looks.lines

/-- A session that has nothing to do before reading can be told that no more will arrive. -/
theorem Looks.ending (looks : Looks arrived passed [] .read kept) (broken : Option IoError) :
    Looks arrived passed [.lastLine, .closeLine] (.result broken) kept where
  lines := by
    have rest : kept = Lines.tail arrived := looks.rest rfl
    rw [looks.all, rest]
    rfl
  rest := nofun

/-- More bytes arrive. -/
theorem Looks.arrives (looks : Looks arrived passed [] .read kept) (bytes : Bytes) :
    Looks (arrived ++ bytes) passed (takeIn (kept ++ bytes) ++ [.tellAgain]) .read
      (kept ++ bytes) := by
  obtain ⟨lines, rest⟩ := ahead_takeIn (kept ++ bytes) (kept ++ bytes)
  have same : kept = Lines.tail arrived := looks.rest rfl
  constructor
  · rw [lines, same, looks.all]
    exact (Lines.complete_append arrived bytes).symm
  · intro
    rw [rest, same]
    exact (Lines.tail_append arrived bytes).symm

end EditorClient.Session
