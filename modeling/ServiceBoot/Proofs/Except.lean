/-!
# Stages that may fail

A stage that goes on from another one ends well only if both do. With these facts a reader or a
loader is taken apart into its stages.
-/

namespace ServiceBoot

variable {α β ε : Type} {stage : Except ε α} {b : β}

theorem bind_eq_ok {next : α → Except ε β} :
    stage >>= next = .ok b ↔ ∃ a, stage = .ok a ∧ next a = .ok b := by
  cases stage with
  | error fault => simp [bind, Except.bind]
  | ok a => simp [bind, Except.bind]

theorem map_eq_ok {f : α → β} : stage.map f = .ok b ↔ ∃ a, stage = .ok a ∧ f a = b := by
  cases stage with
  | error fault => simp [Except.map]
  | ok a => simp [Except.map]

theorem eq_ok_of_toOption {a : α} (h : stage.toOption = some a) : stage = .ok a := by
  cases stage with
  | error fault => cases h
  | ok b =>
    cases h
    rfl

end ServiceBoot
