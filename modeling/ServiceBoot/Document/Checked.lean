import ServiceBoot.Document.Violation

/-!
# Checked values

The result of checking a part of a document: the value that it holds, or every violation in it, of
which there is at least one. Two parts that stand side by side are checked both, whatever becomes
of the first.
-/

namespace ServiceBoot.Document

inductive Checked (α : Type) where
  | accepted (value : α)
  | rejected (first : Violation) (others : List Violation)
  deriving Repr

namespace Checked

def violations {α : Type} : Checked α → List Violation
  | .accepted _ => []
  | .rejected first others => first :: others

def value? {α : Type} : Checked α → Option α
  | .accepted value => some value
  | .rejected _ _ => none

def map {α β : Type} (f : α → β) : Checked α → Checked β
  | .accepted value => .accepted (f value)
  | .rejected first others => .rejected first others

/-- Applies a checked function to a checked value, with the violations of both in order. -/
def apply {α β : Type} : Checked (α → β) → Checked α → Checked β
  | .accepted f, x => x.map f
  | .rejected first others, x => .rejected first (others ++ x.violations)

def bind {α β : Type} (x : Checked α) (f : α → Checked β) : Checked β :=
  match x with
  | .accepted value => f value
  | .rejected first others => .rejected first others

instance : Functor Checked where
  map := map

instance : Applicative Checked where
  pure := accepted
  seq f x := apply f (x ())

/-- The result seen from one step further out. -/
def under {α : Type} (step : Step) : Checked α → Checked α
  | .accepted value => .accepted value
  | .rejected first others => .rejected (first.under step) (others.map (·.under step))

@[simp]
theorem violations_map {α β : Type} (f : α → β) (x : Checked α) :
    (x.map f).violations = x.violations := by
  cases x <;> rfl

@[simp]
theorem violations_apply {α β : Type} (f : Checked (α → β)) (x : Checked α) :
    (f.apply x).violations = f.violations ++ x.violations := by
  cases f <;> cases x <;> rfl

@[simp]
theorem violations_under {α : Type} (step : Step) (x : Checked α) :
    (x.under step).violations = x.violations.map (·.under step) := by
  cases x <;> rfl

end Checked

end ServiceBoot.Document
