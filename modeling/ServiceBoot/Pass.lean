import ServiceBoot.Log.Entry

/-!
# Passes over a configuration

A pass goes through a list of rules. A rule either fills a field that was left out, and writes an
entry that says so, or needs something to hold. The pass ends at the first need that does not hold,
with everything kept that it filled before.
-/

namespace ServiceBoot

inductive Rule (α ε : Type) where
  | fill (isMissing : α → Bool) (complete : α → α) (entry : α → Log.Entry)
  | need (holds : α → Bool) (fault : α → ε)

structure Outcome (α ε : Type) where
  state : α
  entries : List Log.Entry
  fault : Option ε

namespace Outcome

def done {α ε : Type} (state : α) : Outcome α ε := ⟨state, [], none⟩

def failed {α ε : Type} (state : α) (fault : ε) : Outcome α ε := ⟨state, [], some fault⟩

/-- The outcome with an entry written before all others. -/
def after {α ε : Type} (entry : Log.Entry) (outcome : Outcome α ε) : Outcome α ε :=
  { outcome with entries := entry :: outcome.entries }

/-- Goes on from the state reached, unless there is a fault. -/
def andThen {α ε : Type} (outcome : Outcome α ε) (next : α → Outcome α ε) : Outcome α ε :=
  match outcome.fault with
  | some _ => outcome
  | none => { next outcome.state with entries := outcome.entries ++ (next outcome.state).entries }

/-- The outcome of a pass over a part, as one over the whole. -/
def within {α β ε δ : Type} (outcome : Outcome β δ) (put : β → α) (wrap : δ → ε) :
    Outcome α ε :=
  ⟨put outcome.state, outcome.entries, outcome.fault.map wrap⟩

theorem andThen_of_fault {α ε : Type} {outcome : Outcome α ε} {fault : ε}
    (h : outcome.fault = some fault) (next : α → Outcome α ε) :
    outcome.andThen next = outcome := by
  simp [andThen, h]

theorem andThen_assoc {α ε : Type} (outcome : Outcome α ε) (f g : α → Outcome α ε) :
    (outcome.andThen f).andThen g = outcome.andThen fun a ↦ (f a).andThen g := by
  cases h : outcome.fault with
  | some fault => simp [andThen, h]
  | none => cases hf : (f outcome.state).fault <;> simp [andThen, h, hf, List.append_assoc]

end Outcome

def Rule.run {α ε : Type} : List (Rule α ε) → α → Outcome α ε
  | [], a => .done a
  | .fill isMissing complete entry :: rules, a =>
    if isMissing a then (run rules (complete a)).after (entry (complete a)) else run rules a
  | .need holds fault :: rules, a => if holds a then run rules a else .failed a (fault a)

end ServiceBoot
