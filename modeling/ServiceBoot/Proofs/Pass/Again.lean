import ServiceBoot.Proofs.Pass

/-!
# Passes that are run again

A pass of orderly rules ends in the same way when it is run again on the state that it left, and
writes nothing then: what it filled is settled, and the need that stopped it stops it again. Stages
one after the other have this property if no stage gives an earlier one something to do.
-/

namespace ServiceBoot

variable {α ε : Type}

namespace Outcome

/-- The outcome without what was written. -/
def silent (outcome : Outcome α ε) : Outcome α ε := { outcome with entries := [] }

@[simp]
theorem silent_failed (a : α) (fault : ε) :
    (failed a fault : Outcome α ε).silent = failed a fault := rfl

@[simp]
theorem silent_after (entry : Log.Entry) (outcome : Outcome α ε) :
    (outcome.after entry).silent = outcome.silent := rfl

theorem silent_of_fault_eq_none {outcome : Outcome α ε} (h : outcome.fault = none) :
    outcome.silent = done outcome.state := by
  rw [silent, h, done]

theorem silent_andThen {outcome : Outcome α ε} (h : outcome.fault = none)
    (next : α → Outcome α ε) : (outcome.andThen next).silent = (next outcome.state).silent := by
  simp [andThen, h, silent]

/-- What two stages end with: what the first one ends with, if it stops there, or what the second
one does. -/
theorem ending_andThen {P : α → Option ε → Prop} {outcome : Outcome α ε}
    {next : α → Outcome α ε}
    (stop : ∀ fault, outcome.fault = some fault → P outcome.state (some fault))
    (go : outcome.fault = none → P (next outcome.state).state (next outcome.state).fault) :
    P (outcome.andThen next).state (outcome.andThen next).fault := by
  cases hfault : outcome.fault with
  | some fault =>
    rw [andThen_of_fault hfault, hfault]
    exact stop fault hfault
  | none =>
    rw [state_andThen hfault, fault_andThen, hfault, Option.none_or]
    exact go hfault

end Outcome

/-! ## Rules -/

namespace Rule

theorem run_cons_of_settled {rule : Rule α ε} {a : α} (h : rule.Settled a)
    (rules : List (Rule α ε)) : run (rule :: rules) a = run rules a := by
  cases rule with
  | fill isMissing complete entry =>
    have hmissing : isMissing a = false := h
    simp [run, hmissing]
  | need holds fault =>
    have hholds : holds a = true := h
    simp [run, hholds]

/-- Rules have nothing to do on a state just if each of them is settled. -/
theorem run_eq_done_iff {rules : List (Rule α ε)} {a : α} :
    run rules a = .done a ↔ ∀ rule ∈ rules, rule.Settled a := by
  refine ⟨?_, run_of_settled⟩
  induction rules with
  | nil =>
    intro _ rule hrule
    cases hrule
  | cons rule rules ih =>
    intro h
    have hsettled : rule.Settled a := by
      cases rule with
      | fill isMissing complete entry =>
        by_cases hmissing : isMissing a = true
        · simp [run, hmissing, Outcome.after, Outcome.done] at h
        · simpa [Settled] using hmissing
      | need holds fault =>
        by_cases hholds : holds a = true
        · exact hholds
        · simp [run, hholds, Outcome.failed, Outcome.done] at h
    rw [run_cons_of_settled hsettled] at h
    exact List.forall_mem_cons.mpr ⟨hsettled, ih h⟩

theorem silent_run_cons {rule : Rule α ε} {a : α} (h : rule.verdict? a = none)
    (rules : List (Rule α ε)) :
    (run (rule :: rules) a).silent = (run rules (rule.advance a)).silent := by
  cases rule with
  | fill isMissing complete entry =>
    by_cases hmissing : isMissing a = true <;> simp [run, advance, hmissing]
  | need holds fault =>
    have hholds : holds a = true := by simpa [verdict?] using h
    simp [run, advance, hholds]

theorem verdict?_need_eq_some {holds : α → Bool} {fault : α → ε} {a : α} {found : ε} :
    (need holds fault).verdict? a = some found ↔ holds a = false ∧ fault a = found := by
  cases hholds : holds a <;> simp [verdict?, hholds]

theorem run_cons_of_verdict {rule : Rule α ε} {a : α} {found : ε}
    (h : rule.verdict? a = some found) (rules : List (Rule α ε)) :
    run (rule :: rules) a = .failed a found := by
  cases rule with
  | fill isMissing complete entry => cases h
  | need holds fault =>
    obtain ⟨hholds, rfl⟩ := verdict?_need_eq_some.mp h
    simp [run, hholds]

/-- The induction is on the rules: the first one is settled in the state that the others leave,
since they keep it so. -/
theorem run_again {rules : List (Rule α ε)} (ho : Orderly rules) (a : α) :
    run rules (run rules a).state = (run rules a).silent := by
  induction rules generalizing a with
  | nil => rfl
  | cons rule rules ih =>
    obtain ⟨hlater, hrest⟩ := List.pairwise_cons.mp ho.keeps
    obtain ⟨hcompletes, hothers⟩ := List.forall_mem_cons.mp ho.completes
    cases hverdict : rule.verdict? a with
    | some found =>
      have hrun := run_cons_of_verdict hverdict rules
      simp only [hrun, Outcome.silent_failed]
      exact hrun
    | none =>
      have hrun := silent_run_cons hverdict rules
      have hstate : (run (rule :: rules) a).state = (run rules (rule.advance a)).state := by
        simpa [Outcome.silent] using congrArg Outcome.state hrun
      have hsettled : rule.Settled (run rules (rule.advance a)).state :=
        run_state_keeps hlater (settled_advance hcompletes hverdict)
      calc
        _ = run (rule :: rules) (run rules (rule.advance a)).state := by rw [hstate]
        _ = run rules (run rules (rule.advance a)).state := run_cons_of_settled hsettled rules
        _ = (run rules (rule.advance a)).silent := ih ⟨hothers, hrest⟩ _
        _ = (run (rule :: rules) a).silent := hrun.symm

end Rule

/-! ## Stages -/

/-- A stage ends as before when it is run again on the state that it left, and writes nothing. -/
def Repeats (stage : α → Outcome α ε) : Prop := ∀ a, stage (stage a).state = (stage a).silent

/-- A later stage gives an earlier one nothing to do. -/
def Rests (earlier later : α → Outcome α ε) : Prop :=
  ∀ a, earlier a = .done a → earlier (later a).state = .done (later a).state

theorem Repeats.andThen {first second : α → Outcome α ε} (hfirst : Repeats first)
    (hsecond : Repeats second) (h : Rests first second) :
    Repeats fun a ↦ (first a).andThen second := by
  intro a
  have hagain := hfirst a
  cases hfault : (first a).fault with
  | some fault =>
    have hsame : (first a).andThen second = first a := Outcome.andThen_of_fault hfault second
    have hsilent : (first a).silent.fault = some fault := hfault
    simp only [hsame, hagain]
    exact Outcome.andThen_of_fault hsilent second
  | none =>
    rw [Outcome.silent_of_fault_eq_none hfault] at hagain
    have hrest := h _ hagain
    simp only [Outcome.state_andThen hfault, Outcome.silent_andThen hfault, hrest,
      Outcome.done_andThen]
    exact hsecond _

theorem Rests.andThen {earlier first second : α → Outcome α ε} (hfirst : Rests earlier first)
    (hsecond : Rests earlier second) : Rests earlier fun a ↦ (first a).andThen second := by
  intro a ha
  cases hfault : (first a).fault with
  | some fault =>
    simp only [Outcome.andThen_of_fault hfault second]
    exact hfirst a ha
  | none =>
    simp only [Outcome.state_andThen hfault]
    exact hsecond _ (hfirst a ha)

/-! ## Parts -/

/-- A part of a state, with a pass over it that may look at the rest of the state. -/
structure Part (α β δ : Type) where
  get : α → β
  put : α → β → α
  pass : α → β → Outcome β δ
  get_put : ∀ a b, get (put a b) = b
  put_get : ∀ a, put a (get a) = a
  put_put : ∀ a b c, put (put a b) c = put a c
  pass_put : ∀ a b, pass (put a b) = pass a

namespace Part

variable {β δ : Type}

/-- The pass over a part as a stage over the whole. -/
def stage (part : Part α β δ) (wrap : δ → ε) (a : α) : Outcome α ε :=
  (part.pass a (part.get a)).within (part.put a) wrap

variable {part : Part α β δ} {wrap : δ → ε}

theorem stage_eq_done_iff {a : α} :
    part.stage wrap a = .done a ↔ part.pass a (part.get a) = .done (part.get a) := by
  constructor
  · intro h
    cases hpass : part.pass a (part.get a) with
    | mk state entries fault =>
      simp only [stage, hpass, Outcome.within, Outcome.done, Outcome.mk.injEq,
        Option.map_eq_none_iff] at h
      obtain ⟨hstate, rfl, rfl⟩ := h
      have hget : state = part.get a := by rw [← hstate, part.get_put]
      rw [hget, Outcome.done]
  · intro h
    rw [stage, h, Outcome.done_within, part.put_get]

theorem repeats (h : ∀ a, Repeats (part.pass a)) : Repeats (part.stage wrap) := by
  intro a
  have hagain := h a (part.get a)
  have hput (b : β) : part.put (part.put a b) = part.put a := by
    funext c
    exact part.put_put a b c
  simp only [stage, Outcome.state_within, part.pass_put, part.get_put, hput, hagain]
  rfl

theorem writes {P : Log.Entry → Prop} (h : ∀ a, Writes P (part.pass a)) :
    Writes P (part.stage wrap) := fun a ↦ h a (part.get a)

theorem rests {later : α → Outcome α ε} (hget : ∀ a, part.get (later a).state = part.get a)
    (hpass : ∀ a, part.pass (later a).state = part.pass a) : Rests (part.stage wrap) later := by
  intro a ha
  rw [stage_eq_done_iff] at ha ⊢
  rw [hget, hpass, ha]

end Part

/-! ## Any number of runs -/

/-- The outcome of the last run, after as many others, each on the state that the one before it
left. -/
def rerun (stage : α → Outcome α ε) : Nat → α → Outcome α ε
  | 0, a => stage a
  | n + 1, a => rerun stage n (stage a).state

theorem Repeats.rerun {stage : α → Outcome α ε} (h : Repeats stage) (n : Nat) (a : α) :
    rerun stage (n + 1) a = (stage a).silent := by
  induction n generalizing a with
  | zero => exact h a
  | succ n ih =>
    calc
      _ = ServiceBoot.rerun stage (n + 1) (stage a).state := rfl
      _ = (stage (stage a).state).silent := ih _
      _ = (stage a).silent := by rw [h a]; rfl

end ServiceBoot
