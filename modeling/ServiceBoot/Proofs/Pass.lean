import ServiceBoot.Pass

/-!
# What a pass leaves behind

Rules are orderly if none undoes what an earlier one has settled: a pass that ends without a fault
then leaves every rule settled, and a second pass has nothing to do. Rules are steady if no fill
turns the verdict of an earlier need around: the fault of a pass is then the first one that the
needs find in the state with everything filled.
-/

namespace ServiceBoot

namespace Outcome

variable {α β ε δ : Type}

@[simp]
theorem fault_andThen (outcome : Outcome α ε) (next : α → Outcome α ε) :
    (outcome.andThen next).fault = outcome.fault.or (next outcome.state).fault := by
  cases h : outcome.fault <;> simp [andThen, h]

theorem state_andThen {outcome : Outcome α ε} (h : outcome.fault = none)
    (next : α → Outcome α ε) : (outcome.andThen next).state = (next outcome.state).state := by
  simp [andThen, h]

@[simp]
theorem done_andThen (a : α) (next : α → Outcome α ε) : (done a).andThen next = next a := by
  simp [andThen, done]

@[simp]
theorem done_within (b : β) (put : β → α) (wrap : δ → ε) :
    (done b : Outcome β δ).within put wrap = done (put b) := rfl

@[simp]
theorem state_within (outcome : Outcome β δ) (put : β → α) (wrap : δ → ε) :
    (outcome.within put wrap).state = put outcome.state := rfl

@[simp]
theorem fault_within (outcome : Outcome β δ) (put : β → α) (wrap : δ → ε) :
    (outcome.within put wrap).fault = outcome.fault.map wrap := rfl

end Outcome

namespace Rule

variable {α ε : Type}

/-- A settled rule has nothing to do. -/
def Settled : Rule α ε → α → Prop
  | .fill isMissing _ _, a => isMissing a = false
  | .need holds _, a => holds a = true

/-- The state after a rule that does not end the pass. -/
def advance : Rule α ε → α → α
  | .fill isMissing complete _, a => if isMissing a then complete a else a
  | .need _ _, a => a

/-- The fault that a rule finds. -/
def verdict? : Rule α ε → α → Option ε
  | .fill _ _ _, _ => none
  | .need holds fault, a => if holds a then none else some (fault a)

def Keeps (P : α → Prop) (rule : Rule α ε) : Prop := ∀ a, P a → P (rule.advance a)

/-- What a fill completes is not missing afterwards. -/
def Completes : Rule α ε → Prop
  | .fill isMissing complete _ => ∀ a, isMissing a = true → isMissing (complete a) = false
  | .need _ _ => True

structure Orderly (rules : List (Rule α ε)) : Prop where
  completes : ∀ rule ∈ rules, rule.Completes
  keeps : rules.Pairwise fun earlier later ↦ later.Keeps earlier.Settled

/-- A rule spares another one if it does not change what that one finds. -/
def Spares (rule other : Rule α ε) : Prop := ∀ a, other.verdict? (rule.advance a) = other.verdict? a

def Steady (rules : List (Rule α ε)) : Prop :=
  rules.Pairwise fun earlier later ↦ later.Spares earlier

/-- The state with everything filled, whatever the needs find. -/
def filled (rules : List (Rule α ε)) (a : α) : α := rules.foldl (fun a rule ↦ rule.advance a) a

@[simp]
theorem filled_nil (a : α) : filled ([] : List (Rule α ε)) a = a := rfl

@[simp]
theorem filled_cons (rule : Rule α ε) (rules : List (Rule α ε)) (a : α) :
    filled (rule :: rules) a = filled rules (rule.advance a) := rfl

@[simp]
theorem keeps_fill {P : α → Prop} {isMissing : α → Bool} {complete : α → α}
    {entry : α → Log.Entry} :
    Keeps P (.fill isMissing complete entry : Rule α ε) ↔
      ∀ a, isMissing a = true → P a → P (complete a) := by
  constructor
  · intro h a hm ha
    simpa [advance, hm] using h a ha
  · intro h a ha
    by_cases hm : isMissing a = true
    · simpa [advance, hm] using h a hm ha
    · simpa [advance, hm] using ha

@[simp]
theorem keeps_need {P : α → Prop} {holds : α → Bool} {fault : α → ε} :
    Keeps P (.need holds fault) := fun _ ha ↦ ha

@[simp]
theorem spares_fill {other : Rule α ε} {isMissing : α → Bool} {complete : α → α}
    {entry : α → Log.Entry} :
    Spares (.fill isMissing complete entry) other ↔
      ∀ a, isMissing a = true → other.verdict? (complete a) = other.verdict? a := by
  constructor
  · intro h a hm
    simpa [advance, hm] using h a
  · intro h a
    by_cases hm : isMissing a = true
    · simpa [advance, hm] using h a hm
    · simp [advance, hm]

@[simp]
theorem spares_need {other : Rule α ε} {holds : α → Bool} {fault : α → ε} :
    Spares (.need holds fault) other := fun _ ↦ rfl

/-! ## One rule at the head of a pass -/

theorem run_cons_fill (isMissing : α → Bool) (complete : α → α) (entry : α → Log.Entry)
    (rules : List (Rule α ε)) (a : α) :
    (run (.fill isMissing complete entry :: rules) a).state =
        (run rules ((fill isMissing complete entry : Rule α ε).advance a)).state ∧
      (run (.fill isMissing complete entry :: rules) a).fault =
        (run rules ((fill isMissing complete entry : Rule α ε).advance a)).fault := by
  by_cases h : isMissing a = true <;> simp [run, advance, h, Outcome.after]

/-- A pass without a fault goes on behind its first rule. -/
theorem run_cons_of_fault_eq_none {rule : Rule α ε} {rules : List (Rule α ε)} {a : α}
    (h : (run (rule :: rules) a).fault = none) :
    rule.verdict? a = none ∧ (run rules (rule.advance a)).fault = none ∧
      (run (rule :: rules) a).state = (run rules (rule.advance a)).state := by
  cases rule with
  | fill isMissing complete entry =>
    obtain ⟨hstate, hfault⟩ := run_cons_fill isMissing complete entry rules a
    exact ⟨rfl, hfault ▸ h, hstate⟩
  | need holds fault =>
    by_cases hh : holds a = true
    · simp only [run, hh, if_true] at h
      simp [run, verdict?, advance, hh, h]
    · simp [run, hh, Outcome.failed] at h

/-! ## States without anything left to do -/

theorem run_of_settled {rules : List (Rule α ε)} {a : α} (h : ∀ rule ∈ rules, rule.Settled a) :
    run rules a = .done a := by
  induction rules with
  | nil => rfl
  | cons rule rules ih =>
    obtain ⟨hhead, hrest⟩ := List.forall_mem_cons.mp h
    have htail := ih hrest
    cases rule <;> simp_all [run, Settled]

theorem settled_advance {rule : Rule α ε} {a : α} (hc : rule.Completes)
    (h : rule.verdict? a = none) : rule.Settled (rule.advance a) := by
  cases rule with
  | fill isMissing complete entry =>
    by_cases hm : isMissing a = true
    · simpa [Settled, advance, hm] using hc a hm
    · simp [Settled, advance, hm]
  | need holds fault => simpa [Settled, advance, verdict?] using h

theorem run_state_keeps {P : α → Prop} {rules : List (Rule α ε)}
    (h : ∀ rule ∈ rules, rule.Keeps P) {a : α} (ha : P a) : P (run rules a).state := by
  induction rules generalizing a with
  | nil => exact ha
  | cons rule rules ih =>
    obtain ⟨hrule, hrest⟩ := List.forall_mem_cons.mp h
    have htail := ih hrest (hrule a ha)
    cases rule with
    | fill isMissing complete entry =>
      rw [(run_cons_fill isMissing complete entry rules a).1]
      exact htail
    | need holds fault =>
      by_cases hh : holds a = true
      · simpa [run, hh, advance] using htail
      · simpa [run, hh, Outcome.failed] using ha

/-- A pass of orderly rules that ends without a fault leaves every rule settled. -/
theorem settled_run {rules : List (Rule α ε)} (ho : Orderly rules) {a : α}
    (h : (run rules a).fault = none) : ∀ rule ∈ rules, rule.Settled (run rules a).state := by
  induction rules generalizing a with
  | nil =>
    intro rule hr
    cases hr
  | cons first rules ih =>
    obtain ⟨hverdict, hfault, hstate⟩ := run_cons_of_fault_eq_none h
    obtain ⟨hlater, hrest⟩ := List.pairwise_cons.mp ho.keeps
    obtain ⟨hcompletes, hothers⟩ := List.forall_mem_cons.mp ho.completes
    rw [hstate, List.forall_mem_cons]
    constructor
    · apply run_state_keeps hlater
      exact settled_advance hcompletes hverdict
    · exact ih ⟨hothers, hrest⟩ hfault

/-! ## The fault of a pass -/

theorem run_state_of_fault_eq_none {rules : List (Rule α ε)} {a : α}
    (h : (run rules a).fault = none) : (run rules a).state = filled rules a := by
  induction rules generalizing a with
  | nil => rfl
  | cons rule rules ih =>
    obtain ⟨-, hfault, hstate⟩ := run_cons_of_fault_eq_none h
    rw [hstate, ih hfault, filled_cons]

theorem verdict?_filled {rule : Rule α ε} {rules : List (Rule α ε)}
    (h : ∀ later ∈ rules, later.Spares rule) (a : α) :
    rule.verdict? (filled rules a) = rule.verdict? a := by
  induction rules generalizing a with
  | nil => rfl
  | cons later rules ih =>
    obtain ⟨hlater, hrest⟩ := List.forall_mem_cons.mp h
    calc
      _ = rule.verdict? (filled rules (later.advance a)) := rfl
      _ = rule.verdict? (later.advance a) := ih hrest _
      _ = rule.verdict? a := hlater a

/-- The fault of a pass is the first that the rules find once everything is filled. -/
theorem run_fault {rules : List (Rule α ε)} (hs : Steady rules) (a : α) :
    (run rules a).fault = rules.findSome? (·.verdict? (filled rules a)) := by
  induction rules generalizing a with
  | nil => rfl
  | cons rule rules ih =>
    obtain ⟨hlater, hrest⟩ := List.pairwise_cons.mp hs
    have hrule : rule.verdict? (filled rules (rule.advance a)) =
        rule.verdict? (rule.advance a) := verdict?_filled hlater _
    have htail := ih hrest (rule.advance a)
    rw [List.findSome?_cons, filled_cons, hrule]
    cases rule with
    | fill isMissing complete entry =>
      rw [(run_cons_fill isMissing complete entry rules a).2, htail]
      rfl
    | need holds fault =>
      by_cases hh : holds a = true
      · simpa [run, verdict?, advance, hh] using htail
      · simp [run, verdict?, advance, hh, Outcome.failed]

end Rule

/-! ## What is written -/

/-- All that a stage writes has a property. -/
def Writes {α ε : Type} (P : Log.Entry → Prop) (stage : α → Outcome α ε) : Prop :=
  ∀ a, ∀ entry ∈ (stage a).entries, P entry

theorem Writes.andThen {α ε : Type} {P : Log.Entry → Prop} {first second : α → Outcome α ε}
    (hfirst : Writes P first) (hsecond : Writes P second) :
    Writes P fun a ↦ (first a).andThen second := by
  intro a entry hentry
  cases hfault : (first a).fault with
  | some fault =>
    simp only [Outcome.andThen_of_fault hfault] at hentry
    exact hfirst a entry hentry
  | none =>
    simp only [Outcome.andThen, hfault, List.mem_append] at hentry
    rcases hentry with hentry | hentry
    · exact hfirst a entry hentry
    · exact hsecond _ entry hentry

/-- All entries of a fill have a property. -/
def Rule.Tells {α ε : Type} (P : Log.Entry → Prop) : Rule α ε → Prop
  | .fill _ _ entry => ∀ a, P (entry a)
  | .need _ _ => True

theorem Rule.writes_run {α ε : Type} {P : Log.Entry → Prop} {rules : List (Rule α ε)}
    (h : ∀ rule ∈ rules, rule.Tells P) : Writes P (run rules) := by
  intro a
  induction rules generalizing a with
  | nil => exact List.forall_mem_nil _
  | cons rule rules ih =>
    obtain ⟨hrule, hrest⟩ := List.forall_mem_cons.mp h
    have htail (b : α) : ∀ entry ∈ (run rules b).entries, P entry := ih hrest b
    cases rule with
    | fill isMissing complete entry =>
      by_cases hmissing : isMissing a = true
      · simp only [run, hmissing, if_true, Outcome.after, List.forall_mem_cons]
        exact ⟨hrule _, htail _⟩
      · simpa [run, hmissing] using htail a
    | need holds fault =>
      by_cases hholds : holds a = true
      · simpa [run, hholds] using htail a
      · simp [run, hholds, Outcome.failed]

end ServiceBoot
