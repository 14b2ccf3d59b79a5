import ServiceBoot.Proofs.Pass.Again

/-!
# Passes that find a fill done

A fill may be done ahead of a pass. If no other rule can tell, the pass ends as it would have ended,
and all that is missing from what it writes is the entry of that fill.
-/

namespace ServiceBoot

variable {α β ε δ : Type}

/-- How an outcome ends, with those entries that are kept. The state behind a fault is left out. -/
def Outcome.seen (keep : Log.Entry → Bool) (outcome : Outcome α ε) :
    Except ε α × List Log.Entry :=
  (match outcome.fault with
    | some fault => .error fault
    | none => .ok outcome.state,
    outcome.entries.filter keep)

theorem Outcome.seen_entries (keep : Log.Entry → Bool) (outcome : Outcome α ε)
    (entries : List Log.Entry) :
    { outcome with entries := entries ++ outcome.entries }.seen keep =
      ((outcome.seen keep).1, entries.filter keep ++ (outcome.seen keep).2) := by
  rw [seen, List.filter_append]
  rfl

theorem Outcome.seen_within (keep : Log.Entry → Bool) (outcome : Outcome β δ) (put : β → α)
    (wrap : δ → ε) : (outcome.within put wrap).seen keep =
      (((outcome.seen keep).1.mapError wrap).map put, (outcome.seen keep).2) := by
  obtain ⟨state, entries, fault⟩ := outcome
  cases fault <;> rfl

namespace Rule

/-- The entry that a rule writes. -/
def told? : Rule α ε → α → Option Log.Entry
  | .fill isMissing complete entry, a => if isMissing a then some (entry (complete a)) else none
  | .need _ _, _ => none

/-- A later rule does its work ahead of an earlier one, and that one cannot tell. -/
def Precedable (earlier later : Rule α ε) : Prop :=
  ∀ a, earlier.advance (later.advance a) = later.advance (earlier.advance a) ∧
    earlier.told? (later.advance a) = earlier.told? a

@[simp]
theorem precedable_need_left (holds : α → Bool) (fault : α → ε) (later : Rule α ε) :
    Precedable (.need holds fault) later := fun _ ↦ ⟨rfl, rfl⟩

@[simp]
theorem precedable_need_right (earlier : Rule α ε) (holds : α → Bool) (fault : α → ε) :
    Precedable earlier (.need holds fault) := fun _ ↦ ⟨rfl, rfl⟩

/-- Fills of different fields do not depend on their order. -/
theorem precedable_fills {isMissing isMissing' : α → Bool} {complete complete' : α → α}
    {entry entry' : α → Log.Entry} (h : ∀ a, isMissing (complete' a) = isMissing a ∧
      isMissing' (complete a) = isMissing' a ∧
      complete (complete' a) = complete' (complete a) ∧
      entry (complete (complete' a)) = entry (complete a)) :
    Precedable (.fill isMissing complete entry : Rule α ε)
      (.fill isMissing' complete' entry') := by
  intro a
  obtain ⟨hmissing, hmissing', hcomplete, hentry⟩ := h a
  by_cases hfirst : isMissing a = true <;> by_cases hsecond : isMissing' a = true <;>
    simp_all [advance, told?]

variable {keep : Log.Entry → Bool} {rule : Rule α ε} {rules : List (Rule α ε)} {a : α}

theorem run_cons_of_passed (h : rule.verdict? a = none) : run (rule :: rules) a =
    { run rules (rule.advance a) with
      entries := (rule.told? a).toList ++ (run rules (rule.advance a)).entries } := by
  cases rule with
  | fill isMissing complete entry =>
    by_cases hmissing : isMissing a = true <;> simp [run, hmissing, Outcome.after, advance, told?]
  | need holds fault =>
    have hholds : holds a = true := by simpa [verdict?] using h
    simp [run, hholds, advance, told?]

/-- A rule that is done ahead writes nothing in its turn, and its entry is not kept anyway. -/
theorem told?_ahead (hcompletes : rule.Completes) (hhidden : rule.Tells (keep · = false)) (a : α) :
    rule.told? (rule.advance a) = none ∧ (rule.told? a).toList.filter keep = [] := by
  cases rule with
  | fill isMissing complete entry =>
    by_cases hmissing : isMissing a = true
    · simp [told?, advance, hmissing, hcompletes a hmissing, hhidden (complete a)]
    · simp [told?, advance, hmissing]
  | need holds fault => exact ⟨rfl, rfl⟩

theorem advance_advance (hcompletes : rule.Completes) (a : α) :
    rule.advance (rule.advance a) = rule.advance a := by
  cases rule with
  | fill isMissing complete entry =>
    by_cases hmissing : isMissing a = true
    · simp [advance, hmissing, hcompletes a hmissing]
    · simp [advance, hmissing]
  | need holds fault => rfl

/-- The induction is on the rules: those before the one that is done ahead go as they would have
gone, and this one has nothing to do in its turn. -/
theorem seen_run_advance (hsteady : Steady rules) (hahead : rules.Pairwise Precedable)
    (hcompletes : ∀ rule ∈ rules, rule.Completes) (hrule : rule ∈ rules)
    (hhidden : rule.Tells (keep · = false)) (a : α) :
    (run rules (rule.advance a)).seen keep = (run rules a).seen keep := by
  induction rules generalizing a with
  | nil => cases hrule
  | cons first rules ih =>
    obtain ⟨hspares, hsteady⟩ := List.pairwise_cons.mp hsteady
    obtain ⟨hprecedable, hahead⟩ := List.pairwise_cons.mp hahead
    obtain ⟨hfirst, hcompletes⟩ := List.forall_mem_cons.mp hcompletes
    rcases List.mem_cons.mp hrule with rfl | hrule
    · obtain ⟨htold, hkept⟩ := told?_ahead hfirst hhidden a
      cases rule with
      | fill isMissing complete entry =>
        rw [run_cons_of_passed rfl, run_cons_of_passed rfl, Outcome.seen_entries,
          Outcome.seen_entries, advance_advance hfirst, htold, hkept]
        rfl
      | need holds fault => rfl
    · have hverdict := hspares rule hrule a
      obtain ⟨hadvance, htold⟩ := hprecedable rule hrule a
      cases hfault : first.verdict? a with
      | some fault =>
        rw [hfault] at hverdict
        rw [run_cons_of_verdict hverdict, run_cons_of_verdict hfault]
        rfl
      | none =>
        rw [hfault] at hverdict
        rw [run_cons_of_passed hverdict, run_cons_of_passed hfault, Outcome.seen_entries,
          Outcome.seen_entries, hadvance, htold, ih hsteady hahead hcompletes hrule]

end Rule

/-! ## Stages -/

/-- A stage does not show whether a move was made ahead of it. -/
def Hides (keep : Log.Entry → Bool) (move : α → α) (stage : α → Outcome α ε) : Prop :=
  ∀ a, (stage (move a)).seen keep = (stage a).seen keep

/-- A stage leaves a move for later. -/
def Defers (move : α → α) (stage : α → Outcome α ε) : Prop :=
  ∀ a, stage (move a) = { stage a with state := move (stage a).state }

theorem seen_andThen {keep : Log.Entry → Bool} {outcome outcome' : Outcome α ε}
    (h : outcome'.seen keep = outcome.seen keep) (next : α → Outcome α ε) :
    (outcome'.andThen next).seen keep = (outcome.andThen next).seen keep := by
  obtain ⟨state, entries, fault⟩ := outcome
  obtain ⟨state', entries', fault'⟩ := outcome'
  cases fault with
  | some fault =>
    cases fault' with
    | some fault' => exact h
    | none => cases congrArg Prod.fst h
  | none =>
    cases fault' with
    | some fault' => cases congrArg Prod.fst h
    | none =>
      obtain ⟨hstate, hentries⟩ := Prod.mk.inj h
      obtain rfl := Except.ok.inj hstate
      simp only [Outcome.andThen, Outcome.seen_entries, hentries]

theorem Hides.andThen {keep : Log.Entry → Bool} {move : α → α} {first : α → Outcome α ε}
    (h : Hides keep move first) (second : α → Outcome α ε) :
    Hides keep move fun a ↦ (first a).andThen second :=
  fun a ↦ seen_andThen (h a) second

theorem Defers.andThen {keep : Log.Entry → Bool} {move : α → α} {first second : α → Outcome α ε}
    (hfirst : Defers move first) (hsecond : Hides keep move second) :
    Hides keep move fun a ↦ (first a).andThen second := by
  intro a
  simp only [hfirst a]
  cases hfault : (first a).fault with
  | some fault => simp [Outcome.andThen, hfault, Outcome.seen]
  | none => simp only [Outcome.andThen, hfault, Outcome.seen_entries, hsecond (first a).state]

theorem Defers.andThen_defers {move : α → α} {first second : α → Outcome α ε}
    (hfirst : Defers move first) (hsecond : Defers move second) :
    Defers move fun a ↦ (first a).andThen second := by
  intro a
  simp only [hfirst a]
  cases hfault : (first a).fault with
  | some fault => simp [Outcome.andThen, hfault]
  | none => simp only [Outcome.andThen, hfault, hsecond (first a).state]

/-- A rule goes as before when a move is made ahead of it, and leaves this move as it is. -/
def Rule.Ignores (move : α → α) : Rule α ε → Prop
  | .fill isMissing complete entry => ∀ a, isMissing (move a) = isMissing a ∧
      complete (move a) = move (complete a) ∧ entry (move a) = entry a
  | .need holds fault => ∀ a, holds (move a) = holds a ∧ fault (move a) = fault a

theorem Rule.defers_run {move : α → α} {rules : List (Rule α ε)}
    (h : ∀ rule ∈ rules, rule.Ignores move) : Defers move (run rules) := by
  intro a
  induction rules generalizing a with
  | nil => rfl
  | cons rule rules ih =>
    obtain ⟨hrule, hrules⟩ := List.forall_mem_cons.mp h
    cases rule with
    | fill isMissing complete entry =>
      obtain ⟨hmissing, hcomplete, -⟩ := hrule a
      by_cases hm : isMissing a = true
      · obtain ⟨-, -, hentry⟩ := hrule (complete a)
        simp [run, hmissing, hm, hcomplete, hentry, ih hrules, Outcome.after]
      · simp [run, hmissing, hm, ih hrules]
    | need holds fault =>
      obtain ⟨hholds, hfault⟩ := hrule a
      by_cases hh : holds a = true
      · simp [run, hholds, hh, ih hrules]
      · simp [run, hholds, hh, hfault, Outcome.failed]

namespace Part

variable {part : Part α β δ} {wrap : δ → ε}

/-- A move of a part as one of the whole. -/
def lift (part : Part α β δ) (move : β → β) (a : α) : α := part.put a (move (part.get a))

theorem hides {keep : Log.Entry → Bool} {move : β → β} (h : ∀ a, Hides keep move (part.pass a)) :
    Hides keep (part.lift move) (part.stage wrap) := by
  intro a
  have hput : part.put (part.lift move a) = part.put a := by
    funext b
    exact part.put_put a (move (part.get a)) b
  rw [stage, stage, hput, Outcome.seen_within, Outcome.seen_within, lift, part.pass_put,
    part.get_put, h]

end Part

end ServiceBoot
