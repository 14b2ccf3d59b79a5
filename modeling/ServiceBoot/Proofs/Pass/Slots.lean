import Mathlib.Data.List.Nodup
import ServiceBoot.Proofs.Document.Omission
import ServiceBoot.Proofs.Pass.Ahead

/-!
# What a pass tells of its changes

A slot is a field that may be filled, with the warning that says so. A stage accounts for slots if
it writes one warning for each slot that it changed, in their order and with the values that they
have in the end, and changes nothing else. Rules that fill a slot each account for them, whether
they come to their end or not, and so do stages one after the other. What the warnings tell is then
enough to find the state that was left.
-/

namespace ServiceBoot

open Json (Value)

/-- What a slot holds. -/
inductive Scalar where
  | integer (n : Int)
  | text (s : String)
  deriving DecidableEq

namespace Scalar

def value : Scalar → Value
  | .integer n => .int n
  | .text s => .str s

def ofValue? : Value → Option Scalar
  | .int n => some (.integer n)
  | .str s => some (.text s)
  | _ => none

@[simp]
theorem ofValue?_value (scalar : Scalar) : ofValue? scalar.value = some scalar := by
  cases scalar <;> rfl

theorem forall_iff {P : Scalar → Prop} :
    (∀ scalar, P scalar) ↔ (∀ n, P (.integer n)) ∧ ∀ s, P (.text s) :=
  ⟨fun h ↦ ⟨fun n ↦ h (.integer n), fun s ↦ h (.text s)⟩,
    fun h scalar ↦ Scalar.rec h.1 h.2 scalar⟩

end Scalar

variable {α β δ ε : Type}

/-- A field that may be filled. The warning carries its value under the key, beside the subsystem
that speaks. -/
structure Slot (α : Type) where
  event : String
  subsystem : Option String := none
  key : String
  get : α → Scalar
  set : Scalar → α → α

namespace Slot

def ofInt (event : String) (subsystem : Option String) (key : String) (get : α → Int)
    (set : Int → α → α) : Slot α where
  event := event
  subsystem := subsystem
  key := key
  get a := .integer (get a)
  set
    | .integer n => set n
    | .text _ => id

def ofText (event : String) (subsystem : Option String) (key : String) (get : α → String)
    (set : String → α → α) : Slot α where
  event := event
  subsystem := subsystem
  key := key
  get a := .text (get a)
  set
    | .integer _ => id
    | .text s => set s

/-- The warning about what a slot holds. -/
def warning (slot : Slot α) (a : α) : Log.Entry :=
  .warning slot.event ((slot.subsystem.map fun name ↦ ("subsystem", Value.str name)).toList ++
    [(slot.key, (slot.get a).value)])

/-- What is written into one slot does not show in another. -/
def Apart (slot other : Slot α) : Prop := ∀ scalar a,
  other.get (slot.set scalar a) = other.get a ∧ slot.get (other.set scalar a) = slot.get a

def AllApart (slots others : List (Slot α)) : Prop :=
  ∀ slot ∈ slots, ∀ other ∈ others, slot.Apart other

theorem AllApart.append {slots first second : List (Slot α)} (hfirst : AllApart slots first)
    (hsecond : AllApart slots second) : AllApart slots (first ++ second) := by
  intro slot hslot other hother
  rcases List.mem_append.mp hother with hother | hother
  · exact hfirst slot hslot other hother
  · exact hsecond slot hslot other hother

/-- The slots in which two states differ. -/
def changes (slots : List (Slot α)) (before after : α) : List (Slot α) :=
  slots.filter fun slot ↦ slot.get before ≠ slot.get after

/-- A state with some slots as in another one. -/
def overlay (slots : List (Slot α)) (other a : α) : α :=
  slots.foldl (fun a slot ↦ slot.set (slot.get other) a) a

variable {slots : List (Slot α)} {slot : Slot α} {a b before after other : α}

@[simp]
theorem warning_ofInt (event key : String) (subsystem : Option String) (get : α → Int)
    (set : Int → α → α) (a : α) : warning (.ofInt event subsystem key get set) a =
      .warning event ((subsystem.map fun name ↦ ("subsystem", Value.str name)).toList ++
        [(key, .int (get a))]) := rfl

@[simp]
theorem warning_ofText (event key : String) (subsystem : Option String) (get : α → String)
    (set : String → α → α) (a : α) : warning (.ofText event subsystem key get set) a =
      .warning event ((subsystem.map fun name ↦ ("subsystem", Value.str name)).toList ++
        [(key, .str (get a))]) := rfl

theorem warning_congr (h : slot.get a = slot.get b) : slot.warning a = slot.warning b := by
  rw [warning, warning, h]

theorem map_warning_congr (h : ∀ slot ∈ slots, slot.get a = slot.get b) :
    slots.map (·.warning a) = slots.map (·.warning b) :=
  List.map_congr_left fun slot hslot ↦ warning_congr (h slot hslot)

@[simp]
theorem changes_self (slots : List (Slot α)) (a : α) : changes slots a a = [] := by
  simp [changes]

theorem changes_cons_of_eq (h : slot.get before = slot.get after) :
    changes (slot :: slots) before after = changes slots before after := by
  simp [changes, h]

theorem changes_cons_of_ne (h : slot.get before ≠ slot.get after) :
    changes (slot :: slots) before after = slot :: changes slots before after := by
  simp [changes, h]

theorem changes_append (first second : List (Slot α)) (before after : α) :
    changes (first ++ second) before after =
      changes first before after ++ changes second before after :=
  List.filter_append ..

theorem changes_congr {before' after' : α}
    (hbefore : ∀ slot ∈ slots, slot.get before = slot.get before')
    (hafter : ∀ slot ∈ slots, slot.get after = slot.get after') :
    changes slots before after = changes slots before' after' := by
  apply List.filter_congr
  intro slot hslot
  rw [hbefore slot hslot, hafter slot hslot]

theorem mem_of_mem_changes (h : slot ∈ changes slots before after) : slot ∈ slots :=
  (List.mem_filter.mp h).1

@[simp]
theorem overlay_nil (other a : α) : overlay [] other a = a := rfl

@[simp]
theorem overlay_cons (slot : Slot α) (slots : List (Slot α)) (other a : α) :
    overlay (slot :: slots) other a = overlay slots other (slot.set (slot.get other) a) := rfl

theorem overlay_append (first second : List (Slot α)) (other a : α) :
    overlay (first ++ second) other a = overlay second other (overlay first other a) :=
  List.foldl_append

/-- A slot that is not written into stays as it is. -/
theorem get_overlay (h : ∀ other ∈ slots, slot.Apart other) (other a : α) :
    slot.get (overlay slots other a) = slot.get a := by
  induction slots generalizing a with
  | nil => rfl
  | cons first slots ih =>
    obtain ⟨hfirst, hrest⟩ := List.forall_mem_cons.mp h
    rw [overlay_cons, ih hrest, (hfirst _ _).2]

theorem overlay_congr {other' : α} (h : ∀ slot ∈ slots, slot.get other = slot.get other') (a : α) :
    overlay slots other a = overlay slots other' a := by
  induction slots generalizing a with
  | nil => rfl
  | cons slot slots ih =>
    obtain ⟨hslot, hrest⟩ := List.forall_mem_cons.mp h
    rw [overlay_cons, overlay_cons, hslot, ih hrest]

end Slot

open Slot (changes overlay)

/-- An outcome tells of each slot that changed since a state, and nothing else changed. -/
structure Outcome.Accounts (outcome : Outcome α ε) (slots : List (Slot α)) (before : α) : Prop where
  entries : outcome.entries =
    (changes slots before outcome.state).map (·.warning outcome.state)
  state : overlay (changes slots before outcome.state) outcome.state before = outcome.state

theorem Outcome.Accounts.get_state {outcome : Outcome α ε} {slots : List (Slot α)} {before : α}
    (h : outcome.Accounts slots before) {slot : Slot α}
    (hapart : ∀ other ∈ slots, slot.Apart other) : slot.get outcome.state = slot.get before := by
  rw [← h.state]
  apply Slot.get_overlay
  intro other hother
  exact hapart other (Slot.mem_of_mem_changes hother)

def Accounts (slots : List (Slot α)) (stage : α → Outcome α ε) : Prop :=
  ∀ a, (stage a).Accounts slots a

/-- The stages leave each other's slots alone, so that the warnings of the first one are still right
in the end. -/
theorem Accounts.andThen {first second : List (Slot α)} {stage later : α → Outcome α ε}
    (hfirst : Accounts first stage) (hsecond : Accounts second later)
    (hapart : Slot.AllApart first second) :
    Accounts (first ++ second) fun a ↦ (stage a).andThen later := by
  intro a
  have hleft : ∀ slot ∈ second, slot.get a = slot.get (stage a).state := by
    intro slot hslot
    apply ((hfirst a).get_state _).symm
    intro other hother scalar b
    exact (hapart other hother slot hslot scalar b).symm
  cases hfault : (stage a).fault with
  | some fault =>
    have hchanges : changes (first ++ second) a (stage a).state =
        changes first a (stage a).state := by
      rw [Slot.changes_append, Slot.changes_congr hleft fun _ _ ↦ rfl, Slot.changes_self,
        List.append_nil]
    simp only [Outcome.andThen_of_fault hfault]
    constructor
    · rw [hchanges, (hfirst a).entries]
    · rw [hchanges, (hfirst a).state]
  | none =>
    have hkept : ∀ slot ∈ first, slot.get (later (stage a).state).state =
        slot.get (stage a).state :=
      fun slot hslot ↦ (hsecond _).get_state (hapart slot hslot)
    have hkept' : ∀ slot ∈ changes first a (stage a).state,
        slot.get (later (stage a).state).state = slot.get (stage a).state :=
      fun slot hslot ↦ hkept slot (Slot.mem_of_mem_changes hslot)
    have hchanges : changes (first ++ second) a (later (stage a).state).state =
        changes first a (stage a).state ++
          changes second (stage a).state (later (stage a).state).state := by
      rw [Slot.changes_append, Slot.changes_congr (fun _ _ ↦ rfl) hkept,
        Slot.changes_congr hleft fun _ _ ↦ rfl]
    simp only [Outcome.andThen, hfault]
    constructor
    · simp only [hchanges, List.map_append, Slot.map_warning_congr hkept', ← (hfirst a).entries,
        ← (hsecond _).entries]
    · simp only [hchanges, Slot.overlay_append, Slot.overlay_congr hkept', (hfirst a).state,
        (hsecond _).state]

/-! ## Rules -/

namespace Rule

@[simp]
def isFill : Rule α ε → Bool
  | .fill _ _ _ => true
  | .need _ _ => false

/-- A rule fills a slot, whose value changes by it, and tells of it. -/
def Fills : Rule α ε → Slot α → Prop
  | .fill isMissing complete entry, slot => ∀ a, entry a = slot.warning a ∧
      (isMissing a = true → slot.get a ≠ slot.get (complete a) ∧
        slot.set (slot.get (complete a)) a = complete a)
  | .need _ _, _ => False

@[simp]
theorem fills_ofInt {isMissing : α → Bool} {complete : α → α} {entry : α → Log.Entry}
    {event : String} {subsystem : Option String} {key : String} {get : α → Int}
    {set : Int → α → α} :
    (fill isMissing complete entry : Rule α ε).Fills (.ofInt event subsystem key get set) ↔
      ∀ a, entry a = Slot.warning (.ofInt event subsystem key get set) a ∧ (isMissing a = true →
        get a ≠ get (complete a) ∧ set (get (complete a)) a = complete a) := by
  simp [Fills, Slot.ofInt]

@[simp]
theorem fills_ofText {isMissing : α → Bool} {complete : α → α} {entry : α → Log.Entry}
    {event : String} {subsystem : Option String} {key : String} {get : α → String}
    {set : String → α → α} :
    (fill isMissing complete entry : Rule α ε).Fills (.ofText event subsystem key get set) ↔
      ∀ a, entry a = Slot.warning (.ofText event subsystem key get set) a ∧ (isMissing a = true →
        get a ≠ get (complete a) ∧ set (get (complete a)) a = complete a) := by
  simp [Fills, Slot.ofText]

/-- The induction is on the rules: what the first one writes into its slot stays there, since the
others write into slots of their own. -/
theorem accounts_run {rules : List (Rule α ε)} {slots : List (Slot α)}
    (h : List.Forall₂ Fills (rules.filter isFill) slots) (hapart : slots.Pairwise Slot.Apart) :
    Accounts slots (run rules) := by
  intro a
  induction rules generalizing slots a with
  | nil =>
    cases h
    exact ⟨rfl, rfl⟩
  | cons rule rules ih =>
    cases rule with
    | need holds fault =>
      have hrest : List.Forall₂ Fills (rules.filter isFill) slots := by simpa [isFill] using h
      by_cases hholds : holds a = true
      · simpa [run, hholds] using ih hrest hapart a
      · simp only [run, if_neg hholds, Outcome.failed]
        constructor <;> simp
    | fill isMissing complete entry =>
      simp only [List.filter_cons, isFill, if_true] at h
      cases h with
      | @cons _ slot _ slots hslot hrest =>
        obtain ⟨hslots, hothers⟩ := List.pairwise_cons.mp hapart
        by_cases hmissing : isMissing a = true
        · obtain ⟨hne, hset⟩ := (hslot a).2 hmissing
          have hrun := ih hrest hothers (complete a)
          have hget : slot.get (run rules (complete a)).state = slot.get (complete a) :=
            hrun.get_state hslots
          have hleft : ∀ other ∈ slots, other.get a = other.get (complete a) := by
            intro other hother
            rw [← hset, (hslots other hother _ a).1]
          have hchanges : changes (slot :: slots) a (run rules (complete a)).state =
              slot :: changes slots (complete a) (run rules (complete a)).state := by
            rw [Slot.changes_cons_of_ne (hget ▸ hne), Slot.changes_congr hleft fun _ _ ↦ rfl]
          simp only [run, if_pos hmissing, Outcome.after]
          constructor
          · simp only [hchanges, List.map_cons, ← hrun.entries, (hslot _).1,
              Slot.warning_congr hget]
          · simp only [hchanges, Slot.overlay_cons, hget, hset, hrun.state]
        · have hrun := ih hrest hothers a
          have hget : slot.get (run rules a).state = slot.get a := hrun.get_state hslots
          have hchanges : changes (slot :: slots) a (run rules a).state =
              changes slots a (run rules a).state :=
            Slot.changes_cons_of_eq hget.symm
          simp only [run, if_neg hmissing]
          constructor
          · rw [hchanges, ← hrun.entries]
          · rw [hchanges, hrun.state]

end Rule

/-! ## Parts -/

namespace Slot

/-- A slot of a part as one of the whole. -/
def ofPart (part : Part α β δ) (slot : Slot β) : Slot α where
  event := slot.event
  subsystem := slot.subsystem
  key := slot.key
  get a := slot.get (part.get a)
  set scalar := part.lift (slot.set scalar)

variable {part : Part α β δ}

theorem overlay_ofPart (slots : List (Slot β)) (other a : α) :
    overlay (slots.map (ofPart part)) other a =
      part.put a (overlay slots (part.get other) (part.get a)) := by
  induction slots generalizing a with
  | nil => exact (part.put_get a).symm
  | cons slot slots ih =>
    rw [List.map_cons, overlay_cons, ih, overlay_cons]
    simp only [ofPart, Part.lift, part.get_put, part.put_put]

/-- Slots of different parts are apart. -/
theorem allApart_ofPart {γ ζ : Type} {other : Part α γ ζ}
    (hput : ∀ a b, other.get (part.put a b) = other.get a)
    (hput' : ∀ a c, part.get (other.put a c) = part.get a) (slots : List (Slot β))
    (others : List (Slot γ)) :
    AllApart (slots.map (ofPart part)) (others.map (ofPart other)) := by
  simp only [AllApart, List.forall_mem_map]
  intro slot _ slot' _ scalar a
  simp only [ofPart, Part.lift, hput, hput', and_self]

theorem changes_ofPart (slots : List (Slot β)) (before after : α) :
    changes (slots.map (ofPart part)) before after =
      (changes slots (part.get before) (part.get after)).map (ofPart part) :=
  List.filter_map ..

end Slot

theorem Part.accounts {part : Part α β δ} {wrap : δ → ε} {slots : List (Slot β)}
    (h : ∀ a, Accounts slots (part.pass a)) :
    Accounts (slots.map (Slot.ofPart part)) (part.stage wrap) := by
  intro a
  have hpass := h a (part.get a)
  have hchanges : changes (slots.map (Slot.ofPart part)) a
      (part.put a (part.pass a (part.get a)).state) =
      (changes slots (part.get a) (part.pass a (part.get a)).state).map (Slot.ofPart part) := by
    rw [Slot.changes_ofPart, part.get_put]
  constructor
  · simp only [stage, Outcome.within, hchanges, hpass.entries, List.map_map]
    apply List.map_congr_left
    intro slot _
    simp only [Function.comp_apply, Slot.warning, Slot.ofPart, part.get_put]
  · simp only [stage, Outcome.within, hchanges, Slot.overlay_ofPart, part.get_put, hpass.state]

/-! ## Reading the warnings -/

namespace Slot

/-- A warning is on a slot. -/
def tells (slot : Slot α) (entry : Log.Entry) : Bool :=
  entry.event.text? = some slot.event ∧
    (entry.fields.lookup "subsystem").bind Value.text? = slot.subsystem

/-- The value that a warning carries. -/
def told? (slot : Slot α) (entry : Log.Entry) : Option Scalar :=
  (entry.fields.lookup slot.key).bind Scalar.ofValue?

/-- Writes what an entry tells into the slot that it is on, if there is one. -/
def replay (slots : List (Slot α)) (a : α) (entry : Log.Entry) : α :=
  match slots.find? (·.tells entry) with
  | some slot => ((slot.told? entry).map (slot.set · a)).getD a
  | none => a

/-- Slots that can be told from each other by the warnings about them. -/
structure Legible (slots : List (Slot α)) : Prop where
  keys : ∀ slot ∈ slots, slot.key ≠ "subsystem"
  events : (slots.map fun slot ↦ (slot.event, slot.subsystem)).Nodup

variable {slots : List (Slot α)} {slot other : Slot α}

theorem tells_warning (hkey : other.key ≠ "subsystem") (a : α) :
    slot.tells (other.warning a) = true ↔
      other.event = slot.event ∧ other.subsystem = slot.subsystem := by
  have hne : ("subsystem" == other.key) = false := by simpa using hkey.symm
  cases hsubsystem : other.subsystem <;>
    simp [tells, warning, Log.Entry.warning, hsubsystem, List.lookup_cons, hne]

theorem told?_warning (hkey : slot.key ≠ "subsystem") (a : α) :
    slot.told? (slot.warning a) = some (slot.get a) := by
  have hne : (slot.key == "subsystem") = false := by simpa using hkey
  cases hsubsystem : slot.subsystem <;>
    simp [told?, warning, Log.Entry.warning, hsubsystem, List.lookup_cons, hne]

theorem Legible.eq_of_tells (h : Legible slots) (hslot : slot ∈ slots) (hother : other ∈ slots)
    {a : α} (htells : slot.tells (other.warning a) = true) : slot = other := by
  obtain ⟨hevent, hsubsystem⟩ := (tells_warning (h.keys other hother) a).mp htells
  apply List.inj_on_of_nodup_map h.events hslot hother
  rw [hevent, hsubsystem]

theorem replay_warning (h : Legible slots) (hslot : slot ∈ slots) (other a : α) :
    replay slots a (slot.warning other) = slot.set (slot.get other) a := by
  have htells : slot.tells (slot.warning other) = true :=
    (tells_warning (h.keys slot hslot) other).mpr ⟨rfl, rfl⟩
  have hfind : slots.find? (·.tells (slot.warning other)) = some slot := by
    cases hfound : slots.find? (·.tells (slot.warning other)) with
    | none => exact absurd htells (List.find?_eq_none.mp hfound slot hslot)
    | some found =>
      have hsame := List.find?_some hfound
      rw [h.eq_of_tells (List.mem_of_find?_eq_some hfound) hslot hsame]
  rw [replay, hfind]
  simp [told?_warning (h.keys slot hslot)]

theorem foldl_replay (h : Legible slots) {told : List (Slot α)} (htold : told ⊆ slots)
    (other a : α) : (told.map (·.warning other)).foldl (replay slots) a = overlay told other a := by
  induction told generalizing a with
  | nil => rfl
  | cons slot told ih =>
    obtain ⟨hslot, hrest⟩ := List.cons_subset.mp htold
    rw [List.map_cons, List.foldl_cons, replay_warning h hslot, ih hrest, overlay_cons]

/-- No other slot is taken for a slot. -/
theorem filter_tells_warning (h : Legible slots) (hslot : slot ∈ slots) (a : α) :
    slots.filter (fun other ↦ slot.tells (other.warning a)) = [slot] := by
  have hself : slot.tells (slot.warning a) = true :=
    (tells_warning (h.keys slot hslot) a).mpr ⟨rfl, rfl⟩
  have hothers : ∀ other ∈ slots, slot.tells (other.warning a) = true → other = slot :=
    fun other hother htells ↦ (h.eq_of_tells hslot hother htells).symm
  have hnodup : slots.Nodup := List.Nodup.of_map _ h.events
  obtain ⟨before, after, rfl⟩ := List.append_of_mem hslot
  have hapart : slot ∉ before ∧ slot ∉ after := by
    simp only [List.nodup_append, List.nodup_cons] at hnodup
    exact ⟨fun hmem ↦ hnodup.2.2 slot hmem slot (List.mem_cons_self ..) rfl, hnodup.2.1.1⟩
  have hbefore : before.filter (fun other ↦ slot.tells (other.warning a)) = [] := by
    apply List.filter_eq_nil_iff.mpr
    intro other hother htells
    exact hapart.1 (hothers other (List.mem_append_left _ hother) htells ▸ hother)
  have hafter : after.filter (fun other ↦ slot.tells (other.warning a)) = [] := by
    apply List.filter_eq_nil_iff.mpr
    intro other hother htells
    have hmem := List.mem_append_right before (List.mem_cons_of_mem slot hother)
    exact hapart.2 (hothers other hmem htells ▸ hother)
  rw [List.filter_append, List.filter_cons, if_pos hself, hbefore, hafter, List.nil_append]

/-- There is one warning on a slot if it changed, and none if not. -/
theorem filter_tells (h : Legible slots) (hslot : slot ∈ slots) (before after : α) :
    ((changes slots before after).map (·.warning after)).filter slot.tells =
      if slot.get before = slot.get after then [] else [slot.warning after] := by
  have hcomm : (changes slots before after).filter (slot.tells ∘ (·.warning after)) =
      changes [slot] before after := by
    rw [changes, List.filter_comm]
    exact congrArg (List.filter _) (filter_tells_warning h hslot after)
  rw [List.filter_map, hcomm]
  by_cases heq : slot.get before = slot.get after <;> simp [changes, heq]

end Slot

namespace Accounts

open Slot (replay)

variable {slots : List (Slot α)} {stage : α → Outcome α ε}

/-- Writing what the entries of a stage tell into the state that it began with gives the state that
it left. -/
theorem foldl_replay (h : Accounts slots stage) (hlegible : Slot.Legible slots) (a : α) :
    (stage a).entries.foldl (replay slots) a = (stage a).state := by
  rw [(h a).entries, Slot.foldl_replay hlegible fun _ ↦ Slot.mem_of_mem_changes, (h a).state]

end Accounts

end ServiceBoot
