import Mathlib.Data.List.Pairwise
import ServiceBoot.Proofs.Document.Field

/-!
# Looking up fields

What an object gives for a field that has two spellings, and what becomes of it when a member is
inserted or assigned to.
-/

namespace ServiceBoot

namespace Json.Members

def names (members : Members) : List String := members.map (·.1)

@[simp]
theorem names_cons (name : String) (value : Value) (members : Members) :
    names ((name, value) :: members) = name :: names members := rfl

@[simp]
theorem names_append (before after : Members) :
    names (before ++ after) = names before ++ names after := List.map_append

theorem last?_append (before after : Members) (name : String) :
    Members.last? (before ++ after) name = (after.last? name).or (before.last? name) := by
  induction before with
  | nil => simp
  | cons member before ih =>
    rw [List.cons_append, last?_cons, last?_cons, ih, Option.or_assoc]

theorem last?_eq_none_iff {members : Members} {name : String} :
    members.last? name = none ↔ name ∉ members.names := by
  induction members with
  | nil => simp [names]
  | cons member members ih =>
    rw [last?_cons, Option.or_eq_none_iff, ih, names_cons, List.mem_cons]
    simp [eq_comm, and_comm]

theorem exists_last?_of_mem {members : Members} {name : String} (h : name ∈ members.names) :
    ∃ value, members.last? name = some value := by
  cases hlast : members.last? name with
  | none => exact absurd h (last?_eq_none_iff.mp hlast)
  | some value => exact ⟨value, rfl⟩

theorem last?_eq_some_iff {members : Members} {name : String} {value : Value} :
    members.last? name = some value ↔
      ∃ before after : Members,
        members = before ++ (name, value) :: after ∧ name ∉ after.names := by
  constructor
  · intro h
    induction members with
    | nil => cases h
    | cons member members ih =>
      rw [last?_cons] at h
      rcases Option.or_eq_some_iff.mp h with hlater | ⟨hnone, hfirst⟩
      · obtain ⟨before, after, rfl, hafter⟩ := ih hlater
        exact ⟨member :: before, after, rfl, hafter⟩
      · split at hfirst
        · rename_i hname
          cases hfirst
          exact ⟨[], members, by rw [← hname]; rfl, last?_eq_none_iff.mp hnone⟩
        · cases hfirst
  · rintro ⟨before, after, rfl, hafter⟩
    simp [last?_append, last?_eq_none_iff.mpr hafter]

/-! ## Members that are inserted or assigned to -/

section

variable {before after : Members} {name key : String} {value : Value}

/-- A member makes no difference to other names. -/
theorem last?_insert_of_ne (h : name ≠ key) :
    Members.last? (before ++ (name, value) :: after) key = Members.last? (before ++ after) key := by
  simp [last?_append, h]

/-- Nor does it if a later one has its name. -/
theorem last?_insert_of_mem (h : name ∈ after.names) (key : String) :
    Members.last? (before ++ (name, value) :: after) key = Members.last? (before ++ after) key := by
  by_cases hkey : name = key
  · subst hkey
    obtain ⟨later, hlast⟩ := exists_last?_of_mem h
    simp [last?_append, hlast]
  · exact last?_insert_of_ne hkey

end

/-- The members as they are, but for the value that counts for one name. -/
def Assigns (members : Members) (name : String) (value : Value) (result : Members) : Prop :=
  ∀ key, result.last? key = if key = name then some value else members.last? key

theorem assigns_member {before after : Members} {name : String} (old new : Value)
    (h : name ∉ after.names) :
    Assigns (before ++ (name, old) :: after) name new (before ++ (name, new) :: after) := by
  intro key
  rw [last?_append, last?_append, last?_cons, last?_cons]
  by_cases hkey : key = name
  · subst hkey
    simp [last?_eq_none_iff.mpr h]
  · simp [hkey, Ne.symm hkey]

theorem assigns_insert {before after : Members} {name : String} (new : Value)
    (h : name ∉ after.names) :
    Assigns (before ++ after) name new (before ++ (name, new) :: after) := by
  intro key
  rw [last?_append, last?_append, last?_cons]
  by_cases hkey : key = name
  · subst hkey
    simp [last?_eq_none_iff.mpr h]
  · simp [hkey, Ne.symm hkey]

end Json.Members

namespace Document

open Json (Value Members)

/-- A field without a default must not be left out. -/
structure Field (σ : Type) where
  camel : String
  snake : String
  shape : σ
  default? : Option Value := none

namespace Field

variable {σ : Type}

def spellings (field : Field σ) : List String := [field.camel, field.snake]

/-- What an object gives for a field: the last member under the first spelling, or else the last one
under the second. -/
def given? (field : Field σ) (members : Members) : Option Found :=
  match members.last? field.camel with
  | some value => some ⟨field.camel, value⟩
  | none => (members.last? field.snake).map fun value ↦ ⟨field.snake, value⟩

/-- No key could belong to both fields. -/
def Apart (first second : Field σ) : Prop :=
  ∀ name ∈ first.spellings, name ∉ second.spellings

instance (first second : Field σ) : Decidable (first.Apart second) :=
  inferInstanceAs (Decidable (∀ name ∈ first.spellings, name ∉ second.spellings))

instance : Std.Symm (Apart (σ := σ)) :=
  ⟨fun _ _ h name hsecond hfirst ↦ h name hfirst hsecond⟩

theorem snake_of_ne {field : Field σ} {name : String} (hname : name ∈ field.spellings)
    (hne : field.camel ≠ name) : field.snake = name := by
  simp only [spellings, List.mem_cons, List.not_mem_nil, or_false] at hname
  exact (hname.resolve_left (Ne.symm hne)).symm

theorem key_of_given? {field : Field σ} {members : Members} {found : Found}
    (h : field.given? members = some found) : found.key ∈ field.spellings := by
  unfold given? at h
  split at h
  · cases h
    simp [spellings]
  · obtain ⟨value, -, rfl⟩ := Option.map_eq_some_iff.mp h
    simp [spellings]

theorem given?_of_camel {field : Field σ} {members : Members} {value : Value}
    (h : members.last? field.camel = some value) :
    field.given? members = some ⟨field.camel, value⟩ := by
  rw [given?, h]

theorem given?_eq_none_iff {field : Field σ} {members : Members} :
    field.given? members = none ↔ field.camel ∉ members.names ∧ field.snake ∉ members.names := by
  unfold given?
  split
  · rename_i value h
    simp [← Members.last?_eq_none_iff, h]
  · rename_i h
    simp [← Members.last?_eq_none_iff, h]

theorem not_mem_of_given? {field : Field σ} {members : Members} {name : String}
    (h : field.given? members = none) (hname : name ∈ field.spellings) : name ∉ members.names := by
  obtain ⟨hcamel, hsnake⟩ := given?_eq_none_iff.mp h
  by_cases hc : field.camel = name
  · exact hc ▸ hcamel
  · exact snake_of_ne hname hc ▸ hsnake

theorem given?_congr {field : Field σ} {members members' : Members}
    (h : ∀ name ∈ field.spellings, members'.last? name = members.last? name) :
    field.given? members' = field.given? members := by
  rw [given?, given?, h field.camel (by simp [spellings]), h field.snake (by simp [spellings])]

theorem key_of_not_mem {field : Field σ} {members : Members} (h : field.camel ∉ members.names) :
    ∀ found ∈ field.given? members, found.key = field.snake := by
  intro found hfound
  rw [given?, Members.last?_eq_none_iff.mpr h] at hfound
  obtain ⟨value, -, rfl⟩ := Option.map_eq_some_iff.mp hfound
  rfl

theorem last?_of_given? {field : Field σ} {members : Members} {found : Found}
    (h : field.given? members = some found) :
    members.last? found.key = some found.value := by
  unfold given? at h
  split at h
  · cases h
    assumption
  · obtain ⟨value, hvalue, rfl⟩ := Option.map_eq_some_iff.mp h
    exact hvalue

section

variable {field : Field σ} {members result : Members} {name : String} {value : Value}

theorem given?_of_assigns_other (h : members.Assigns name value result)
    (hname : name ∉ field.spellings) : field.given? result = field.given? members := by
  apply given?_congr
  intro key hkey
  rw [h, if_neg]
  rintro rfl
  exact hname hkey

/-- What is assigned under the spelling that was found, or to a field that was not given, is what
the field is given. -/
theorem given?_of_assigns (h : members.Assigns name value result) (hname : name ∈ field.spellings)
    (hfound : ∀ found ∈ field.given? members, found.key = name) :
    field.given? result = some ⟨name, value⟩ := by
  have hcamel := h field.camel
  have hsnake := h field.snake
  by_cases hc : field.camel = name
  · rw [if_pos hc] at hcamel
    rw [given?, hcamel, hc]
  · have hs := snake_of_ne hname hc
    rw [if_neg hc] at hcamel
    rw [if_pos hs] at hsnake
    cases hlast : members.last? field.camel with
    | none => rw [given?, hcamel, hlast, hsnake, hs, Option.map_some]
    | some old =>
      exact absurd (hfound _ (given?_of_camel hlast)) hc

/-- A member is what its field is given, or it makes no difference what it holds. -/
theorem given?_member {before after : Members} (hname : name ∈ field.spellings)
    (old new : Value) :
    (field.given? (before ++ (name, old) :: after) = some ⟨name, old⟩ ∧
        field.given? (before ++ (name, new) :: after) = some ⟨name, new⟩) ∨
      field.given? (before ++ (name, new) :: after) =
        field.given? (before ++ (name, old) :: after) := by
  by_cases hafter : name ∈ after.names
  · right
    apply given?_congr
    intro key _
    rw [Members.last?_insert_of_mem hafter, Members.last?_insert_of_mem hafter]
  · have hold : Members.Assigns (before ++ after) _ _ _ := Members.assigns_insert old hafter
    have hnew : Members.Assigns (before ++ after) _ _ _ := Members.assigns_insert new hafter
    by_cases hcamel : field.camel = name
    · subst hcamel
      left
      exact ⟨given?_of_camel (by rw [hold, if_pos rfl]), given?_of_camel (by rw [hnew, if_pos rfl])⟩
    · have hsnake := snake_of_ne hname hcamel
      cases hlast : Members.last? (before ++ after) field.camel with
      | none =>
        have hkey : ∀ found ∈ field.given? (before ++ after), found.key = name := by
          rw [← hsnake]
          exact key_of_not_mem (Members.last?_eq_none_iff.mp hlast)
        left
        exact ⟨given?_of_assigns hold hname hkey, given?_of_assigns hnew hname hkey⟩
      | some value =>
        have hsame (result : Members) {other : Value} (h : Members.Assigns _ name other result) :
            field.given? result = some ⟨field.camel, value⟩ :=
          given?_of_camel (by rw [h, if_neg hcamel, hlast])
        right
        rw [hsame _ hnew, hsame _ hold]

end

end Field

end Document

end ServiceBoot
