import ServiceBoot.Document.Field
import ServiceBoot.Document.Rejection

/-!
# Fields that are accepted

What an accepted part of a document says about its values: an accepted field holds its default or
what its check has let through, and the checks of levels and endpoints let through what they would
let through again.
-/

namespace ServiceBoot

theorem Json.Members.foldl_last (members : Json.Members) (name : String)
    (found : Option Json.Value) :
    members.foldl (fun found member ↦ if member.1 = name then some member.2 else found) found =
      (members.last? name).or found := by
  induction members generalizing found with
  | nil => rfl
  | cons member members ih =>
    rw [last?, List.foldl_cons, List.foldl_cons, ih, ih (if member.1 = name then _ else none),
      Option.or_assoc]
    by_cases h : member.1 = name <;> simp [h]

/-- The last member of a name is among the later ones, if any of these has it. -/
@[simp]
theorem Json.Members.last?_cons (members : Json.Members) (name key : String)
    (value : Json.Value) : Json.Members.last? ((key, value) :: members) name =
      (members.last? name).or (if key = name then some value else none) :=
  foldl_last members name _

theorem Json.Members.mem_of_last? {members : Json.Members} {name : String} {value : Json.Value}
    (h : members.last? name = some value) : (name, value) ∈ members := by
  induction members with
  | nil => cases h
  | cons member members ih =>
    rw [last?_cons] at h
    rcases Option.or_eq_some_iff.mp h with hrest | ⟨-, hfirst⟩
    · exact List.mem_cons_of_mem _ (ih hrest)
    · split at hfirst
      · rename_i hname
        cases hfirst
        exact hname ▸ List.mem_cons_self ..
      · cases hfirst

namespace Document

open Json (Value Members)

variable {α β : Type}

/-! ## Accepted parts -/

theorem map_eq_accepted {f : α → β} {x : Checked α} {b : β} :
    f <$> x = .accepted b ↔ ∃ a, x = .accepted a ∧ f a = b := by
  cases x <;> simp [Functor.map, Checked.map]

theorem seq_eq_accepted {f : Checked (α → β)} {x : Checked α} {b : β} :
    f <*> x = .accepted b ↔ ∃ g a, f = .accepted g ∧ x = .accepted a ∧ g a = b := by
  cases f <;> cases x <;> simp [Seq.seq, Checked.apply, Checked.map]

@[simp]
theorem map_accepted (f : α → β) (a : α) : f <$> Checked.accepted a = .accepted (f a) := rfl

@[simp]
theorem accepted_seq (f : α → β) (a : α) :
    (Checked.accepted f <*> Checked.accepted a : Checked β) = .accepted (f a) := rfl

@[simp]
theorem under_accepted (step : Step) (a : α) :
    (Checked.accepted a).under step = .accepted a := rfl

theorem under_eq_accepted {step : Step} {x : Checked α} {a : α} :
    x.under step = .accepted a ↔ x = .accepted a := by
  cases x <;> simp [Checked.under]

theorem bind_eq_accepted {x : Checked α} {f : α → Checked β} {b : β} :
    x.bind f = .accepted b ↔ ∃ a, x = .accepted a ∧ f a = .accepted b := by
  cases x <;> simp [Checked.bind]

/-! ## Fields -/

section Fields

variable {members : Members} {key : String} {check : Value → Checked α} {a default : α}

theorem mem_of_find? {found : Found} (h : find? members key = some found) :
    (found.key, found.value) ∈ members := by
  unfold find? at h
  cases hcamel : members.last? key with
  | some value =>
    rw [hcamel] at h
    cases h
    exact Members.mem_of_last? hcamel
  | none =>
    rw [hcamel] at h
    obtain ⟨value, hsnake, rfl⟩ := Option.map_eq_some_iff.mp h
    exact Members.mem_of_last? hsnake

theorem check_of_mandatory (h : mandatory members key check = .accepted a) :
    ∃ member ∈ members, check member.2 = .accepted a := by
  unfold mandatory at h
  cases hfind : find? members key with
  | none => simp [hfind] at h
  | some found =>
    rw [hfind] at h
    exact ⟨_, mem_of_find? hfind, under_eq_accepted.mp h⟩

theorem check_of_defaulted (h : defaulted members key default check = .accepted a) :
    a = default ∨ ∃ member ∈ members, check member.2 = .accepted a := by
  unfold defaulted at h
  cases hfind : find? members key with
  | none =>
    rw [hfind] at h
    exact .inl (Checked.accepted.inj h).symm
  | some found =>
    rw [hfind] at h
    exact .inr ⟨_, mem_of_find? hfind, under_eq_accepted.mp h⟩

end Fields

/-! ## Checked values -/

theorem textsFrom_map_str (position : Nat) (values : List String) :
    textsFrom position (values.map .str) = .accepted values := by
  induction values generalizing position with
  | nil => rfl
  | cons value values ih =>
    simp only [List.map_cons, textsFrom, text, ih]
    rfl

theorem levelText_name (level : Log.Level) :
    levelText (.str level.name) = .accepted level.name := by
  have hname : Log.Level.ofName? (Log.Level.normalName level.name) = some level := by
    cases level <;> decide +kernel
  simp [levelText, Document.text, Checked.bind, Log.Level.ofText, hname]

theorem levelText_eq_accepted_iff {value : Value} {name : String} :
    levelText value = .accepted name ↔
      ∃ given level, value = .str given ∧ Log.Level.ofText given = .ok level ∧
        level.name = name := by
  cases value with
  | str given =>
    cases hlevel : Log.Level.ofText given <;>
      simp [levelText, Document.text, Checked.bind, hlevel, complain]
  | _ => simp [levelText, Document.text, Checked.bind, complain]

theorem endpointText_of_ok {text : String} {endpoint : Endpoint}
    (h : Endpoint.ofText text = .ok endpoint) :
    endpointText (.str text) = .accepted text := by
  simp [endpointText, Document.text, Checked.bind, h]

theorem ofText_of_endpointText {value : Value} {text : String}
    (h : endpointText value = .accepted text) : ∃ endpoint, Endpoint.ofText text = .ok endpoint := by
  obtain ⟨given, -, h⟩ := bind_eq_accepted.mp h
  cases hendpoint : Endpoint.ofText given with
  | error fault => simp [hendpoint, complain] at h
  | ok endpoint =>
    rw [hendpoint] at h
    exact ⟨endpoint, Checked.accepted.inj h ▸ hendpoint⟩

theorem check_of_block {check : Members → Checked α} {value : Value} {a : α}
    (h : block check value = .accepted a) :
    ∃ members, value = .object members ∧ check members = .accepted a := by
  cases value with
  | object members => exact ⟨members, rfl, h⟩
  | _ => cases h

theorem read_eq_ok [Json.Limits] {check : Value → Checked α} {bytes : Bytes} {a : α} :
    read check bytes = .ok a ↔
      ∃ value, Json.read bytes = .ok value ∧ check value = .accepted a := by
  unfold read
  cases Json.read bytes with
  | error error => simp
  | ok value => cases hcheck : check value <;> simp [hcheck]

end Document

end ServiceBoot
