import Mathlib.Logic.Relation
import ServiceBoot.Proofs.Document.Check

/-!
# Changes of presentation

Changes of a document that leave alone what it gives for each field: the order of its members, what
nothing is read from, and which of two spellings is used. A check answers the same before and after
them, up to the spelling of keys in places.
-/

namespace ServiceBoot.Document

open Json (Value Members)

/-- A place with keys that may have been renamed under their first spellings. What may be renamed is
told by the first spellings of the keys that lead there. -/
def respell : List Step → Shape → (List String → Bool) → List Step
  | .key name :: place, .block fields, renamed =>
    match fields.find? fun field ↦ name ∈ field.spellings with
    | some field =>
      .key (if renamed [field.camel] then field.camel else name) ::
        respell place field.shape fun path ↦ renamed (field.camel :: path)
    | none => .key name :: place
  | place, _, _ => place

/-- One change, anywhere in a document. A member is renamed only if it decides under its new name
just if it did under its old one. -/
inductive Change : (List String → Bool) → Shape → Value → Value → Prop
  | swapped {renamed : List String → Bool} {fields : List (Field Shape)} {before after : Members}
      {first second : String × Value} (h : first.1 ≠ second.1) :
      Change renamed (.block fields) (.object (before ++ first :: second :: after))
        (.object (before ++ second :: first :: after))
  | unknown {renamed : List String → Bool} {fields : List (Field Shape)} {before after : Members}
      {name : String} {value : Value} (h : ∀ field ∈ fields, name ∉ field.spellings) :
      Change renamed (.block fields) (.object (before ++ after))
        (.object (before ++ (name, value) :: after))
  | toSnake {renamed : List String → Bool} {fields : List (Field Shape)} {field : Field Shape}
      {before after : Members} {value : Value} (hfield : field ∈ fields)
      (hrenamed : renamed [field.camel] = true) (habsent : field.snake ∉ (before ++ after).names)
      (hdecides : field.camel ∈ before.names → field.camel ∈ after.names) :
      Change renamed (.block fields) (.object (before ++ (field.camel, value) :: after))
        (.object (before ++ (field.snake, value) :: after))
  | toCamel {renamed : List String → Bool} {fields : List (Field Shape)} {field : Field Shape}
      {before after : Members} {value : Value} (hfield : field ∈ fields)
      (hrenamed : renamed [field.camel] = true) (habsent : field.camel ∉ (before ++ after).names)
      (hdecides : field.snake ∉ after.names) :
      Change renamed (.block fields) (.object (before ++ (field.snake, value) :: after))
        (.object (before ++ (field.camel, value) :: after))
  | overridden {renamed : List String → Bool} {fields : List (Field Shape)} {field : Field Shape}
      {before after : Members} {value : Value} (hfield : field ∈ fields)
      (hne : field.snake ≠ field.camel) (hgiven : field.camel ∈ (before ++ after).names) :
      Change renamed (.block fields) (.object (before ++ after))
        (.object (before ++ (field.snake, value) :: after))
  | repeated {renamed : List String → Bool} {fields : List (Field Shape)} {before after : Members}
      {name : String} {value : Value} (h : name ∈ after.names) :
      Change renamed (.block fields) (.object (before ++ after))
        (.object (before ++ (name, value) :: after))
  | inside {renamed : List String → Bool} {fields : List (Field Shape)} {field : Field Shape}
      {before after : Members} {name : String} {old new : Value} (hfield : field ∈ fields)
      (hname : name ∈ field.spellings)
      (h : Change (fun path ↦ renamed (field.camel :: path)) field.shape old new) :
      Change renamed (.block fields) (.object (before ++ (name, old) :: after))
        (.object (before ++ (name, new) :: after))

/-! ## Respelled results -/

def Violation.relocate (f : List Step → List Step) (violation : Violation) : Violation :=
  { violation with place := f violation.place }

def Checked.relocate {α : Type} (f : List Step → List Step) : Checked α → Checked α
  | .accepted a => .accepted a
  | .rejected first others => .rejected (first.relocate f) (others.map (·.relocate f))

section

variable {α β : Type} {f : List Step → List Step}

theorem relocate_fmap (g : α → β) (x : Checked α) : (g <$> x).relocate f = g <$> x.relocate f := by
  cases x <;> rfl

theorem relocate_seq (g : Checked (α → β)) (x : Checked α) :
    (g <*> x).relocate f = g.relocate f <*> x.relocate f := by
  cases g <;> cases x <;>
    simp [Seq.seq, Checked.apply, Checked.map, Checked.relocate, Checked.violations]

/-- Places below a step are moved together with it. -/
theorem relocate_under {g : List Step → List Step} {step step' : Step}
    (h : ∀ place, f (step :: place) = step' :: g place) (x : Checked α) :
    (x.under step).relocate f = (x.relocate g).under step' := by
  have hviolation (violation : Violation) :
      (violation.under step).relocate f = (violation.relocate g).under step' := by
    simp [Violation.under, Violation.relocate, h]
  cases x with
  | accepted a => rfl
  | rejected first others => simp [Checked.under, Checked.relocate, hviolation]

end

variable {fields : List (Field Shape)} {field : Field Shape} {members members' : Members}
  {renamed : List String → Bool}

theorem relocate_checkMembers {f : List Step → List Step}
    (h : ∀ field ∈ fields,
      (checkMember field members).relocate f = (checkMember field members').relocate f) :
    (checkMembers fields members).relocate f = (checkMembers fields members').relocate f := by
  induction fields with
  | nil => rfl
  | cons field fields ih =>
    obtain ⟨hfield, hfields⟩ := List.forall_mem_cons.mp h
    rw [checkMembers, checkMembers, relocate_seq, relocate_seq, relocate_fmap, relocate_fmap,
      hfield, ih hfields]

theorem respell_key (hapart : fields.Pairwise Field.Apart) (hfield : field ∈ fields)
    {name : String} (hname : name ∈ field.spellings) (place : List Step) :
    respell (.key name :: place) (.block fields) renamed =
      .key (if renamed [field.camel] then field.camel else name) ::
        respell place field.shape fun path ↦ renamed (field.camel :: path) := by
  have hfind : fields.find? (fun field ↦ name ∈ field.spellings) = some field := by
    apply find?_of_unique hfield (by simpa using hname)
    intro other hother hspelled
    exact eq_of_spelling hapart hother hfield (of_decide_eq_true hspelled) hname
  rw [respell, hfind]

/-- What is found for a field is checked inside, and its place is respelled. -/
theorem relocate_checkMember (hapart : fields.Pairwise Field.Apart) (hfield : field ∈ fields)
    {found : Found} (h : field.given? members = some found) :
    (checkMember field members).relocate (respell · (.block fields) renamed) =
      (field.camel, ·) <$> ((field.shape.check found.value).relocate
          (respell · field.shape fun path ↦ renamed (field.camel :: path))).under
        (.key (if renamed [field.camel] then field.camel else found.key)) := by
  rw [checkMember_of_given h, relocate_fmap,
    relocate_under (respell_key hapart hfield (Field.key_of_given? h))]

/-! ## One change -/

theorem relocate_check_of_given {f : List Step → List Step}
    (h : ∀ field ∈ fields, field.given? members' = field.given? members) :
    ((Shape.block fields).check (.object members)).relocate f =
      ((Shape.block fields).check (.object members')).relocate f := by
  rw [Shape.check, Shape.check,
    checkMembers_congr fun field hfield ↦ checkMember_congr (h field hfield)]

/-- What is given for one field alone is another. -/
theorem relocate_check_of_field {f : List Step → List Step}
    (hothers : ∀ other ∈ fields, other ≠ field → other.given? members' = other.given? members)
    (h : (checkMember field members).relocate f = (checkMember field members').relocate f) :
    ((Shape.block fields).check (.object members)).relocate f =
      ((Shape.block fields).check (.object members')).relocate f := by
  rw [Shape.check, Shape.check, relocate_fmap, relocate_fmap, relocate_checkMembers]
  intro other hother
  by_cases heq : other = field
  · rw [heq, h]
  · rw [checkMember_congr (hothers other hother heq)]

/-- A member is found under another spelling. -/
theorem relocate_checkMember_of_renamed (hapart : fields.Pairwise Field.Apart)
    (hfield : field ∈ fields) (hrenamed : renamed [field.camel] = true) {name name' : String}
    {value : Value} (h : field.given? members = some ⟨name, value⟩)
    (h' : field.given? members' = some ⟨name', value⟩) :
    (checkMember field members).relocate (respell · (.block fields) renamed) =
      (checkMember field members').relocate (respell · (.block fields) renamed) := by
  rw [relocate_checkMember hapart hfield h, relocate_checkMember hapart hfield h', if_pos hrenamed,
    if_pos hrenamed]

variable {before after : Members} {name : String} {value : Value}

/-- What a key leads to does not depend on the order of members under different keys. -/
theorem last?_swapped {first second : String × Value} (h : first.1 ≠ second.1) (key : String) :
    (before ++ second :: first :: after).last? key =
      (before ++ first :: second :: after).last? key := by
  obtain ⟨name, value⟩ := first
  obtain ⟨name', value'⟩ := second
  by_cases hkey : name = key
  · have hkey' : name' ≠ key := fun heq ↦ h (hkey.trans heq.symm)
    simp [Members.last?_append, hkey']
  · simp [Members.last?_append, hkey]

/-- A member under a key of no field is given for none. -/
theorem given?_insert_of_not_mem (h : name ∉ field.spellings) :
    field.given? (before ++ (name, value) :: after) = field.given? (before ++ after) := by
  apply Field.given?_congr
  intro key hkey
  apply Members.last?_insert_of_ne
  rintro rfl
  exact h hkey

/-- A second spelling counts only where the first one is absent. -/
theorem given?_insert_snake (hne : field.snake ≠ field.camel)
    (hgiven : field.camel ∈ (before ++ after).names) :
    field.given? (before ++ (field.snake, value) :: after) = field.given? (before ++ after) := by
  obtain ⟨decisive, hlast⟩ := Members.exists_last?_of_mem hgiven
  rw [Field.given?_of_camel hlast, Field.given?_of_camel]
  rw [Members.last?_insert_of_ne hne, hlast]

theorem relocate_check_of_toSnake (hapart : fields.Pairwise Field.Apart) (hfield : field ∈ fields)
    (hrenamed : renamed [field.camel] = true) (habsent : field.snake ∉ (before ++ after).names)
    (hdecides : field.camel ∈ before.names → field.camel ∈ after.names) :
    ((Shape.block fields).check (.object (before ++ (field.camel, value) :: after))).relocate
        (respell · (.block fields) renamed) =
      ((Shape.block fields).check (.object (before ++ (field.snake, value) :: after))).relocate
        (respell · (.block fields) renamed) := by
  have hcamel : field.camel ∈ field.spellings := by simp [Field.spellings]
  have hsnake : field.snake ∈ field.spellings := by simp [Field.spellings]
  apply relocate_check_of_field (given?_of_other hapart hfield hcamel hsnake)
  simp only [Members.names_append, List.mem_append, not_or] at habsent
  -- Either a later member decides under the first spelling, or this one does under both.
  by_cases hafter : field.camel ∈ after.names
  · obtain ⟨later, hlater⟩ := Members.exists_last?_of_mem hafter
    have hsame (name : String) : field.given? (before ++ (name, value) :: after) =
        some ⟨field.camel, later⟩ :=
      Field.given?_of_camel (by simp [Members.last?_append, hlater])
    rw [checkMember_congr ((hsame field.camel).trans (hsame field.snake).symm)]
  · have hbefore : field.camel ∉ before.names := fun h ↦ hafter (hdecides h)
    have hnone : field.given? (before ++ after) = none := by
      simp [Field.given?_eq_none_iff, hbefore, hafter, habsent]
    apply relocate_checkMember_of_renamed hapart hfield hrenamed
    · apply Field.given?_of_assigns (Members.assigns_insert value hafter) hcamel
      simp [hnone]
    · apply Field.given?_of_assigns (Members.assigns_insert value habsent.2) hsnake
      simp [hnone]

theorem relocate_check_of_toCamel (hapart : fields.Pairwise Field.Apart) (hfield : field ∈ fields)
    (hrenamed : renamed [field.camel] = true) (habsent : field.camel ∉ (before ++ after).names)
    (hdecides : field.snake ∉ after.names) :
    ((Shape.block fields).check (.object (before ++ (field.snake, value) :: after))).relocate
        (respell · (.block fields) renamed) =
      ((Shape.block fields).check (.object (before ++ (field.camel, value) :: after))).relocate
        (respell · (.block fields) renamed) := by
  have hcamel : field.camel ∈ field.spellings := by simp [Field.spellings]
  have hsnake : field.snake ∈ field.spellings := by simp [Field.spellings]
  apply relocate_check_of_field (given?_of_other hapart hfield hsnake hcamel)
  simp only [Members.names_append, List.mem_append, not_or] at habsent
  apply relocate_checkMember_of_renamed hapart hfield hrenamed
  · apply Field.given?_of_assigns (Members.assigns_insert value hdecides) hsnake
    apply Field.key_of_not_mem
    simp [habsent]
  · apply Field.given?_of_camel
    simp [Members.last?_append, Members.last?_eq_none_iff.mpr habsent.2]

/-- A check answers the same before and after a change, up to the spelling of renamed keys. -/
theorem relocate_check_of_change {shape : Shape} {value value' : Value} (hdistinct : shape.Distinct)
    (h : Change renamed shape value value') :
    (shape.check value).relocate (respell · shape renamed) =
      (shape.check value').relocate (respell · shape renamed) := by
  induction h with
  | swapped hne =>
    exact relocate_check_of_given fun _ _ ↦ Field.given?_congr fun key _ ↦ last?_swapped hne key
  | unknown hname =>
    exact relocate_check_of_given fun field hfield ↦ given?_insert_of_not_mem (hname field hfield)
  | toSnake hfield hrenamed habsent hdecides =>
    obtain ⟨hapart, -⟩ := Shape.distinct_block_iff.mp hdistinct
    exact relocate_check_of_toSnake hapart hfield hrenamed habsent hdecides
  | toCamel hfield hrenamed habsent hdecides =>
    obtain ⟨hapart, -⟩ := Shape.distinct_block_iff.mp hdistinct
    exact relocate_check_of_toCamel hapart hfield hrenamed habsent hdecides
  | @overridden renamed fields field before after value hfield hne hgiven =>
    obtain ⟨hapart, -⟩ := Shape.distinct_block_iff.mp hdistinct
    have hsnake : field.snake ∈ field.spellings := by simp [Field.spellings]
    apply relocate_check_of_given
    intro other hother
    by_cases heq : other = field
    · rw [heq, given?_insert_snake hne hgiven]
    · exact given?_insert_of_not_mem fun hspelled ↦
        heq (eq_of_spelling hapart hother hfield hspelled hsnake)
  | repeated hname =>
    exact relocate_check_of_given fun _ _ ↦
      Field.given?_congr fun key _ ↦ Members.last?_insert_of_mem hname key
  | @inside renamed fields field before after name old new hfield hname h ih =>
    obtain ⟨hapart, hshapes⟩ := Shape.distinct_block_iff.mp hdistinct
    apply relocate_check_of_field (given?_of_other hapart hfield hname hname)
    rcases Field.given?_member hname old new with ⟨hold, hnew⟩ | hsame
    · rw [relocate_checkMember hapart hfield hold, relocate_checkMember hapart hfield hnew,
        ih (hshapes field hfield)]
    · rw [checkMember_congr hsame]

end ServiceBoot.Document
