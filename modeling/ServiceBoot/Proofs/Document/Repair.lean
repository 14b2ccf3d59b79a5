import ServiceBoot.Proofs.Document.Report

/-!
# Repaired documents

A violation is repaired by putting a value that the shape accepts in its place, or by adding the
member that is missing. That takes this violation out of the report and leaves all others as they
were.
-/

namespace ServiceBoot.Document

open Json (Value Members)

/-- The shape of what a place leads to. -/
inductive Expects : Shape → List Step → Shape → Prop
  | here {shape : Shape} : Expects shape [] shape
  | item {position : Nat} : Expects (.leaf .texts) [.index position] (.leaf .text)
  | member {fields : List (Field Shape)} {field : Field Shape} {name : String}
      {place : List Step} {expected : Shape} (hfield : field ∈ fields)
      (hname : name ∈ field.spellings) (h : Expects field.shape place expected) :
      Expects (.block fields) (.key name :: place) expected

/-- A value with another one put at a place of it: in the place of an item, in that of the member
that counts for a key, or as a new member anywhere among the others. -/
inductive Puts (new : Value) : List Step → Value → Value → Prop
  | here {old : Value} : Puts new [] old new
  | item {before after : List Value} {old result : Value} {place : List Step}
      (h : Puts new place old result) :
      Puts new (.index before.length :: place) (.list (before ++ old :: after))
        (.list (before ++ result :: after))
  | member {before after : Members} {name : String} {old result : Value} {place : List Step}
      (hlast : name ∉ after.names) (h : Puts new place old result) :
      Puts new (.key name :: place) (.object (before ++ (name, old) :: after))
        (.object (before ++ (name, result) :: after))
  | added {before after : Members} {name : String} (hname : name ∉ (before ++ after).names) :
      Puts new [.key name] (.object (before ++ after)) (.object (before ++ (name, new) :: after))

theorem Expects.of_nil {shape expected : Shape} (h : Expects shape [] expected) :
    expected = shape := by
  generalize hplace : ([] : List Step) = place at h
  cases h with
  | here => rfl
  | item | member => cases hplace

theorem Expects.of_key {fields : List (Field Shape)} {name : String} {place : List Step}
    {expected : Shape} (h : Expects (.block fields) (.key name :: place) expected) :
    ∃ field ∈ fields, name ∈ field.spellings ∧ Expects field.shape place expected := by
  cases h with
  | member hfield hname h => exact ⟨_, hfield, hname, h⟩

/-! ## What is left of the report -/

variable {field : Field Shape} {fields : List (Field Shape)} {members result : Members}

/-- A violation of a whole value hides all others. -/
theorem place_eq_nil {shape : Shape} {value : Value} {first second : Violation}
    (hfirst : Violates shape value first) (hplace : first.place = [])
    (hsecond : Violates shape value second) : second.place = [] := by
  cases hfirst with
  | item | missing | inside => cases hplace
  | notInteger | notText | unknownLevel | badEndpoint =>
    cases hsecond <;> first | rfl | simp at *
  | notList hkind =>
    cases hsecond with
    | item => exact absurd rfl hkind
    | _ => rfl
  | notObject hkind =>
    cases hsecond with
    | missing => exact absurd rfl hkind
    | inside => exact absurd rfl hkind
    | _ => rfl

theorem violations_textsFrom_put {new : Value} (hnew : new.kind = .str) (position : Nat)
    (before after : List Value) (old : Value) :
    (textsFrom position (before ++ new :: after)).violations =
      (textsFrom position (before ++ old :: after)).violations.filter
        (·.place ≠ [.index (position + before.length)]) := by
  induction before generalizing position with
  | nil =>
    have hold : ((text old).violations.map (·.under (.index position))).filter
        (·.place ≠ [.index position]) = [] := by
      rw [violations_text]
      split <;> simp [Violation.under]
    have hafter : (textsFrom (position + 1) after).violations.filter
        (·.place ≠ [.index position]) = (textsFrom (position + 1) after).violations := by
      rw [List.filter_eq_self]
      intro violation hviolation
      obtain ⟨before, -, -, -, -, rfl⟩ := mem_violations_textsFrom.mp hviolation
      simp
      omega
    simp only [List.nil_append, List.length_nil, Nat.add_zero, violations_textsFrom_cons,
      List.filter_append, hold, hafter, violations_text new, hnew, if_true, List.map_nil]
  | cons item before ih =>
    have hitem : ((text item).violations.map (·.under (.index position))).filter
        (·.place ≠ [.index (position + (before.length + 1))]) =
          (text item).violations.map (·.under (.index position)) := by
      rw [violations_text]
      split <;> simp [Violation.under]
    rw [List.cons_append, List.cons_append, violations_textsFrom_cons, violations_textsFrom_cons,
      List.filter_append, List.length_cons, hitem, ih (position + 1), Nat.add_right_comm]
    rfl

theorem violations_checkMembers_filter {p : Violation → Bool}
    (h : ∀ field ∈ fields, (checkMember field result).violations =
      (checkMember field members).violations.filter p) :
    (checkMembers fields result).violations =
      (checkMembers fields members).violations.filter p := by
  induction fields with
  | nil => rfl
  | cons field fields ih =>
    obtain ⟨hfield, hfields⟩ := List.forall_mem_cons.mp h
    rw [violations_checkMembers_cons, violations_checkMembers_cons, List.filter_append, hfield,
      ih hfields]

/-- Assigning a value to a field changes the report of this field at most. -/
theorem violations_block_of_assigns {name : String} {value : Value} {place : List Step}
    (hapart : fields.Pairwise Field.Apart) (hassigns : members.Assigns name value result)
    (hfield : field ∈ fields) (hname : name ∈ field.spellings)
    (h : (checkMember field result).violations = (checkMember field members).violations.filter
      (·.place ≠ .key name :: place)) :
    ((Shape.block fields).check (.object result)).violations =
      ((Shape.block fields).check (.object members)).violations.filter
        (·.place ≠ .key name :: place) := by
  rw [Shape.check, Shape.check, violations_fmap, violations_fmap]
  apply violations_checkMembers_filter
  intro other hother
  by_cases hspelled : name ∈ other.spellings
  · rw [eq_of_spelling hapart hother hfield hspelled hname]
    exact h
  · rw [checkMember_congr (Field.given?_of_assigns_other hassigns hspelled), eq_comm,
      List.filter_eq_self]
    intro violation hviolation
    obtain ⟨spelling, hspelling, rest, hplace⟩ := place_of_mem_checkMember hviolation
    have hne : spelling ≠ name := by
      rintro rfl
      exact hspelled hspelling
    simp [hplace, hne]

theorem filter_map_under (step : Step) (place : List Step) (violations : List Violation) :
    (violations.map (·.under step)).filter (·.place ≠ step :: place) =
      (violations.filter (·.place ≠ place)).map (·.under step) := by
  rw [List.filter_map]
  congr 2
  funext violation
  simp [Violation.under]

theorem puts_item {new result : Value} {items : List Value} {position : Nat} {place : List Step}
    (h : Puts new (.index position :: place) (.list items) result) :
    ∃ before old after inner, items = before ++ old :: after ∧ before.length = position ∧
      Puts new place old inner ∧ result = .list (before ++ inner :: after) := by
  cases h with
  | item h => exact ⟨_, _, _, _, rfl, rfl, h, rfl⟩

/-- A value is put in the place of the member that counts, or added. -/
theorem puts_key {new : Value} {repaired : Value} {name : String} {place : List Step}
    (h : Puts new (.key name :: place) (.object members) repaired) :
    ∃ value result, repaired = .object result ∧ members.Assigns name value result ∧
      ((∃ old, members.last? name = some old ∧ Puts new place old value) ∨
        (name ∉ members.names ∧ place = [] ∧ value = new)) := by
  cases h with
  | @member before after _ old value _ hlast h =>
    refine ⟨value, _, rfl, Members.assigns_member old value hlast, .inl ⟨old, ?_, h⟩⟩
    simp [Members.last?_append, Members.last?_eq_none_iff.mpr hlast]
  | @added before after _ hname =>
    have hafter : name ∉ after.names := fun h ↦ hname (by simp [h])
    exact ⟨new, _, rfl, Members.assigns_insert new hafter, .inr ⟨hname, rfl, rfl⟩⟩

theorem violations_of_puts_here {shape expected : Shape} {value new repaired : Value}
    {violation : Violation} (hviolates : Violates shape value violation)
    (hplace : violation.place = []) (hexpects : Expects shape violation.place expected)
    (hnew : (expected.check new).violations = [])
    (hputs : Puts new violation.place value repaired) :
    (shape.check repaired).violations =
      (shape.check value).violations.filter (·.place ≠ violation.place) := by
  rw [hplace] at hexpects hputs
  cases hexpects
  cases hputs
  rw [hnew, eq_comm, List.filter_eq_nil_iff]
  intro other hother
  simp [hplace, place_eq_nil hviolates hplace (Shape.mem_violations_iff.mp hother)]

theorem violations_of_puts_item {expected : Shape} {before after : List Value}
    {item new repaired : Value} (hexpects : Expects (.leaf .texts) [.index before.length] expected)
    (hnew : (expected.check new).violations = [])
    (hputs : Puts new [.index before.length] (.list (before ++ item :: after)) repaired) :
    ((Shape.leaf .texts).check repaired).violations =
      ((Shape.leaf .texts).check (.list (before ++ item :: after))).violations.filter
        (·.place ≠ [.index before.length]) := by
  cases hexpects
  obtain ⟨before', old, after', inner, hitems, hlength, hinner, rfl⟩ := puts_item hputs
  obtain ⟨rfl, htail⟩ := List.append_inj hitems hlength.symm
  obtain ⟨rfl, rfl⟩ := List.cons.inj htail
  cases hinner
  have hkind : new.kind = .str := by
    rw [Shape.check, Leaf.check, violations_fmap, violations_text] at hnew
    by_contra hne
    simp [hne] at hnew
  rw [Shape.check, Shape.check, Leaf.check, Leaf.check, violations_fmap, violations_fmap]
  have hput := violations_textsFrom_put hkind 0 before after item
  rwa [Nat.zero_add] at hput

theorem violations_of_puts_missing {expected : Shape} {new repaired : Value}
    (hapart : fields.Pairwise Field.Apart) (hfield : field ∈ fields)
    (hdefault : field.default? = none) (hcamel : field.camel ∉ members.names)
    (hsnake : field.snake ∉ members.names)
    (hexpects : Expects (.block fields) [.key field.camel] expected)
    (hnew : (expected.check new).violations = [])
    (hputs : Puts new [.key field.camel] (.object members) repaired) :
    ((Shape.block fields).check repaired).violations =
      ((Shape.block fields).check (.object members)).violations.filter
        (·.place ≠ [.key field.camel]) := by
  have hgiven := Field.given?_eq_none_iff.mpr ⟨hcamel, hsnake⟩
  have hname : field.camel ∈ field.spellings := List.mem_cons_self ..
  obtain ⟨value, result, rfl, hassigns, ⟨old, hold, -⟩ | ⟨-, -, rfl⟩⟩ := puts_key hputs
  · simp [Members.last?_eq_none_iff.mpr hcamel] at hold
  · apply violations_block_of_assigns hapart hassigns hfield hname
    have hresult : field.given? result = some ⟨field.camel, value⟩ := by
      apply Field.given?_of_assigns hassigns hname
      simp [hgiven]
    have hshape : (field.shape.check value).violations = [] := by
      obtain ⟨other, hother, hspelled, hexpects⟩ := hexpects.of_key
      rwa [eq_of_spelling hapart hfield hother hname hspelled, ← hexpects.of_nil]
    rw [checkMember_of_given hresult, checkMember_of_missing hgiven hdefault, violations_fmap,
      Checked.violations_under, hshape]
    simp

/-- Putting an accepted value in the place of a violation removes this violation, and no other. -/
theorem violations_of_puts {shape expected : Shape} {value new repaired : Value}
    {violation : Violation} (hdistinct : shape.Distinct)
    (hviolates : Violates shape value violation)
    (hexpects : Expects shape violation.place expected)
    (hnew : (expected.check new).violations = [])
    (hputs : Puts new violation.place value repaired) :
    (shape.check repaired).violations =
      (shape.check value).violations.filter (·.place ≠ violation.place) := by
  induction hviolates generalizing repaired with
  | notInteger h => exact violations_of_puts_here (.notInteger h) rfl hexpects hnew hputs
  | notText hleaf h => exact violations_of_puts_here (.notText hleaf h) rfl hexpects hnew hputs
  | notList h => exact violations_of_puts_here (.notList h) rfl hexpects hnew hputs
  | unknownLevel h => exact violations_of_puts_here (.unknownLevel h) rfl hexpects hnew hputs
  | badEndpoint h => exact violations_of_puts_here (.badEndpoint h) rfl hexpects hnew hputs
  | notObject h => exact violations_of_puts_here (.notObject h) rfl hexpects hnew hputs
  | item => exact violations_of_puts_item hexpects hnew hputs
  | missing hfield hdefault hcamel hsnake =>
    obtain ⟨hapart, -⟩ := Shape.distinct_block_iff.mp hdistinct
    exact violations_of_puts_missing hapart hfield hdefault hcamel hsnake hexpects hnew hputs
  | @inside fields field members found violation hfield hgiven h ih =>
    obtain ⟨hapart, hshapes⟩ := Shape.distinct_block_iff.mp hdistinct
    have hname := Field.key_of_given? hgiven
    have hlast := Field.last?_of_given? hgiven
    obtain ⟨value, result, rfl, hassigns, ⟨old, hold, hinner⟩ | ⟨hmissing, -, -⟩⟩ := puts_key hputs
    · obtain rfl : found.value = old := Option.some.inj (hlast.symm.trans hold)
      apply violations_block_of_assigns hapart hassigns hfield hname
      have hresult : field.given? result = some ⟨found.key, value⟩ := by
        apply Field.given?_of_assigns hassigns hname
        simp [hgiven]
      have hrepaired : (field.shape.check value).violations =
          (field.shape.check found.value).violations.filter (·.place ≠ violation.place) := by
        obtain ⟨other, hother, hspelled, hexpects⟩ := hexpects.of_key
        obtain rfl := eq_of_spelling hapart hfield hother hname hspelled
        exact ih (hshapes field hfield) hexpects hinner
      rw [checkMember_of_given hresult, checkMember_of_given hgiven, violations_fmap,
        violations_fmap, Checked.violations_under, Checked.violations_under, hrepaired,
        ← filter_map_under]
    · simp [Members.last?_eq_none_iff.mpr hmissing] at hlast

/-- Every violation has a place that leads to a shape, and a value can be put there. -/
theorem exists_puts {shape : Shape} {value : Value} {violation : Violation}
    (h : Violates shape value violation) :
    (∃ expected, Expects shape violation.place expected) ∧
      ∀ new, ∃ repaired, Puts new violation.place value repaired := by
  induction h with
  | notInteger | notText | notList | unknownLevel | badEndpoint | notObject =>
    exact ⟨⟨_, .here⟩, fun new ↦ ⟨new, .here⟩⟩
  | item => exact ⟨⟨_, .item⟩, fun new ↦ ⟨_, .item .here⟩⟩
  | @missing fields field members hfield _ hcamel _ =>
    refine ⟨⟨_, .member hfield (List.mem_cons_self ..) .here⟩, fun new ↦ ?_⟩
    rw [← List.append_nil members] at hcamel ⊢
    exact ⟨_, .added hcamel⟩
  | @inside fields field members found violation hfield hgiven _ ih =>
    obtain ⟨⟨expected, hexpected⟩, hputs⟩ := ih
    refine ⟨⟨expected, .member hfield (Field.key_of_given? hgiven) hexpected⟩, fun new ↦ ?_⟩
    obtain ⟨repaired, hrepaired⟩ := hputs new
    obtain ⟨before, after, rfl, hafter⟩ :=
      Members.last?_eq_some_iff.mp (Field.last?_of_given? hgiven)
    exact ⟨_, .member hafter hrepaired⟩

end ServiceBoot.Document
