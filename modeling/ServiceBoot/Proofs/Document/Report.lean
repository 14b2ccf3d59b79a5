import ServiceBoot.Proofs.Document.Check

/-!
# Reports of violations

The violations that the check of a shape reports are just those that the shape declares, each of
them once, and they stand in the order of declaration.
-/

namespace ServiceBoot.Document

open Json (Value Members)

variable {field : Field Shape} {fields : List (Field Shape)} {members : Members}

/-! ## Values without fields -/

theorem violations_integer (value : Value) : (integer value).violations =
    if value.kind = .int then [] else [⟨[], .notInteger⟩] := by
  cases value <;> rfl

theorem violations_text (value : Value) : (text value).violations =
    if value.kind = .str then [] else [⟨[], .notText⟩] := by
  cases value <;> rfl

theorem violations_textsFrom_cons (position : Nat) (item : Value) (items : List Value) :
    (textsFrom position (item :: items)).violations =
      (text item).violations.map (·.under (.index position)) ++
        (textsFrom (position + 1) items).violations := by
  simp [textsFrom]

theorem mem_violations_textsFrom {position : Nat} {items : List Value} {violation : Violation} :
    violation ∈ (textsFrom position items).violations ↔
      ∃ before item after, items = before ++ item :: after ∧ item.kind ≠ .str ∧
        violation = ⟨[.index (position + before.length)], .notText⟩ := by
  induction items generalizing position with
  | nil => simp [textsFrom]
  | cons first rest ih =>
    rw [violations_textsFrom_cons, List.mem_append, ih, violations_text]
    constructor
    · rintro (hfirst | ⟨before, item, after, rfl, hitem, rfl⟩)
      · split at hfirst
        · cases hfirst
        · rename_i hkind
          obtain rfl := List.mem_singleton.mp hfirst
          exact ⟨[], first, rest, rfl, hkind, rfl⟩
      · refine ⟨first :: before, item, after, rfl, hitem, ?_⟩
        rw [List.length_cons, Nat.add_assoc, Nat.add_comm 1]
    · rintro ⟨before, item, after, hitems, hitem, rfl⟩
      cases before with
      | nil =>
        cases hitems
        rw [if_neg hitem]
        exact .inl (List.mem_singleton_self _)
      | cons _ before =>
        cases hitems
        refine .inr ⟨before, item, after, rfl, hitem, ?_⟩
        rw [List.length_cons, Nat.add_assoc, Nat.add_comm 1]

theorem violations_texts (value : Value) : (texts value).violations =
    match value with
    | .list items => (textsFrom 0 items).violations
    | _ => [⟨[], .notList⟩] := by
  cases value <;> rfl

theorem ofName?_eq_none_iff {name : String} :
    Log.Level.ofName? name = none ↔ ∀ level : Log.Level, level.name ≠ name := by
  constructor
  · rintro h level rfl
    simp at h
  · intro h
    cases hlevel : Log.Level.ofName? name with
    | none => rfl
    | some level => exact absurd (Log.Level.name_of_ofName? hlevel) (h level)

theorem violations_levelText (given : String) : (levelText (.str given)).violations =
    if Log.Level.ofName? (Log.Level.normalName given) = none then
      [⟨[], .unknownLevel (Log.Level.normalName given)⟩] else [] := by
  unfold levelText Log.Level.ofText
  cases hlevel : Log.Level.ofName? (Log.Level.normalName given) <;>
    simp [text, Checked.bind, hlevel, complain]

theorem violations_endpointText (given : String) : (endpointText (.str given)).violations =
    match Endpoint.ofText given with
    | .ok _ => []
    | .error fault => [⟨[], .badEndpoint fault⟩] := by
  unfold endpointText
  cases hendpoint : Endpoint.ofText given <;> simp [text, Checked.bind, hendpoint, complain]

theorem violations_of_kind_ne {leaf : Leaf} {value : Value}
    (hleaf : leaf ∈ [.text, .level, .endpoint])
    (h : value.kind ≠ .str) : (leaf.check value).violations = [⟨[], .notText⟩] := by
  simp only [List.mem_cons, List.not_mem_nil, or_false] at hleaf
  rcases hleaf with rfl | rfl | rfl <;> cases value <;> first | rfl | exact absurd rfl h

theorem Leaf.violates_of_mem {leaf : Leaf} {value : Value} {violation : Violation}
    (h : violation ∈ (leaf.check value).violations) : Violates (.leaf leaf) value violation := by
  cases leaf with
  | integer =>
    rw [Leaf.check, violations_fmap, violations_integer] at h
    split at h
    · cases h
    · rename_i hkind
      obtain rfl := List.mem_singleton.mp h
      exact .notInteger hkind
  | text =>
    rw [Leaf.check, violations_fmap, violations_text] at h
    split at h
    · cases h
    · rename_i hkind
      obtain rfl := List.mem_singleton.mp h
      exact .notText (by decide) hkind
  | texts =>
    rw [Leaf.check, violations_fmap, violations_texts] at h
    split at h
    · obtain ⟨before, item, after, rfl, hkind, rfl⟩ := mem_violations_textsFrom.mp h
      rw [Nat.zero_add]
      exact .item hkind
    · rename_i hlist
      obtain rfl := List.mem_singleton.mp h
      refine .notList fun hkind ↦ ?_
      cases value <;> first | exact hlist _ rfl | cases hkind
  | level =>
    by_cases hkind : value.kind = .str
    · cases value <;> cases hkind
      rw [Leaf.check, violations_fmap, violations_levelText] at h
      split at h
      · rename_i hlevel
        obtain rfl := List.mem_singleton.mp h
        exact .unknownLevel (ofName?_eq_none_iff.mp hlevel)
      · cases h
    · rw [violations_of_kind_ne (by decide) hkind] at h
      obtain rfl := List.mem_singleton.mp h
      exact .notText (by decide) hkind
  | endpoint =>
    by_cases hkind : value.kind = .str
    · cases value <;> cases hkind
      rw [Leaf.check, violations_fmap, violations_endpointText] at h
      split at h
      · cases h
      · rename_i fault hfault
        obtain rfl := List.mem_singleton.mp h
        exact .badEndpoint hfault
    · rw [violations_of_kind_ne (by decide) hkind] at h
      obtain rfl := List.mem_singleton.mp h
      exact .notText (by decide) hkind

theorem Leaf.mem_of_violates {leaf : Leaf} {value : Value} {violation : Violation}
    (h : Violates (.leaf leaf) value violation) : violation ∈ (leaf.check value).violations := by
  cases h with
  | notInteger hkind => simp [Leaf.check, violations_integer, hkind]
  | notText hleaf hkind => simp [violations_of_kind_ne hleaf hkind]
  | notList hkind =>
    cases value <;> first | exact List.mem_singleton_self _ | exact absurd rfl hkind
  | item hkind =>
    rw [Leaf.check, violations_fmap, violations_texts]
    exact mem_violations_textsFrom.mpr ⟨_, _, _, rfl, hkind, by rw [Nat.zero_add]⟩
  | unknownLevel hlevel => simp [Leaf.check, violations_levelText, ofName?_eq_none_iff.mpr hlevel]
  | badEndpoint hfault => simp [Leaf.check, violations_endpointText, hfault]

/-! ## All shapes -/

theorem violations_checkMembers_cons (field : Field Shape) (fields : List (Field Shape))
    (members : Members) : (checkMembers (field :: fields) members).violations =
      (checkMember field members).violations ++ (checkMembers fields members).violations := by
  simp [checkMembers]

theorem mem_violations_checkMembers {violation : Violation} :
    violation ∈ (checkMembers fields members).violations ↔
      ∃ field ∈ fields, violation ∈ (checkMember field members).violations := by
  induction fields with
  | nil => simp [checkMembers, Pure.pure]
  | cons field fields ih => simp [violations_checkMembers_cons, ih]

/-- A member is violated by being left out, or from inside. -/
theorem mem_violations_checkMember {violation : Violation} :
    violation ∈ (checkMember field members).violations ↔
      (field.given? members = none ∧ field.default? = none ∧
          violation = ⟨[.key field.camel], .missing⟩) ∨
        ∃ found, field.given? members = some found ∧
          ∃ inner ∈ (field.shape.check found.value).violations,
            inner.under (.key found.key) = violation := by
  cases hgiven : field.given? members with
  | some found => simp [checkMember_of_given hgiven]
  | none =>
    cases hdefault : field.default? with
    | some value => simp [checkMember_of_default hgiven hdefault]
    | none => simp [checkMember_of_missing hgiven hdefault]

/-- The report holds just what violates the shape. -/
theorem Shape.mem_violations_iff {shape : Shape} {value : Value} {violation : Violation} :
    violation ∈ (shape.check value).violations ↔ Violates shape value violation := by
  induction shape using Shape.induction generalizing value violation with
  | leaf leaf => exact ⟨Leaf.violates_of_mem, Leaf.mem_of_violates⟩
  | block fields ih =>
    constructor
    · intro h
      cases value with
      | object members =>
        rw [Shape.check, violations_fmap, mem_violations_checkMembers] at h
        obtain ⟨field, hfield, h⟩ := h
        rcases mem_violations_checkMember.mp h with
          ⟨hgiven, hdefault, rfl⟩ | ⟨found, hgiven, inner, hinner, rfl⟩
        · obtain ⟨hcamel, hsnake⟩ := Field.given?_eq_none_iff.mp hgiven
          exact .missing hfield hdefault hcamel hsnake
        · exact .inside hfield hgiven ((ih field hfield).mp hinner)
      | _ =>
        obtain rfl := List.mem_singleton.mp h
        exact .notObject (by simp [Value.kind])
    · intro h
      cases h with
      | notObject hkind =>
        cases value <;> first | exact List.mem_singleton_self _ | exact absurd rfl hkind
      | missing hfield hdefault hcamel hsnake =>
        rw [Shape.check, violations_fmap, mem_violations_checkMembers]
        have hgiven := Field.given?_eq_none_iff.mpr ⟨hcamel, hsnake⟩
        exact ⟨_, hfield, mem_violations_checkMember.mpr (.inl ⟨hgiven, hdefault, rfl⟩)⟩
      | inside hfield hgiven hinner =>
        rw [Shape.check, violations_fmap, mem_violations_checkMembers]
        have hmem := (ih _ hfield).mpr hinner
        exact ⟨_, hfield, mem_violations_checkMember.mpr (.inr ⟨_, hgiven, _, hmem, rfl⟩)⟩

/-! ## The order -/

theorem pairwise_textsFrom (position : Nat) (items : List Value) :
    ((textsFrom position items).violations.map (·.place)).Pairwise (Precedes (.leaf .texts)) := by
  induction items generalizing position with
  | nil => exact List.Pairwise.nil
  | cons item items ih =>
    rw [violations_textsFrom_cons, violations_text]
    split
    · exact ih (position + 1)
    · refine List.pairwise_cons.mpr ⟨?_, ih (position + 1)⟩
      intro place hplace
      obtain ⟨violation, hviolation, rfl⟩ := List.mem_map.mp hplace
      obtain ⟨before, -, -, -, -, rfl⟩ := mem_violations_textsFrom.mp hviolation
      exact .item (by omega)

theorem Leaf.pairwise_violations (leaf : Leaf) (value : Value) :
    ((leaf.check value).violations.map (·.place)).Pairwise (Precedes (.leaf leaf)) := by
  cases leaf with
  | integer =>
    rw [Leaf.check, violations_fmap, violations_integer]
    split <;> simp
  | text =>
    rw [Leaf.check, violations_fmap, violations_text]
    split <;> simp
  | texts =>
    rw [Leaf.check, violations_fmap, violations_texts]
    split
    · exact pairwise_textsFrom 0 _
    · exact List.pairwise_singleton ..
  | level =>
    by_cases hkind : value.kind = .str
    · cases value <;> cases hkind
      rw [Leaf.check, violations_fmap, violations_levelText]
      split <;> simp
    · rw [violations_of_kind_ne (by decide) hkind]
      exact List.pairwise_singleton ..
  | endpoint =>
    by_cases hkind : value.kind = .str
    · cases value <;> cases hkind
      rw [Leaf.check, violations_fmap, violations_endpointText]
      split <;> simp
    · rw [violations_of_kind_ne (by decide) hkind]
      exact List.pairwise_singleton ..

theorem Precedes.cons {place place' : List Step} (h : Precedes (.block fields) place place') :
    Precedes (.block (field :: fields)) place place' := by
  cases h with
  | fields hsub hname hname' => exact .fields (hsub.cons field) hname hname'
  | inside hfield hname h => exact .inside (List.mem_cons_of_mem _ hfield) hname h

theorem place_of_mem_checkMember {violation : Violation}
    (h : violation ∈ (checkMember field members).violations) :
    ∃ name ∈ field.spellings, ∃ rest, violation.place = .key name :: rest := by
  rcases mem_violations_checkMember.mp h with ⟨-, -, rfl⟩ | ⟨found, hgiven, inner, -, rfl⟩
  · exact ⟨field.camel, List.mem_cons_self .., [], rfl⟩
  · exact ⟨found.key, Field.key_of_given? hgiven, inner.place, rfl⟩

theorem pairwise_checkMember (hfield : field ∈ fields)
    (hshape : ∀ value,
      ((field.shape.check value).violations.map (·.place)).Pairwise (Precedes field.shape)) :
    ((checkMember field members).violations.map (·.place)).Pairwise
      (Precedes (.block fields)) := by
  cases hgiven : field.given? members with
  | some found =>
    have hunder : (checkMember field members).violations.map (·.place) =
        ((field.shape.check found.value).violations.map (·.place)).map (.key found.key :: ·) := by
      simp [checkMember_of_given hgiven, Violation.under]
    rw [hunder, List.pairwise_map]
    exact (hshape found.value).imp (.inside hfield (Field.key_of_given? hgiven))
  | none =>
    cases hdefault : field.default? with
    | some value => simp [checkMember_of_default hgiven hdefault]
    | none => simp [checkMember_of_missing hgiven hdefault]

theorem pairwise_checkMembers
    (hshapes : ∀ field ∈ fields, ∀ value,
      ((field.shape.check value).violations.map (·.place)).Pairwise (Precedes field.shape)) :
    ((checkMembers fields members).violations.map (·.place)).Pairwise
      (Precedes (.block fields)) := by
  induction fields with
  | nil => exact List.Pairwise.nil
  | cons field fields ih =>
    obtain ⟨hfield, hfields⟩ := List.forall_mem_cons.mp hshapes
    rw [violations_checkMembers_cons, List.map_append, List.pairwise_append]
    refine ⟨pairwise_checkMember (List.mem_cons_self ..) hfield, (ih hfields).imp Precedes.cons, ?_⟩
    intro place hplace place' hplace'
    obtain ⟨first, hfirst, rfl⟩ := List.mem_map.mp hplace
    obtain ⟨second, hsecond, rfl⟩ := List.mem_map.mp hplace'
    obtain ⟨other, hother, hsecond⟩ := mem_violations_checkMembers.mp hsecond
    obtain ⟨name, hname, rest, hrest⟩ := place_of_mem_checkMember hfirst
    obtain ⟨name', hname', rest', hrest'⟩ := place_of_mem_checkMember hsecond
    rw [hrest, hrest']
    exact .fields ((List.singleton_sublist.mpr hother).cons_cons field) hname hname'

/-- The report follows the declaration. -/
theorem Shape.pairwise_violations (shape : Shape) (value : Value) :
    ((shape.check value).violations.map (·.place)).Pairwise (Precedes shape) := by
  induction shape using Shape.induction generalizing value with
  | leaf leaf => exact leaf.pairwise_violations value
  | block fields ih =>
    cases value with
    | object members =>
      rw [Shape.check, violations_fmap]
      exact pairwise_checkMembers ih
    | _ => exact List.pairwise_singleton ..

theorem Shape.nodup_violations {shape : Shape} (h : shape.Distinct) (value : Value) :
    ((shape.check value).violations.map (·.place)).Nodup :=
  (shape.pairwise_violations value).imp fun hprecedes ↦ hprecedes.ne h

end ServiceBoot.Document
