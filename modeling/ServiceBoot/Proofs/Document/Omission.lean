import ServiceBoot.Log.Entry
import ServiceBoot.Proofs.Document.Check

/-!
# Members that are left out

A member that may be left out stands for its default. Documents in which it is left out, or written
out with its default, are the same to a check, and so is its zero value if that is read as the
default. If something else stands for the default later on, this is what a check finds, and nothing
else.
-/

namespace ServiceBoot

namespace Json

def Value.text? : Value → Option String
  | .str text => some text
  | _ => none

@[simp]
theorem Value.text?_str (text : String) : (Value.str text).text? = some text := rfl

/-- What a path of keys leads to. -/
def Value.at? : List String → Value → Option Value
  | [], value => some value
  | key :: path, .object members => (Members.last? members key).bind (at? path)
  | _ :: _, _ => none

def updateMember (key : String) (f : Value → Value) (member : String × Value) : String × Value :=
  if member.1 = key then (member.1, f member.2) else member

def Members.update (key : String) (f : Value → Value) (members : Members) : Members :=
  members.map (updateMember key f)

/-- The value with another one where a path of keys leads to. -/
def Value.assign (new : Value) : List String → Value → Value
  | [], _ => new
  | key :: path, .object members => .object (Members.update key (assign new path) members)
  | _ :: _, value => value

theorem Value.at?_singleton (key : String) (members : Members) :
    (Value.object members).at? [key] = members.last? key := by
  rw [at?]
  cases members.last? key <;> rfl

end Json

namespace Document

open Json (Value Members)

/-- What is put in the place of a value that was left out, at a path of keys, and the entry that
says so. It may depend on other members of the same object. -/
structure Substitution where
  path : List String
  value? : Members → Option Value
  event : String
  subsystem : Option String := none

def Substitution.tells (substitution : Substitution) (entry : Log.Entry) : Bool :=
  entry.event.text? = some substitution.event ∧
    (entry.fields.lookup "subsystem").bind Value.text? = substitution.subsystem

def Leaf.zero : Leaf → Value
  | .integer => .int 0
  | .text | .level | .endpoint => .str ""
  | .texts => .list []

def Shape.zero : Shape → Value
  | .leaf kind => kind.zero
  | .block _ => .object []

/-- What a value can be that stands for an optional member of an object without it. -/
inductive Stands (written : List Substitution) (place : List String) (fields : List (Field Shape))
    (members : Members) (field : Field Shape) (default : Value) : Value → Prop
  | default : Stands written place fields members field default default
  | zero (h : field.shape.normal field.shape.zero = default) :
      Stands written place fields members field default field.shape.zero
  | substitute {substitution : Substitution} {value : Value} (h : substitution ∈ written)
      (hpath : substitution.path = place ++ [field.camel])
      (hvalue : substitution.value? (normalMembers fields members) = some value) :
      Stands written place fields members field default value

/-- An optional member is left out of one document, and stands in the other one under one of its
spellings, anywhere among the others. The substitutes of some members may be written. -/
inductive Omits (written : List Substitution) : List String → Shape → Value → Value → Prop
  | member {place : List String} {fields : List (Field Shape)} {field : Field Shape}
      {before after : Members} {name : String} {default value : Value} (hfield : field ∈ fields)
      (hdefault : field.default? = some default) (hname : name ∈ field.spellings)
      (habsent : field.given? (before ++ after) = none)
      (h : Stands written place fields (before ++ after) field default value) :
      Omits written place (.block fields) (.object (before ++ after))
        (.object (before ++ (name, value) :: after))
  | inside {place : List String} {fields : List (Field Shape)} {field : Field Shape}
      {before after : Members} {name : String} {old new : Value} (hfield : field ∈ fields)
      (hname : name ∈ field.spellings)
      (h : Omits written (place ++ [field.camel]) field.shape old new) :
      Omits written place (.block fields) (.object (before ++ (name, old) :: after))
        (.object (before ++ (name, new) :: after))

/-! ## Fields by their paths -/

def Shape.field? : List String → Shape → Option (Field Shape)
  | [key], .block fields => fields.find? (·.camel = key)
  | key :: path, .block fields =>
    (fields.find? (·.camel = key)).bind fun field ↦ field.shape.field? path
  | _, _ => none

/-- The defaults of a shape are accepted as they are, and the zero values of optional fields are
accepted. -/
inductive Shape.Sound : Shape → Prop
  | leaf {leaf : Leaf} : Sound (.leaf leaf)
  | block {fields : List (Field Shape)} :
      (∀ field ∈ fields, ∀ default ∈ field.default?,
        field.shape.check default = .accepted default ∧
          field.shape.check field.shape.zero = .accepted (field.shape.normal field.shape.zero)) →
      (∀ field ∈ fields, Sound field.shape) → Sound (.block fields)

variable {fields : List (Field Shape)} {field : Field Shape} {members result : Members}

theorem find?_camel (hapart : fields.Pairwise Field.Apart) (hfield : field ∈ fields) :
    fields.find? (·.camel = field.camel) = some field := by
  apply find?_of_unique hfield (by simp)
  intro other hother hcamel
  exact eq_of_spelling hapart hother hfield (List.mem_cons_self ..)
    (by simp [Field.spellings, of_decide_eq_true hcamel])

theorem fst_normalMember (field : Field Shape) (members : Members) :
    (normalMember field members).1 = field.camel := by
  obtain ⟨camel, snake, shape, default?⟩ := field
  rw [normalMember]
  split <;> rfl

theorem normalMembers_eq_map (fields : List (Field Shape)) (members : Members) :
    normalMembers fields members = fields.map (normalMember · members) := by
  induction fields with
  | nil => rfl
  | cons field fields ih => rw [normalMembers, ih, List.map_cons]

theorem last?_normalMembers (hapart : fields.Pairwise Field.Apart) (hfield : field ∈ fields) :
    (normalMembers fields members).last? field.camel = some (normalMember field members).2 := by
  obtain ⟨before, after, rfl⟩ := List.append_of_mem hfield
  obtain ⟨-, hafter, -⟩ := List.pairwise_append.mp hapart
  rw [normalMembers_eq_map, List.map_append, List.map_cons, Members.last?_eq_some_iff]
  refine ⟨_, _, by rw [← fst_normalMember field members], ?_⟩
  intro hmem
  simp only [Members.names, List.map_map, List.mem_map, Function.comp_apply,
    fst_normalMember] at hmem
  obtain ⟨other, hother, hcamel⟩ := hmem
  have hother := (List.pairwise_cons.mp hafter).1 other hother
  exact hother field.camel (List.mem_cons_self ..) (by simp [Field.spellings, hcamel])

/-- Members that are mapped one by one. -/
theorem checkMembers_map {f : String × Value → String × Value}
    (h : ∀ field ∈ fields, checkMember field result = f <$> checkMember field members) :
    checkMembers fields result = List.map f <$> checkMembers fields members := by
  induction fields with
  | nil => rfl
  | cons field fields ih =>
    obtain ⟨hfield, hfields⟩ := List.forall_mem_cons.mp h
    rw [checkMembers, checkMembers, hfield, ih hfields]
    simp only [map_seq, seq_map_assoc, Functor.map_map, Function.comp_def, List.map_cons]

theorem map_checkMember_congr {α : Type} {f g : String × Value → α}
    (h : ∀ value, f (field.camel, value) = g (field.camel, value)) :
    f <$> checkMember field members = g <$> checkMember field members := by
  cases hgiven : field.given? members with
  | some found =>
    rw [checkMember_of_given hgiven, ← comp_map, ← comp_map]
    congr 1
    funext value
    exact h value
  | none =>
    cases hdefault : field.default? with
    | some value => rw [checkMember_of_default hgiven hdefault, map_accepted, map_accepted, h]
    | none => rw [checkMember_of_missing hgiven hdefault]; rfl

/-- What is found for one field alone is another value. -/
theorem checkMembers_update {f : Value → Value} (hapart : fields.Pairwise Field.Apart)
    (hfield : field ∈ fields)
    (hothers : ∀ other ∈ fields, other ≠ field → other.given? result = other.given? members)
    (h : checkMember field result =
      (fun member ↦ (member.1, f member.2)) <$> checkMember field members) :
    checkMembers fields result = Members.update field.camel f <$> checkMembers fields members := by
  apply checkMembers_map
  intro other hother
  by_cases heq : other = field
  · subst heq
    rw [h]
    apply map_checkMember_congr
    intro value
    rw [Json.updateMember, if_pos rfl]
  · have hcamel : other.camel ≠ field.camel := fun hcamel ↦
      heq (eq_of_spelling hapart hother hfield (List.mem_cons_self ..)
        (by simp [Field.spellings, hcamel]))
    rw [checkMember_congr (hothers other hother heq), ← id_map (checkMember other members),
      ← comp_map]
    apply map_checkMember_congr
    intro value
    exact (if_neg hcamel).symm

theorem field?_cons (hapart : fields.Pairwise Field.Apart) (hfield : field ∈ fields)
    {path : List String} (hne : path ≠ []) :
    Shape.field? (field.camel :: path) (.block fields) = field.shape.field? path := by
  cases path with
  | nil => exact absurd rfl hne
  | cons key path =>
    rw [Shape.field?, find?_camel hapart hfield, Option.bind_some]
    exact hne

theorem accepted_of_checkMembers {normals : Members}
    (h : checkMembers fields members = .accepted normals) (hfield : field ∈ fields) :
    ∃ member, checkMember field members = .accepted member := by
  induction fields generalizing normals with
  | nil => cases hfield
  | cons first fields ih =>
    obtain ⟨member, rest, hmember, hrest, -⟩ := cons_eq_accepted.mp h
    rcases List.mem_cons.mp hfield with rfl | hfield
    · exact ⟨member, hmember⟩
    · exact ih hrest hfield

/-- An object is accepted with everything that it gives for its fields. -/
theorem accepted_of_given {normal : Value} {found : Found}
    (h : (Shape.block fields).check (.object members) = .accepted normal) (hfield : field ∈ fields)
    (hgiven : field.given? members = some found) :
    ∃ inner, field.shape.check found.value = .accepted inner := by
  obtain ⟨normals, hnormals, -⟩ := map_eq_accepted.mp h
  obtain ⟨member, hmember⟩ := accepted_of_checkMembers hnormals hfield
  rw [checkMember_of_given hgiven] at hmember
  obtain ⟨inner, hinner, -⟩ := map_eq_accepted.mp hmember
  exact ⟨inner, under_eq_accepted.mp hinner⟩

/-! ## One member -/

/-- What is found for all fields but one is the same, and so is the whole. -/
theorem check_block_congr
    (hothers : ∀ other ∈ fields, other ≠ field → other.given? result = other.given? members)
    (h : checkMember field result = checkMember field members) :
    (Shape.block fields).check (.object result) = (Shape.block fields).check (.object members) := by
  rw [Shape.check, Shape.check, checkMembers_congr]
  intro other hother
  by_cases heq : other = field
  · rw [heq, h]
  · exact checkMember_congr (hothers other hother heq)

/-- What is found for one field is assigned to, and so is the whole. -/
theorem check_block_assign {new : Value} {path : List String}
    (hapart : fields.Pairwise Field.Apart) (hfield : field ∈ fields)
    (hothers : ∀ other ∈ fields, other ≠ field → other.given? result = other.given? members)
    (h : checkMember field result =
      (fun member ↦ (member.1, Value.assign new path member.2)) <$> checkMember field members) :
    (Shape.block fields).check (.object result) =
      Value.assign new (field.camel :: path) <$>
        (Shape.block fields).check (.object members) := by
  rw [Shape.check, Shape.check, checkMembers_update hapart hfield hothers h, ← comp_map, ← comp_map]
  rfl

/-- A substitution is what the other document has: the one without the member has the default in its
place, and the substitute belongs to the other members. -/
structure Substitution.Applies (substitution : Substitution) (shape : Shape) (path : List String)
    (new normal : Value) : Prop where
  default : normal.at? path = (shape.field? path).bind (·.default?)
  value : ∃ members, normal.at? path.dropLast = some (.object members) ∧
    substitution.value? members = some new

/-- A check finds the same in two values, or one of the substitutes in the second one that the
first one has not. -/
inductive Tallies (written : List Substitution) (place : List String) (shape : Shape)
    (value value' : Value) : Prop
  | same (h : shape.check value' = shape.check value)
  | substitute {substitution : Substitution} {path : List String} {new : Value}
      (hmem : substitution ∈ written) (hpath : substitution.path = place ++ path) (hne : path ≠ [])
      (hassign : shape.check value' = Value.assign new path <$> shape.check value)
      (happlies : ∀ normal, shape.check value = .accepted normal →
        substitution.Applies shape path new normal)

/-- The substitutes are values that the fields in their places accept. -/
def Fits (written : List Substitution) (place : List String) (shape : Shape) : Prop :=
  ∀ substitution ∈ written, ∀ path, substitution.path = place ++ path →
    ∀ field, shape.field? path = some field → ∀ members new,
      substitution.value? members = some new → field.shape.check new = .accepted new

variable {written : List Substitution} {place : List String}

theorem Fits.inside (h : Fits written place (.block fields)) (hapart : fields.Pairwise Field.Apart)
    (hfield : field ∈ fields) : Fits written (place ++ [field.camel]) field.shape := by
  intro substitution hmem path hpath found hfound
  apply h substitution hmem (field.camel :: path) (by simp [hpath])
  rw [field?_cons hapart hfield, hfound]
  rintro rfl
  simp [Shape.field?] at hfound

theorem tallies_member (hsound : (Shape.block fields).Sound) (hapart : fields.Pairwise Field.Apart)
    (hfits : Fits written place (.block fields)) {before after : Members} {name : String}
    {default value : Value} (hfield : field ∈ fields) (hdefault : field.default? = some default)
    (hname : name ∈ field.spellings) (habsent : field.given? (before ++ after) = none)
    (h : Stands written place fields (before ++ after) field default value) :
    Tallies written place (.block fields) (.object (before ++ after))
      (.object (before ++ (name, value) :: after)) := by
  have hnot := Field.not_mem_of_given? habsent hname
  rw [Members.names_append, List.mem_append, not_or] at hnot
  have hassigns := @Members.assigns_insert before after name value hnot.2
  have hothers : ∀ other ∈ fields, other ≠ field →
      other.given? (before ++ (name, value) :: after) = other.given? (before ++ after) :=
    fun other hother hne ↦ Field.given?_of_assigns_other hassigns
      fun hspelled ↦ hne (eq_of_spelling hapart hother hfield hspelled hname)
  have hmember := checkMember_of_default habsent hdefault
  have hmember' : checkMember field (before ++ (name, value) :: after) =
      (field.camel, ·) <$> (field.shape.check value).under (.key name) :=
    checkMember_of_given (Field.given?_of_assigns hassigns hname (by simp [habsent]))
  cases hsound with
  | block hvalues _ =>
    obtain ⟨hwritten, hzero⟩ := hvalues field hfield default hdefault
    -- A value that is read as the default makes no difference at all.
    have hsame (h : field.shape.check value = .accepted default) :
        Tallies written place (.block fields) (.object (before ++ after))
          (.object (before ++ (name, value) :: after)) := by
      apply Tallies.same
      apply check_block_congr hothers
      rw [hmember, hmember', h]
      rfl
    cases h with
    | default => exact hsame hwritten
    | zero h => exact hsame (h ▸ hzero)
    | @substitute substitution _ hmem hpath hvalue =>
      have hcheck := hfits substitution hmem [field.camel] hpath field
        (find?_camel hapart hfield) _ value hvalue
      have hassigned : checkMember field (before ++ (name, value) :: after) =
          (fun member ↦ (member.1, Value.assign value [] member.2)) <$>
            checkMember field (before ++ after) := by
        rw [hmember, hmember', hcheck]
        rfl
      refine .substitute hmem hpath (List.cons_ne_nil _ _)
        (check_block_assign hapart hfield hothers hassigned) ?_
      intro normal hnormal
      rw [← Shape.normal_of_check hnormal, Shape.normal]
      constructor
      · rw [Value.at?, last?_normalMembers hapart hfield, normalMember_of_default habsent hdefault,
          Shape.field?, find?_camel hapart hfield, Option.bind_some, Option.bind_some, hdefault]
        rfl
      · exact ⟨_, rfl, hvalue⟩

theorem Tallies.inside {before after : Members} {name : String} {old new : Value}
    (h : Tallies written (place ++ [field.camel]) field.shape old new)
    (hapart : fields.Pairwise Field.Apart) (hfield : field ∈ fields)
    (hname : name ∈ field.spellings) :
    Tallies written place (.block fields) (.object (before ++ (name, old) :: after))
      (.object (before ++ (name, new) :: after)) := by
  have hothers := @given?_of_other _ _ hapart hfield before after _ _ old new hname hname
  rcases Field.given?_member hname old new with ⟨hold, hnew⟩ | hsame
  · have hcheck := checkMember_of_given hold
    have hcheck' := checkMember_of_given hnew
    cases h with
    | same h => exact .same (check_block_congr hothers (by rw [hcheck', hcheck, h]))
    | @substitute substitution path value hmem hpath hne hassign happlies =>
      have hassigned : checkMember field (before ++ (name, new) :: after) =
          (fun member ↦ (member.1, Value.assign value path member.2)) <$>
            checkMember field (before ++ (name, old) :: after) := by
        rw [hcheck', hcheck, hassign, ← under_map, ← comp_map, ← comp_map]
        rfl
      have hplace : substitution.path = place ++ (field.camel :: path) := by simp [hpath]
      refine .substitute hmem hplace (List.cons_ne_nil _ _)
        (check_block_assign hapart hfield hothers hassigned) ?_
      intro normal hnormal
      obtain ⟨inner, hinner⟩ := accepted_of_given hnormal hfield hold
      obtain ⟨hdefault, hvalue⟩ := happlies inner hinner
      rw [← Shape.normal_of_check hnormal, Shape.normal]
      constructor
      · rw [Value.at?, last?_normalMembers hapart hfield, normalMember_of_given hold,
          field?_cons hapart hfield hne, ← hdefault, Option.bind_some,
          Shape.normal_of_check hinner]
      · rw [List.dropLast_cons_of_ne_nil hne, Value.at?, last?_normalMembers hapart hfield,
          normalMember_of_given hold, Option.bind_some, Shape.normal_of_check hinner]
        exact hvalue
  · exact .same (check_block_congr hothers (checkMember_congr hsame))

theorem tallies_of_omits {shape : Shape} {value value' : Value} (hsound : shape.Sound)
    (hdistinct : shape.Distinct) (hfits : Fits written place shape)
    (h : Omits written place shape value value') : Tallies written place shape value value' := by
  induction h with
  | member hfield hdefault hname habsent h =>
    obtain ⟨hapart, -⟩ := Shape.distinct_block_iff.mp hdistinct
    exact tallies_member hsound hapart hfits hfield hdefault hname habsent h
  | inside hfield hname h ih =>
    obtain ⟨hapart, hshapes⟩ := Shape.distinct_block_iff.mp hdistinct
    cases hsound with
    | block _ hsounds =>
      exact (ih (hsounds _ hfield) (hshapes _ hfield) (hfits.inside hapart hfield)).inside hapart
        hfield hname

end Document

end ServiceBoot
