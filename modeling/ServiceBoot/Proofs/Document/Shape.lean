import ServiceBoot.Proofs.Document.Lookup

/-!
# Shapes of documents

What a document has to look like, written down as data: the fields of an object under both spellings
of their keys, what each of them has to hold, and what stands for one that is left out. From this
alone follows what violates a shape, in which order violations stand in a report, and which document
an accepted one amounts to.
-/

namespace ServiceBoot.Document

open Json (Value Members)

/-- What a value that is no block has to be. -/
inductive Leaf where
  | integer
  | text
  | texts
  | level
  | endpoint
  deriving DecidableEq, Repr

inductive Shape where
  | leaf (leaf : Leaf)
  | block (fields : List (Field Shape))

namespace Shape

/-- The fields of a block are of smaller shapes. -/
theorem induction {P : Shape → Prop} (leaf : ∀ leaf, P (.leaf leaf))
    (block : ∀ fields, (∀ field ∈ fields, P field.shape) → P (.block fields)) :
    ∀ shape, P shape := by
  intro shape
  induction shape using Shape.rec (motive_2 := fun fields ↦ ∀ field ∈ fields, P field.shape)
    (motive_3 := fun field ↦ P field.shape) with
  | leaf kind => exact leaf kind
  | block fields ih => exact block fields ih
  | nil =>
    rename_i field hfield
    cases hfield
  | cons first others hfirst hothers =>
    rename_i field hfield
    rcases List.mem_cons.mp hfield with rfl | hmem
    · exact hfirst
    · exact hothers field hmem
  | mk camel snake shape default? ih => exact ih

/-- No two fields of an object share a key. -/
inductive Distinct : Shape → Prop
  | leaf {leaf : Leaf} : Distinct (.leaf leaf)
  | block {fields : List (Field Shape)} :
      fields.Pairwise Field.Apart → (∀ field ∈ fields, Distinct field.shape) →
      Distinct (.block fields)

@[simp]
theorem distinct_leaf (leaf : Leaf) : (Shape.leaf leaf).Distinct := .leaf

theorem distinct_block_iff {fields : List (Field Shape)} : (Shape.block fields).Distinct ↔
    fields.Pairwise Field.Apart ∧ ∀ field ∈ fields, field.shape.Distinct := by
  constructor
  · intro h
    cases h with
    | block hapart hshapes => exact ⟨hapart, hshapes⟩
  · rintro ⟨hapart, hshapes⟩
    exact .block hapart hshapes

end Shape

/-- A key tells which of the fields it belongs to. -/
theorem eq_of_spelling {fields : List (Field Shape)} (h : fields.Pairwise Field.Apart)
    {first second : Field Shape} (hfirst : first ∈ fields) (hsecond : second ∈ fields)
    {name : String} (hname : name ∈ first.spellings) (hname' : name ∈ second.spellings) :
    first = second := by
  by_contra hne
  exact h.forall hfirst hsecond hne name hname hname'

theorem find?_of_unique {fields : List (Field Shape)} {field : Field Shape}
    {p : Field Shape → Bool} (hfield : field ∈ fields) (hp : p field = true)
    (h : ∀ other ∈ fields, p other = true → other = field) : fields.find? p = some field := by
  obtain ⟨found, hfound⟩ : ∃ found, fields.find? p = some found := by
    rw [← Option.isSome_iff_exists, List.find?_isSome]
    exact ⟨field, hfield, hp⟩
  rw [hfound, h found (List.mem_of_find?_eq_some hfound) (List.find?_some hfound)]

/-- Members that stand in the same place under keys of one field are the same to all others. -/
theorem given?_of_other {fields : List (Field Shape)} {field : Field Shape}
    (hapart : fields.Pairwise Field.Apart) (hfield : field ∈ fields) {before after : Members}
    {name name' : String} {value value' : Value}
    (hname : name ∈ field.spellings) (hname' : name' ∈ field.spellings) :
    ∀ other ∈ fields, other ≠ field →
      other.given? (before ++ (name', value') :: after) =
        other.given? (before ++ (name, value) :: after) := by
  intro other hother hne
  apply Field.given?_congr
  intro key hkey
  have hspelling : key ∉ field.spellings := fun h ↦
    hne (eq_of_spelling hapart hother hfield hkey h)
  rw [Members.last?_insert_of_ne, Members.last?_insert_of_ne]
  · rintro rfl
    exact hspelling hname
  · rintro rfl
    exact hspelling hname'

/-! ## Normal forms -/

mutual

/-- The document that an accepted one amounts to: every declared field under its first spelling, in
the order of declaration, with the value that was given or with its default, and nothing else. -/
def Shape.normal : Shape → Value → Value
  | .leaf .level, .str text => .str (Log.Level.normalName text)
  | .leaf _, value => value
  | .block fields, .object members => .object (normalMembers fields members)
  | .block _, value => value

def normalMembers : List (Field Shape) → Members → Members
  | [], _ => []
  | field :: fields, members => normalMember field members :: normalMembers fields members

def normalMember : Field Shape → Members → String × Value
  | ⟨camel, snake, shape, default?⟩, members =>
    match Field.given? ⟨camel, snake, shape, default?⟩ members with
    | some found => (camel, shape.normal found.value)
    | none => (camel, default?.getD .null)

end

/-! ## Violations -/

/-- What is wrong with a value, and where. -/
inductive Violates : Shape → Value → Violation → Prop
  | notInteger {value : Value} (h : value.kind ≠ .int) :
      Violates (.leaf .integer) value ⟨[], .notInteger⟩
  | notText {leaf : Leaf} {value : Value} (hleaf : leaf ∈ [.text, .level, .endpoint])
      (h : value.kind ≠ .str) : Violates (.leaf leaf) value ⟨[], .notText⟩
  | notList {value : Value} (h : value.kind ≠ .list) :
      Violates (.leaf .texts) value ⟨[], .notList⟩
  | item {before after : List Value} {item : Value} (h : item.kind ≠ .str) :
      Violates (.leaf .texts) (.list (before ++ item :: after)) ⟨[.index before.length], .notText⟩
  | unknownLevel {text : String} (h : ∀ level : Log.Level, level.name ≠ Log.Level.normalName text) :
      Violates (.leaf .level) (.str text) ⟨[], .unknownLevel (Log.Level.normalName text)⟩
  | badEndpoint {text : String} {fault : Endpoint.Fault} (h : Endpoint.ofText text = .error fault) :
      Violates (.leaf .endpoint) (.str text) ⟨[], .badEndpoint fault⟩
  | notObject {fields : List (Field Shape)} {value : Value} (h : value.kind ≠ .object) :
      Violates (.block fields) value ⟨[], .notObject⟩
  | missing {fields : List (Field Shape)} {field : Field Shape} {members : Members}
      (hfield : field ∈ fields) (hdefault : field.default? = none)
      (hcamel : field.camel ∉ members.names) (hsnake : field.snake ∉ members.names) :
      Violates (.block fields) (.object members) ⟨[.key field.camel], .missing⟩
  | inside {fields : List (Field Shape)} {field : Field Shape} {members : Members} {found : Found}
      {violation : Violation} (hfield : field ∈ fields)
      (hfound : field.given? members = some found)
      (h : Violates field.shape found.value violation) :
      Violates (.block fields) (.object members) (violation.under (.key found.key))

/-- The order of reports: items by their positions, and members by the declaration of their
fields. -/
inductive Precedes : Shape → List Step → List Step → Prop
  | item {i j : Nat} (h : i < j) : Precedes (.leaf .texts) [.index i] [.index j]
  | fields {fields : List (Field Shape)} {first second : Field Shape} {name name' : String}
      {place place' : List Step} (h : [first, second].Sublist fields)
      (hname : name ∈ first.spellings) (hname' : name' ∈ second.spellings) :
      Precedes (.block fields) (.key name :: place) (.key name' :: place')
  | inside {fields : List (Field Shape)} {field : Field Shape} {name : String}
      {place place' : List Step} (hfield : field ∈ fields) (hname : name ∈ field.spellings)
      (h : Precedes field.shape place place') :
      Precedes (.block fields) (.key name :: place) (.key name :: place')

theorem Precedes.ne {shape : Shape} {place place' : List Step} (h : Precedes shape place place')
    (hdistinct : shape.Distinct) : place ≠ place' := by
  induction h with
  | item hlt =>
    intro heq
    cases heq
    omega
  | @fields fields first second name name' place place' hsub hname hname' =>
    have hpair := (Shape.distinct_block_iff.mp hdistinct).1.sublist hsub
    intro heq
    cases heq
    exact (List.rel_of_pairwise_cons hpair (List.mem_singleton_self _)) name hname hname'
  | inside hfield _ _ ih =>
    obtain ⟨-, hshapes⟩ := Shape.distinct_block_iff.mp hdistinct
    intro heq
    cases heq
    exact ih (hshapes _ hfield) rfl

end ServiceBoot.Document
