import Mathlib.Control.Basic
import ServiceBoot.Proofs.Document.Shape

/-!
# Checking against a shape

A document is checked against a shape without giving it a type: the result is its normal form, or
its violations in the order of reports. The checks that do give a type follow the shapes, so what
holds of shapes holds of them.
-/

namespace ServiceBoot.Document

open Json (Value Members)

/-! ## Checked values as an applicative -/

instance : LawfulApplicative Checked where
  map_const := rfl
  id_map x := by cases x <;> rfl
  seqLeft_eq x y := by cases x <;> cases y <;> rfl
  seqRight_eq x y := by cases x <;> cases y <;> rfl
  pure_seq _ x := by cases x <;> rfl
  map_pure _ _ := rfl
  seq_pure f _ := by
    cases f <;> simp [Seq.seq, Functor.map, Checked.apply, Checked.map, Pure.pure,
      Checked.violations]
  seq_assoc x g h := by
    cases x <;> cases g <;> cases h <;>
      simp [Seq.seq, Functor.map, Checked.apply, Checked.map, Checked.violations]

variable {α β : Type}

@[simp]
theorem violations_accepted (a : α) : (Checked.accepted a).violations = [] := rfl

@[simp]
theorem violations_rejected (first : Violation) (others : List Violation) :
    (Checked.rejected first others : Checked α).violations = first :: others := rfl

@[simp]
theorem violations_fmap (f : α → β) (x : Checked α) : (f <$> x).violations = x.violations :=
  Checked.violations_map f x

@[simp]
theorem violations_seq (f : Checked (α → β)) (x : Checked α) :
    (f <*> x).violations = f.violations ++ x.violations := Checked.violations_apply f x

theorem under_map (f : α → β) (step : Step) (x : Checked α) :
    f <$> x.under step = (f <$> x).under step := by
  cases x <;> rfl

/-- An accepted list has its head and its tail accepted. -/
theorem cons_eq_accepted {x : Checked α} {xs : Checked (List α)} {as : List α} :
    List.cons <$> x <*> xs = .accepted as ↔
      ∃ a rest, x = .accepted a ∧ xs = .accepted rest ∧ a :: rest = as := by
  rw [seq_eq_accepted]
  constructor
  · rintro ⟨_, rest, hx, hxs, rfl⟩
    obtain ⟨a, ha, rfl⟩ := map_eq_accepted.mp hx
    exact ⟨a, rest, ha, hxs, rfl⟩
  · rintro ⟨a, rest, rfl, rfl, rfl⟩
    exact ⟨_, rest, rfl, rfl, rfl⟩

/-! ## The check of a shape -/

def Leaf.check : Leaf → Value → Checked Value
  | .integer, value => Value.int <$> Document.integer value
  | .text, value => Value.str <$> Document.text value
  | .texts, value => (fun texts ↦ Value.list (texts.map .str)) <$> Document.texts value
  | .level, value => Value.str <$> levelText value
  | .endpoint, value => Value.str <$> endpointText value

mutual

def Shape.check : Shape → Value → Checked Value
  | .leaf leaf, value => leaf.check value
  | .block fields, .object members => Value.object <$> checkMembers fields members
  | .block _, _ => complain .notObject

def checkMembers : List (Field Shape) → Members → Checked Members
  | [], _ => pure []
  | field :: fields, members =>
    List.cons <$> checkMember field members <*> checkMembers fields members

def checkMember : Field Shape → Members → Checked (String × Value)
  | ⟨camel, snake, shape, default?⟩, members =>
    match Field.given? ⟨camel, snake, shape, default?⟩ members with
    | some found => (camel, ·) <$> (shape.check found.value).under (.key found.key)
    | none =>
      match default? with
      | some value => .accepted (camel, value)
      | none => .rejected ⟨[.key camel], .missing⟩ []

end

variable {field : Field Shape} {fields : List (Field Shape)} {members : Members}

theorem checkMember_of_given {found : Found} (h : field.given? members = some found) :
    checkMember field members =
      (field.camel, ·) <$> (field.shape.check found.value).under (.key found.key) := by
  obtain ⟨camel, snake, shape, default?⟩ := field
  simp only [checkMember, h]

theorem checkMember_of_default {value : Value} (h : field.given? members = none)
    (hdefault : field.default? = some value) :
    checkMember field members = .accepted (field.camel, value) := by
  obtain ⟨camel, snake, shape, default?⟩ := field
  cases hdefault
  simp only [checkMember, h]

theorem checkMember_of_missing (h : field.given? members = none)
    (hdefault : field.default? = none) :
    checkMember field members = .rejected ⟨[.key field.camel], .missing⟩ [] := by
  obtain ⟨camel, snake, shape, default?⟩ := field
  cases hdefault
  simp only [checkMember, h]

theorem normalMember_of_given {found : Found} (h : field.given? members = some found) :
    normalMember field members = (field.camel, field.shape.normal found.value) := by
  obtain ⟨camel, snake, shape, default?⟩ := field
  simp only [normalMember, h]

theorem normalMember_of_default {value : Value} (h : field.given? members = none)
    (hdefault : field.default? = some value) :
    normalMember field members = (field.camel, value) := by
  obtain ⟨camel, snake, shape, default?⟩ := field
  cases hdefault
  simp only [normalMember, h, Option.getD_some]

theorem checkMember_congr {result : Members} (h : field.given? result = field.given? members) :
    checkMember field result = checkMember field members := by
  obtain ⟨camel, snake, shape, default?⟩ := field
  simp only [checkMember, h]

theorem checkMembers_congr {result : Members}
    (h : ∀ field ∈ fields, checkMember field result = checkMember field members) :
    checkMembers fields result = checkMembers fields members := by
  induction fields with
  | nil => rfl
  | cons field fields ih =>
    obtain ⟨hfield, hfields⟩ := List.forall_mem_cons.mp h
    rw [checkMembers, checkMembers, hfield, ih hfields]

/-! ## Values without fields -/

theorem integer_eq_accepted {value : Value} {n : Int} :
    integer value = .accepted n ↔ value = .int n := by
  cases value <;> simp [integer, complain]

theorem text_eq_accepted {value : Value} {given : String} :
    text value = .accepted given ↔ value = .str given := by
  cases value <;> simp [text, complain]

theorem textsFrom_eq_accepted {position : Nat} {items : List Value} {given : List String} :
    textsFrom position items = .accepted given ↔ items = given.map .str := by
  induction items generalizing position given with
  | nil => simp [textsFrom, eq_comm]
  | cons item items ih =>
    have hcons : textsFrom position (item :: items) =
        List.cons <$> (text item).under (.index position) <*> textsFrom (position + 1) items := rfl
    rw [hcons, cons_eq_accepted]
    constructor
    · rintro ⟨first, rest, hfirst, hrest, rfl⟩
      rw [text_eq_accepted.mp (under_eq_accepted.mp hfirst), ih.mp hrest, List.map_cons]
    · intro h
      cases given with
      | nil => cases h
      | cons first rest =>
        obtain ⟨rfl, hitems⟩ := List.cons.inj h
        exact ⟨first, rest, rfl, ih.mpr hitems, rfl⟩

theorem texts_eq_accepted {value : Value} {given : List String} :
    texts value = .accepted given ↔ value = .list (given.map .str) := by
  cases value <;> simp [texts, complain, textsFrom_eq_accepted]

theorem endpointText_eq_accepted {value : Value} {given : String}
    (h : endpointText value = .accepted given) : value = .str given := by
  obtain ⟨text, htext, h⟩ := bind_eq_accepted.mp h
  cases hendpoint : Endpoint.ofText text with
  | error fault => simp [hendpoint, complain] at h
  | ok endpoint =>
    simp only [hendpoint, Checked.accepted.injEq] at h
    exact h ▸ text_eq_accepted.mp htext

/-! ## Acceptance -/

theorem Leaf.normal_of_check {leaf : Leaf} {value normal : Value}
    (h : leaf.check value = .accepted normal) : (Shape.leaf leaf).normal value = normal := by
  cases leaf with
  | integer =>
    obtain ⟨n, hn, rfl⟩ := map_eq_accepted.mp h
    exact integer_eq_accepted.mp hn ▸ rfl
  | text =>
    obtain ⟨given, hgiven, rfl⟩ := map_eq_accepted.mp h
    exact text_eq_accepted.mp hgiven ▸ rfl
  | texts =>
    obtain ⟨given, hgiven, rfl⟩ := map_eq_accepted.mp h
    exact texts_eq_accepted.mp hgiven ▸ rfl
  | level =>
    obtain ⟨name, hname, rfl⟩ := map_eq_accepted.mp h
    obtain ⟨given, level, rfl, hlevel, rfl⟩ := levelText_eq_accepted_iff.mp hname
    exact congrArg Value.str (Log.Level.ofText_eq_ok_iff_normalName.mp hlevel)
  | endpoint =>
    obtain ⟨given, hgiven, rfl⟩ := map_eq_accepted.mp h
    exact endpointText_eq_accepted hgiven ▸ rfl

theorem normalMember_of_check {normal : String × Value}
    (hshape : ∀ value normal, field.shape.check value = .accepted normal →
      field.shape.normal value = normal)
    (h : checkMember field members = .accepted normal) :
    normalMember field members = normal := by
  cases hgiven : field.given? members with
  | some found =>
    rw [checkMember_of_given hgiven] at h
    obtain ⟨value, hvalue, rfl⟩ := map_eq_accepted.mp h
    rw [normalMember_of_given hgiven, hshape _ _ (under_eq_accepted.mp hvalue)]
  | none =>
    cases hdefault : field.default? with
    | some value =>
      rw [checkMember_of_default hgiven hdefault] at h
      cases h
      exact normalMember_of_default hgiven hdefault
    | none =>
      rw [checkMember_of_missing hgiven hdefault] at h
      cases h

theorem normalMembers_of_check {normal : Members}
    (hshapes : ∀ field ∈ fields, ∀ value normal, field.shape.check value = .accepted normal →
      field.shape.normal value = normal)
    (h : checkMembers fields members = .accepted normal) :
    normalMembers fields members = normal := by
  induction fields generalizing normal with
  | nil =>
    cases h
    rfl
  | cons field fields ih =>
    obtain ⟨hfield, hfields⟩ := List.forall_mem_cons.mp hshapes
    obtain ⟨first, rest, hfirst, hrest, rfl⟩ := cons_eq_accepted.mp h
    rw [normalMembers, normalMember_of_check hfield hfirst, ih hfields hrest]

/-- What is accepted is the normal form. -/
theorem Shape.normal_of_check {shape : Shape} {value normal : Value}
    (h : shape.check value = .accepted normal) : shape.normal value = normal := by
  induction shape using Shape.induction generalizing value normal with
  | leaf leaf => exact Leaf.normal_of_check h
  | block fields ih =>
    cases value with
    | object members =>
      obtain ⟨members, hmembers, rfl⟩ := map_eq_accepted.mp h
      rw [Shape.normal, normalMembers_of_check (fun field hfield _ _ ↦ ih field hfield) hmembers]
    | _ => cases h

/-! ## Checks that give a type -/

/-- A check that gives a type to what a shape accepts, and complains of the same. -/
def Follows {α : Type} (check : Value → Checked α) (write : α → Value) (shape : Shape) : Prop :=
  ∀ value, write <$> check value = shape.check value

theorem follows_integer : Follows integer .int (.leaf .integer) := fun _ ↦ rfl

theorem follows_text : Follows text .str (.leaf .text) := fun _ ↦ rfl

theorem follows_texts : Follows texts (fun texts ↦ .list (texts.map .str)) (.leaf .texts) :=
  fun _ ↦ rfl

theorem follows_levelText : Follows levelText .str (.leaf .level) := fun _ ↦ rfl

theorem follows_endpointText : Follows endpointText .str (.leaf .endpoint) := fun _ ↦ rfl

theorem follows_block {check : Members → Checked α} {write : α → Members}
    (h : ∀ members, write <$> check members = checkMembers fields members) :
    Follows (block check) (.object ∘ write) (.block fields) := by
  intro value
  cases value with
  | object members => rw [Shape.check, ← h, comp_map]; rfl
  | _ => rfl

namespace Follows

variable {check : Value → Checked α} {write : α → Value} {shape : Shape} {camel snake : String}

theorem mandatory (h : Follows check write shape) (hsnake : snakeCase camel = snake)
    (members : Members) : checkMember ⟨camel, snake, shape, none⟩ members =
      (fun a ↦ (camel, write a)) <$> mandatory members camel check := by
  subst hsnake
  have hfind :
      find? members camel = Field.given? ⟨camel, snakeCase camel, shape, none⟩ members := rfl
  rw [Document.mandatory, hfind]
  cases hgiven : Field.given? ⟨camel, snakeCase camel, shape, none⟩ members with
  | some found =>
    rw [checkMember_of_given hgiven, ← h, ← under_map, ← comp_map]
    rfl
  | none =>
    rw [checkMember_of_missing hgiven rfl]
    rfl

theorem defaulted (h : Follows check write shape) (hsnake : snakeCase camel = snake) (default : α)
    (members : Members) : checkMember ⟨camel, snake, shape, some (write default)⟩ members =
      (fun a ↦ (camel, write a)) <$> defaulted members camel default check := by
  subst hsnake
  have hfind : find? members camel =
      Field.given? ⟨camel, snakeCase camel, shape, some (write default)⟩ members := rfl
  rw [Document.defaulted, hfind]
  cases hgiven : Field.given? ⟨camel, snakeCase camel, shape, some (write default)⟩ members with
  | some found =>
    rw [checkMember_of_given hgiven, ← h, ← under_map, ← comp_map]
    rfl
  | none =>
    rw [checkMember_of_default hgiven rfl]
    rfl

end Follows

end ServiceBoot.Document
