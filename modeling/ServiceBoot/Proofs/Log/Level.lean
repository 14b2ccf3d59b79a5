import Mathlib.Logic.Relation
import ServiceBoot.Log.Level
import ServiceBoot.Proofs.Text.Lowercase

/-!
# Texts of a level

A level is read from its spellings, in small or capital letters of ASCII, and from nothing else: the
full lowercase mapping lets no other letter pass for one of theirs. Two texts are read as one level
exactly if they differ in case, or as a spelling does from the name that it stands for.
-/

namespace ServiceBoot.Log.Level

/-- The ways to spell a level in small letters. The empty text stands for the usual one. -/
def spellings : Level → List String
  | .debug => ["debug"]
  | .info => ["", "info"]
  | .warning => ["warn", "warning"]
  | .error => ["error"]
  | .critical => ["critical"]

variable {text other word : String} {level : Level}

/-! ## Spellings -/

/-- A spelling is small. Nor does it have the letter that the kelvin sign could stand for. -/
theorem small_of_mem_spellings (h : word ∈ level.spellings) :
    word.toLower = word ∧ (∀ c ∈ word.toList, Text.IsAscii c) ∧ 'k' ∉ word.toList := by
  have hall : ∀ word ∈ level.spellings, word.toList.map Char.toLower = word.toList ∧
      word.toList.all (Text.IsAscii ·) = true ∧ 'k' ∉ word.toList := by
    cases level <;> decide
  obtain ⟨hlower, hascii, hk⟩ := hall word h
  exact ⟨Text.toLower_eq_iff.mpr hlower, by simpa using hascii, hk⟩

theorem lowercase_mem_spellings_iff :
    Text.lowercase text ∈ level.spellings ↔ text.toLower ∈ level.spellings := by
  have hiff {word : String} (h : word ∈ level.spellings) :
      Text.lowercase text = word ↔ text.toLower = word := by
    obtain ⟨-, hascii, hk⟩ := small_of_mem_spellings h
    exact Text.lowercase_eq_iff hascii hk
  constructor
  · intro h
    rwa [(hiff h).mp rfl]
  · intro h
    rwa [(hiff h).mpr rfl]

theorem toLower_eq_empty_iff : text.toLower = "" ↔ text = "" := by
  rw [Text.toLower_eq_iff, ← String.toList_inj]
  exact List.map_eq_nil_iff

theorem exists_mem_spellings_iff :
    (∃ level : Level, text.toLower ∈ level.spellings) ↔ text = "" ∨
      text.toLower ∈ ["debug", "info", "warn", "warning", "error", "critical"] := by
  rw [← toLower_eq_empty_iff]
  constructor
  · rintro ⟨level, h⟩
    have hall : ∀ word ∈ level.spellings,
        word = "" ∨ word ∈ ["debug", "info", "warn", "warning", "error", "critical"] := by
      cases level <;> decide
    exact hall _ h
  · intro h
    have hall : ∀ word ∈ ["", "debug", "info", "warn", "warning", "error", "critical"],
        ∃ level ∈ all, word ∈ level.spellings := by decide
    obtain ⟨level, -, hlevel⟩ := hall _ (List.mem_cons.mpr h)
    exact ⟨level, hlevel⟩

theorem isAscii_of_mem_spellings (h : text.toLower ∈ level.spellings) :
    ∀ c ∈ text.toList, Text.IsAscii c := by
  obtain ⟨-, hascii, -⟩ := small_of_mem_spellings h
  exact Text.forall_isAscii_toLower_iff.mp hascii

/-! ## Reading a level -/

theorem normalName_eq_name_iff :
    normalName text = level.name ↔ Text.lowercase text ∈ level.spellings := by
  simp only [normalName]
  split
  next hempty =>
    rw [hempty]
    cases level <;> decide
  next hempty =>
    split
    next hshort =>
      rw [hshort]
      cases level <;> decide
    next hshort => cases level <;> simp [name, spellings, hempty, hshort]

theorem ofText_eq_ok_iff : ofText text = .ok level ↔ text.toLower ∈ level.spellings := by
  rw [ofText_eq_ok_iff_normalName, normalName_eq_name_iff, lowercase_mem_spellings_iff]

/-- What is not read as a level is named by its full lowercase. -/
theorem ofText_eq_error (h : ∀ level : Level, text.toLower ∉ level.spellings) :
    ofText text = .error (Text.lowercase text) := by
  have hne (level : Level) : ∀ word ∈ level.spellings, Text.lowercase text ≠ word := by
    rintro word hword rfl
    exact h level (lowercase_mem_spellings_iff.mp hword)
  have hname : normalName text = Text.lowercase text := by
    simp [normalName, hne .info "" (by decide), hne .warning "warn" (by decide)]
  cases htext : ofText text with
  | ok level => exact absurd (ofText_eq_ok_iff.mp htext) (h level)
  | error unknown =>
    unfold ofText at htext
    split at htext
    · cases htext
    · rw [← htext, hname]

/-! ## Texts of the same level -/

/-- Texts that differ in the case of ASCII letters at most, and the two that are short for the name
of a level. -/
inductive Interchangeable : String → String → Prop
  | case {text other : String} (h : text.toLower = other.toLower) : Interchangeable text other
  | empty : Interchangeable "" "info"
  | short : Interchangeable "warn" "warning"

theorem ofText_congr (h : Relation.EqvGen Interchangeable text other) :
    ofText text = .ok level ↔ ofText other = .ok level := by
  simp only [ofText_eq_ok_iff]
  induction h with
  | rel text other h =>
    cases h with
    | case h => rw [h]
    | empty => cases level <;> decide +kernel
    | short => cases level <;> decide +kernel
  | refl text => rfl
  | symm text other _ ih => exact ih.symm
  | trans text between other _ _ ih ih' => exact ih.trans ih'

theorem eqvGen_of_mem_spellings (h : word ∈ level.spellings) :
    Relation.EqvGen Interchangeable word level.name := by
  cases level with
  | info =>
    cases h with
    | head => exact .rel _ _ .empty
    | tail _ h => exact List.mem_singleton.mp h ▸ .refl _
  | warning =>
    cases h with
    | head => exact .rel _ _ .short
    | tail _ h => exact List.mem_singleton.mp h ▸ .refl _
  | debug | error | critical => exact List.mem_singleton.mp h ▸ .refl _

theorem eqvGen_name (h : ofText text = .ok level) :
    Relation.EqvGen Interchangeable text level.name := by
  have hmem := ofText_eq_ok_iff.mp h
  have hcase : Interchangeable text text.toLower := .case (small_of_mem_spellings hmem).1.symm
  exact .trans _ _ _ (.rel _ _ hcase) (eqvGen_of_mem_spellings hmem)

theorem eq_iff_eqvGen {level' : Level} (htext : ofText text = .ok level)
    (hother : ofText other = .ok level') :
    level = level' ↔ Relation.EqvGen Interchangeable text other := by
  constructor
  · rintro rfl
    exact .trans _ _ _ (eqvGen_name htext) (.symm _ _ (eqvGen_name hother))
  · intro h
    exact Except.ok.inj (((ofText_congr h).mp htext).symm.trans hother)

end ServiceBoot.Log.Level
