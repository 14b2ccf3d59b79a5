import ServiceBoot.Text.Lowercase

/-!
# Lowercase texts in ASCII

The lowercase of a text is ASCII only if the text is, but for the kelvin sign, whose small letter is
`k`. So a word without this letter is the lowercase of no other texts than those that spell it with
capital letters of ASCII.
-/

namespace ServiceBoot.Text

def IsAscii (c : Char) : Prop := c.toNat < 0x80

instance (c : Char) : Decidable (IsAscii c) := inferInstanceAs (Decidable (c.toNat < 0x80))

namespace Lowercase

/-- The sign of the unit, which looks like the letter and has the same small letter. -/
def kelvin : Char := '\u212A'

/-- The characters whose small letters are in ASCII. -/
def HasAsciiSmall (c : Char) : Prop := IsAscii c ∨ c = kelvin

instance (c : Char) : Decidable (HasAsciiSmall c) :=
  inferInstanceAs (Decidable (IsAscii c ∨ c = kelvin))

/-! ## Single characters -/

variable {c : Char}

theorem of_isAscii {P : Char → Prop} (h : ∀ n < 0x80, P (Char.ofNat n)) (hc : IsAscii c) :
    P c := by
  have hnumber := h c.toNat hc
  rwa [Char.ofNat_toNat] at hnumber

theorem toLower_of_not_isAscii (h : ¬IsAscii c) : c.toLower = c := by
  have hcapital : ¬(c.val ≥ 'A'.val ∧ c.val ≤ 'Z'.val) := by
    rintro ⟨-, hlast⟩
    have hle : c.toNat ≤ 0x5A := UInt32.le_iff_toNat_le.mp hlast
    unfold IsAscii at h
    omega
  exact dif_neg hcapital

theorem isAscii_toLower_iff : IsAscii c.toLower ↔ IsAscii c := by
  by_cases h : IsAscii c
  · exact iff_of_true (of_isAscii (P := fun c ↦ IsAscii c.toLower) (by decide +kernel) h) h
  · rw [toLower_of_not_isAscii h]

theorem char_of_isAscii (h : IsAscii c) : char c = c.toLower :=
  of_isAscii (P := fun c ↦ char c = c.toLower) (by decide +kernel) h

theorem char_kelvin : char kelvin = 'k' := by decide +kernel

/-- No small letter of the run is in ASCII. Nor is one among the surrogates or beyond the last
character, where the null character would stand for it. -/
def Run.AvoidsAscii (run : Run) : Prop :=
  0x80 ≤ run.first + run.shift ∧
    (run.last + run.shift < 0xD800 ∨
      0xE000 ≤ run.first + run.shift ∧ run.last + run.shift < 0x110000)

instance (run : Run) : Decidable run.AvoidsAscii := by
  unfold Run.AvoidsAscii
  infer_instance

theorem runs_avoid_ascii : ∀ run ∈ runs, run.last < 0x80 ∨
    run.first = kelvin.toNat ∧ run.last = kelvin.toNat ∨ run.AvoidsAscii := by
  decide +kernel

theorem Run.AvoidsAscii.not_isAscii {run : Run} (h : run.AvoidsAscii) (hfirst : run.first ≤ c.toNat)
    (hlast : c.toNat ≤ run.last) : ¬IsAscii (Char.ofNat (c.toNat + run.shift).toNat) := by
  obtain ⟨hascii, hvalid⟩ := h
  have hchar : (c.toNat + run.shift).toNat.isValidChar := by
    unfold Nat.isValidChar
    omega
  have hnumber : (Char.ofNat (c.toNat + run.shift).toNat).toNat = (c.toNat + run.shift).toNat := by
    rw [Char.ofNat, dif_pos hchar]
    rfl
  rw [IsAscii, hnumber]
  omega

theorem not_isAscii_char (h : ¬IsAscii c) (hkelvin : c ≠ kelvin) : ¬IsAscii (char c) := by
  unfold char
  cases hrun : runs.find? (·.holds c.toNat) with
  | none => exact h
  | some run =>
    -- The run of the ASCII capitals does not hold `c`, and the kelvin sign has a run of its own.
    have hholds := List.find?_some hrun
    simp only [Run.holds, Bool.and_eq_true, decide_eq_true_eq] at hholds
    obtain ⟨⟨hfirst, hlast⟩, -⟩ := hholds
    unfold IsAscii at h
    rcases runs_avoid_ascii run (List.mem_of_find?_eq_some hrun) with hlow | ⟨heq, heq'⟩ | havoids
    · omega
    · exact absurd (Char.toNat_inj.mp (by omega)) hkelvin
    · exact havoids.not_isAscii hfirst hlast

theorem isAscii_char_iff : IsAscii (char c) ↔ HasAsciiSmall c := by
  constructor
  · intro h
    by_cases hascii : IsAscii c
    · exact .inl hascii
    · by_cases hkelvin : c = kelvin
      · exact .inr hkelvin
      · exact absurd h (not_isAscii_char hascii hkelvin)
  · rintro (hascii | rfl)
    · rw [char_of_isAscii hascii]
      exact isAscii_toLower_iff.mpr hascii
    · decide +kernel

/-! ## Texts -/

variable {before after text : List Char}

/-- Neither of the two letters that depend on their place or become two letters is concerned. -/
theorem following_cons (h : HasAsciiSmall c) :
    following before (c :: after) = char c :: following (c :: before) after := by
  have hsigma : c ≠ 'Σ' := fun hc ↦ absurd (hc ▸ h) (by decide)
  have hdotted : c ≠ 'İ' := fun hc ↦ absurd (hc ▸ h) (by decide)
  simp [following, hsigma, hdotted]

theorem exists_not_isAscii_following_cons (before after : List Char) (h : ¬HasAsciiSmall c) :
    ∃ small ∈ following before (c :: after), ¬IsAscii small := by
  unfold following
  by_cases hsigma : c = 'Σ'
  · refine ⟨if isFinal before after then 'ς' else 'σ', by simp [hsigma], ?_⟩
    split <;> decide
  · by_cases hdotted : c = 'İ'
    · exact ⟨'\u0307', by simp [hdotted], by decide⟩
    · exact ⟨char c, by simp [hsigma, hdotted], mt isAscii_char_iff.mp h⟩

theorem isAscii_following_iff :
    (∀ small ∈ following before text, IsAscii small) ↔ ∀ c ∈ text, HasAsciiSmall c := by
  -- What stands before decides on the form of a sigma alone, so the induction is for any of it.
  induction text generalizing before with
  | nil => simp [following]
  | cons c after ih =>
    by_cases h : HasAsciiSmall c
    · simp only [following_cons h, List.forall_mem_cons, isAscii_char_iff, ih]
    · obtain ⟨small, hmem, hsmall⟩ := exists_not_isAscii_following_cons before after h
      exact iff_of_false (fun hall ↦ hsmall (hall small hmem))
        fun hall ↦ h (hall c (List.mem_cons_self ..))

theorem following_eq_map (h : ∀ c ∈ text, HasAsciiSmall c) :
    following before text = text.map char := by
  induction text generalizing before with
  | nil => rfl
  | cons c after ih =>
    obtain ⟨hc, hafter⟩ := List.forall_mem_cons.mp h
    rw [following_cons hc, ih hafter, List.map_cons]

end Lowercase

open Lowercase

theorem toList_toLower (text : String) : text.toLower.toList = text.toList.map Char.toLower :=
  String.toList_map

theorem toLower_eq_iff {text word : String} :
    text.toLower = word ↔ text.toList.map Char.toLower = word.toList := by
  rw [← String.toList_inj, toList_toLower]

theorem forall_isAscii_toLower_iff {text : String} :
    (∀ c ∈ text.toLower.toList, IsAscii c) ↔ ∀ c ∈ text.toList, IsAscii c := by
  simp only [toList_toLower, List.forall_mem_map, isAscii_toLower_iff]

theorem lowercase_of_isAscii {text : String} (h : ∀ c ∈ text.toList, IsAscii c) :
    lowercase text = text.toLower := by
  symm
  rw [toLower_eq_iff, lowercase, String.toList_ofList, chars]
  calc
    _ = text.toList.map char := List.map_congr_left fun c hc ↦ (char_of_isAscii (h c hc)).symm
    _ = following [] text.toList := (following_eq_map fun c hc ↦ .inl (h c hc)).symm

/-- A word without `k` is the lowercase of a text exactly if it is so within ASCII. -/
theorem lowercase_eq_iff {text word : String} (hascii : ∀ c ∈ word.toList, IsAscii c)
    (hk : 'k' ∉ word.toList) : lowercase text = word ↔ text.toLower = word := by
  constructor
  · rintro rfl
    rw [lowercase, String.toList_ofList, chars] at hascii hk
    have hsmall := isAscii_following_iff.mp hascii
    rw [following_eq_map hsmall] at hk
    refine (lowercase_of_isAscii fun c hc ↦ ?_).symm
    rcases hsmall c hc with h | rfl
    · exact h
    · -- The kelvin sign would leave its `k` in the word.
      exact absurd (char_kelvin ▸ List.mem_map_of_mem hc) hk
  · rintro rfl
    exact lowercase_of_isAscii (forall_isAscii_toLower_iff.mp hascii)

example : lowercase "\u212A" = "k" := by decide +kernel

end ServiceBoot.Text
