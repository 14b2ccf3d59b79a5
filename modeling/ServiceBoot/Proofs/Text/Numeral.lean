import Mathlib.Data.List.Forall2
import Mathlib.Data.Nat.Digits.Defs
import ServiceBoot.Text.Numeral

/-!
# What a numeral denotes

A run of decimal digits, each in the script that it likes, denotes the number that has these digits
in base ten. The reader of numerals finds this number and no other, and the numeral that is written
for a number denotes it.
-/

namespace ServiceBoot.Text.Numeral

/-- A character that stands for a digit: so many characters behind the zero of a script. -/
def IsDigitOf (c : Char) (d : Nat) : Prop := d < 10 ∧ ∃ base ∈ zeros, c.toNat = base + d

/-- Each character stands for a digit of the number, from the highest place to the lowest. -/
def Denotes (chars : List Char) (n : Nat) : Prop :=
  ∃ digits, List.Forall₂ IsDigitOf chars digits ∧ n = Nat.ofDigits 10 digits.reverse

/-! ## Digits -/

theorem zeros_apart : zeros.Pairwise fun base later ↦ base + 10 ≤ later := by decide +kernel

/-- The first script that a character belongs to is its only one. -/
theorem digit?_eq_some_iff {c : Char} {d : Nat} : digit? c = some d ↔ IsDigitOf c d := by
  constructor
  · intro h
    obtain ⟨base, hfound, hd⟩ := Option.map_eq_some_iff.mp h
    have hrange := List.find?_some hfound
    simp only [Bool.and_eq_true, decide_eq_true_eq] at hrange
    exact ⟨by omega, base, List.mem_of_find?_eq_some hfound, by omega⟩
  · rintro ⟨hd, base, hbase, hc⟩
    have hfind : zeros.find? (fun base ↦ base ≤ c.toNat && c.toNat < base + 10) = some base := by
      obtain ⟨before, after, hzeros⟩ := List.append_of_mem hbase
      rw [List.find?_eq_some_iff_append]
      refine ⟨by simp; omega, before, after, hzeros, ?_⟩
      intro other hother
      have happart := zeros_apart
      rw [hzeros, List.pairwise_append] at happart
      have hbelow := happart.2.2 other hother base (List.mem_cons_self ..)
      simp
      omega
    rw [digit?, hfind, Option.map_some, hc, Nat.add_sub_cancel_left]

theorem isDecimal_of_isDigitOf {c : Char} {d : Nat} (h : IsDigitOf c d) : isDecimal c = true := by
  rw [isDecimal, digit?_eq_some_iff.mpr h, Option.isSome_some]

theorem isDigitOf_of_isDigit {c : Char} (h : c.isDigit = true) :
    IsDigitOf c (c.toNat - '0'.toNat) := by
  have hrange : '0'.toNat ≤ c.toNat ∧ c.toNat ≤ '9'.toNat := by
    simpa [Char.isDigit, Char.le_def, UInt32.le_iff_toNat_le] using h
  have hzero : '0'.toNat = 0x30 := rfl
  have hnine : '9'.toNat = 0x39 := rfl
  exact ⟨by omega, 0x30, List.mem_cons_self .., by omega⟩

/-! ## Runs of digits -/

theorem mapM_digit?_eq_some_iff {chars : List Char} {digits : List Nat} :
    chars.mapM digit? = some digits ↔ List.Forall₂ IsDigitOf chars digits := by
  induction chars generalizing digits with
  | nil => simp [List.forall₂_nil_left_iff, eq_comm]
  | cons c chars ih =>
    rw [List.mapM_cons]
    simp only [Option.bind_eq_bind, Option.bind_eq_some_iff, Option.pure_def, Option.some.injEq,
      List.forall₂_cons_left_iff, digit?_eq_some_iff, ih]
    constructor
    · rintro ⟨d, hd, rest, hrest, rfl⟩
      exact ⟨d, rest, hd, hrest, rfl⟩
    · rintro ⟨d, rest, hd, hrest, rfl⟩
      exact ⟨d, hd, rest, hrest, rfl⟩

theorem ofDigits_eq (digits : List Nat) : ofDigits digits = Nat.ofDigits 10 digits.reverse := by
  rw [ofDigits, Nat.ofDigits_eq_foldr, List.foldr_reverse]
  congr 1
  funext n d
  simp only [Nat.cast_id]
  omega

theorem value?_eq_some_iff {chars : List Char} {n : Nat} :
    value? chars = some n ↔ Denotes chars n := by
  rw [value?, Option.map_eq_some_iff]
  simp only [mapM_digit?_eq_some_iff, ofDigits_eq, Denotes, eq_comm]

theorem Denotes.isDecimal {chars : List Char} {n : Nat} (h : Denotes chars n) :
    ∀ c ∈ chars, Numeral.isDecimal c = true := by
  obtain ⟨digits, hdigits, -⟩ := h
  induction hdigits with
  | nil => exact List.forall_mem_nil _
  | cons hd _ ih => exact List.forall_mem_cons.mpr ⟨isDecimal_of_isDigitOf hd, ih⟩

/-! ## Numerals as they are written -/

theorem denotes_toDigits (n : Nat) : Denotes (Nat.toDigits 10 n) n := by
  refine ⟨(Nat.toDigits 10 n).map fun c ↦ c.toNat - '0'.toNat, ?_, ?_⟩
  · rw [List.forall₂_map_right_iff, List.forall₂_same]
    exact fun c hc ↦ isDigitOf_of_isDigit (Nat.isDigit_of_mem_toDigits (by decide) (by decide) hc)
  · calc
      n = Nat.ofDigitChars 10 (Nat.toDigits 10 n) 0 :=
        (Nat.ofDigitChars_toDigits (by decide) (by decide)).symm
      _ = ofDigits ((Nat.toDigits 10 n).map fun c ↦ c.toNat - '0'.toNat) := by
        rw [Nat.ofDigitChars_eq_foldl, ofDigits, List.foldl_map]
        congr 1
        funext m c
        rw [Nat.mul_comm]
      _ = Nat.ofDigits 10 ((Nat.toDigits 10 n).map fun c ↦ c.toNat - '0'.toNat).reverse :=
        ofDigits_eq _

end ServiceBoot.Text.Numeral
