import Mathlib.Algebra.Group.Nat.Defs
import ServiceBoot.Proofs.Except
import ServiceBoot.Proofs.Json.Numbers

/-!
# Integers that were read

The reader takes integers of some length at most, so every integer in a value that it has read
could be read again.
-/

namespace ServiceBoot.Json

/-- All integers in the value are readable. -/
inductive Value.HasReadableIntegers [Limits] : Value → Prop
  | null : HasReadableIntegers .null
  | bool {value : Bool} : HasReadableIntegers (.bool value)
  | int {n : Int} (h : IsReadable n) : HasReadableIntegers (.int n)
  | real {text : String} : HasReadableIntegers (.real text)
  | str {text : String} : HasReadableIntegers (.str text)
  | list {items : List Value} (h : ∀ item ∈ items, HasReadableIntegers item) :
      HasReadableIntegers (.list items)
  | object {members : Members} (h : ∀ member ∈ members, HasReadableIntegers member.2) :
      HasReadableIntegers (.object members)

namespace Reader

/-! ## Numbers -/

theorem ofDigits_lt {digits : Bytes} (h : ∀ b ∈ digits, isDigit b = true) :
    ofDigits digits < 10 ^ digits.length := by
  have hstep (n : Nat) (digits : Bytes) (h : ∀ b ∈ digits, isDigit b = true) :
      digits.foldl (fun n b ↦ n * 10 + (b.toNat - 0x30)) n < (n + 1) * 10 ^ digits.length := by
    induction digits generalizing n with
    | nil => simp
    | cons b digits ih =>
      obtain ⟨hb, hothers⟩ := List.forall_mem_cons.mp h
      have hdigit : b.toNat - 0x30 < 10 := by
        simp only [isDigit, Bool.and_eq_true, decide_eq_true_eq, UInt8.le_iff_toNat_le] at hb
        have hmax : (0x39 : UInt8).toNat = 57 := rfl
        omega
      calc
        _ < (n * 10 + (b.toNat - 0x30) + 1) * 10 ^ digits.length :=
          ih _ hothers
        _ ≤ ((n + 1) * 10) * 10 ^ digits.length := Nat.mul_le_mul_right _ (by omega)
        _ = (n + 1) * 10 ^ (digits.length + 1) := by
          rw [Nat.pow_succ, Nat.mul_assoc, Nat.mul_comm 10]
  simpa [ofDigits] using hstep 0 digits h

theorem length_toDigits_ofDigits {digits : Bytes} {bound : Nat}
    (h : ∀ b ∈ digits, isDigit b = true) (hbound : 0 < bound) (hlength : digits.length ≤ bound) :
    (Nat.toDigits 10 (ofDigits digits)).length ≤ bound := by
  rw [Nat.length_toDigits_le_iff (by decide) hbound]
  exact Nat.lt_of_lt_of_le (ofDigits_lt h) (Nat.pow_le_pow_right (by decide) hlength)

theorem digits_of_integerPart {counted : Nat} {s digits rest : Bytes}
    (h : integerPart counted s = .ok (digits, rest)) :
    (∀ b ∈ digits, isDigit b = true) ∧ counted + digits.length ≤ maxDigits := by
  simp only [integerPart] at h
  split at h
  · cases h
  · split at h
    · cases h
    · rename_i hlength
      cases h
      exact ⟨List.all_eq_true.mp List.all_takeWhile, Nat.not_lt.mp hlength⟩

theorem word_eq_ok {v w : Value} {expected s rest : Bytes}
    (h : word v expected s = .ok (w, rest)) : w = v := by
  induction expected generalizing s with
  | nil =>
    cases h
    rfl
  | cons b expected ih =>
    cases s with
    | nil => cases h
    | cons c s =>
      rw [word] at h
      split at h
      · exact ih h
      · cases h

variable [Limits]

theorem signDigits_le_one (negative : Bool) : signDigits negative ≤ 1 := by
  unfold signDigits
  split <;> decide

/-- The sign of an integer counts as no more than the one that was read. -/
theorem signDigits_le {n : Int} {negative : Bool} (h : n < 0 → negative = true) :
    signDigits (n < 0) ≤ signDigits negative := by
  by_cases hn : n < 0
  · simp [hn, h hn]
  · simp [signDigits, hn]

theorem isReadable_of_digits {digits : Bytes} {negative : Bool} {n : Int}
    (hdigits : ∀ b ∈ digits, isDigit b = true)
    (hlength : signDigits negative + digits.length ≤ maxDigits)
    (habs : n.natAbs = ofDigits digits) (hsign : n < 0 → negative = true) : IsReadable n := by
  have hone := signDigits_le_one negative
  have hmax : maxDigits = 4300 := rfl
  have hle : (Nat.toDigits 10 (ofDigits digits)).length ≤ maxDigits - signDigits negative :=
    length_toDigits_ofDigits hdigits (by omega) (by omega)
  have hcounted := signDigits_le hsign
  rw [IsReadable, habs]
  omega

theorem readableIntegers_of_unsigned {start s rest : Bytes} {negative : Bool} {v : Value}
    (h : unsigned start negative s = .ok (v, rest)) : v.HasReadableIntegers := by
  simp only [unsigned, bind_eq_ok] at h
  obtain ⟨⟨digits, afterDigits⟩, hinteger, afterFraction, -, afterExponent, -, h⟩ := h
  obtain ⟨hdigits, hlength⟩ := digits_of_integerPart hinteger
  split at h
  · cases h
    exact .real
  · split at h
    · rename_i hnegative
      cases h
      exact .int (isReadable_of_digits hdigits hlength (by simp) fun _ ↦ hnegative)
    · cases h
      exact .int (isReadable_of_digits hdigits hlength (by simp) (by omega))

/-! ## Values -/

def Yields (element : Element) : Prop :=
  ∀ s v rest, element s = .ok (v, rest) → v.HasReadableIntegers

variable {element : Element}

theorem readableIntegers_of_items (helement : Yields element) {budget : Nat} {s rest : Bytes}
    {values : List Value} (h : items element budget s = .ok (values, rest)) :
    ∀ v ∈ values, v.HasReadableIntegers := by
  induction budget generalizing s values with
  | zero => cases h
  | succ budget ih =>
    simp only [items, bind_eq_ok] at h
    obtain ⟨⟨first, s⟩, hfirst, h⟩ := h
    have hyields := helement _ _ _ hfirst
    split at h
    · cases h
    · split at h
      · cases h
        exact List.forall_mem_singleton.mpr hyields
      · split at h
        · cases h
        · split at h
          · cases h
          · split at h
            · cases h
            · simp only [bind_eq_ok] at h
              obtain ⟨⟨others, _⟩, hothers, h⟩ := h
              cases h
              exact List.forall_mem_cons.mpr ⟨hyields, ih hothers⟩

theorem readableIntegers_of_member (helement : Yields element) {s rest : Bytes}
    {result : String × Value} (h : member element s = .ok (result, rest)) :
    result.2.HasReadableIntegers := by
  cases s with
  | nil => cases h
  | cons b s =>
    rw [member] at h
    split at h
    · cases h
    · simp only [bind_eq_ok] at h
      obtain ⟨_, -, h⟩ := h
      split at h
      · cases h
      · split at h
        · cases h
        · split at h
          · cases h
          · simp only [bind_eq_ok] at h
            obtain ⟨⟨v, _⟩, hvalue, h⟩ := h
            cases h
            exact helement _ _ _ hvalue

theorem readableIntegers_of_members (helement : Yields element) {budget : Nat} {s rest : Bytes}
    {results : Members} (h : members element budget s = .ok (results, rest)) :
    ∀ member ∈ results, member.2.HasReadableIntegers := by
  induction budget generalizing s results with
  | zero => cases h
  | succ budget ih =>
    simp only [members, bind_eq_ok] at h
    obtain ⟨⟨first, s⟩, hfirst, h⟩ := h
    have hyields := readableIntegers_of_member helement hfirst
    split at h
    · cases h
    · split at h
      · cases h
        exact List.forall_mem_singleton.mpr hyields
      · split at h
        · cases h
        · split at h
          · cases h
          · split at h
            · cases h
            · simp only [bind_eq_ok] at h
              obtain ⟨⟨others, _⟩, hothers, h⟩ := h
              cases h
              exact List.forall_mem_cons.mpr ⟨hyields, ih hothers⟩

theorem readableIntegers_of_list (helement : Yields element) {s rest : Bytes} {v : Value}
    (h : list element s = .ok (v, rest)) : v.HasReadableIntegers := by
  unfold list at h
  split at h
  · cases h
  · split at h
    · cases h
      exact .list (List.forall_mem_nil _)
    · obtain ⟨⟨values, _⟩, hitems, h⟩ := map_eq_ok.mp h
      cases h
      exact .list (readableIntegers_of_items helement hitems)

theorem readableIntegers_of_object (helement : Yields element) {s rest : Bytes} {v : Value}
    (h : object element s = .ok (v, rest)) : v.HasReadableIntegers := by
  unfold object at h
  split at h
  · cases h
  · split at h
    · cases h
      exact .object (List.forall_mem_nil _)
    · split at h
      · cases h
      · obtain ⟨⟨values, _⟩, hmembers, h⟩ := map_eq_ok.mp h
        cases h
        exact .object (readableIntegers_of_members helement hmembers)

theorem readableIntegers_of_negative {start s rest : Bytes} {v : Value}
    (h : negative start s = .ok (v, rest)) : v.HasReadableIntegers := by
  cases s with
  | nil => cases h
  | cons b s =>
    rw [negative] at h
    split at h
    · exact word_eq_ok h ▸ .real
    · split at h
      · exact readableIntegers_of_unsigned h
      · cases h

theorem yields_node (helement : Yields element) : Yields (node element) := by
  intro s v rest h
  cases s with
  | nil => cases h
  | cons b s =>
    rw [node] at h
    repeat' split at h
    · obtain ⟨_, -, h⟩ := map_eq_ok.mp h
      cases h
      exact .str
    · exact readableIntegers_of_list helement h
    · exact readableIntegers_of_object helement h
    · exact word_eq_ok h ▸ .bool
    · exact word_eq_ok h ▸ .bool
    · exact word_eq_ok h ▸ .null
    · exact word_eq_ok h ▸ .real
    · exact word_eq_ok h ▸ .real
    · exact readableIntegers_of_negative h
    · exact readableIntegers_of_unsigned h
    · cases h

theorem yields_value (levels : Nat) : Yields (value levels) := by
  induction levels with
  | zero =>
    apply yields_node
    intro s v rest h
    cases h
  | succ levels ih => exact yields_node ih

end Reader

theorem readableIntegers_of_readWithin [Limits] {levels : Nat} {bytes : Bytes} {v : Value}
    (h : readWithin levels bytes = .ok v) : v.HasReadableIntegers := by
  unfold readWithin at h
  cases hdocument : Reader.document levels bytes with
  | error stop => simp [hdocument] at h
  | ok w =>
    simp only [hdocument, Except.ok.injEq] at h
    subst h
    unfold Reader.document at hdocument
    split at hdocument
    · cases hdocument
    · simp only [bind_eq_ok] at hdocument
      obtain ⟨⟨v, _⟩, hvalue, hdocument⟩ := hdocument
      split at hdocument
      · cases hdocument
        exact Reader.yields_value levels _ _ _ hvalue
      · cases hdocument

end ServiceBoot.Json
