import ServiceBoot.Json.Reader
import ServiceBoot.Json.Writer
import ServiceBoot.Proofs.Text.Utf8

/-!
# Reading back integers

An integer that is no longer than the reader takes is read back from its numeral, unless what
follows would go on with the number.
-/

namespace ServiceBoot.Json

/-- An integer that is no longer than the reader takes, by its digits and by its sign if that counts
as one. -/
def IsReadable [Limits] (n : Int) : Prop :=
  Reader.signDigits (n < 0) + (Nat.toDigits 10 n.natAbs).length ≤ Reader.maxDigits

instance [Limits] (n : Int) : Decidable (IsReadable n) := inferInstanceAs (Decidable (_ ≤ _))

theorem IsReadable.isWritable [Limits] {n : Int} (h : IsReadable n) :
    Text.Numeral.isWritable n = true :=
  decide_eq_true (Nat.le_trans (Nat.le_add_left ..) h)

open scoped Release in
example : IsReadable (-(10 ^ 4300 - 1)) ∧ ¬IsReadable (10 ^ 4300) := by decide +kernel

/-- An integer that is readable whatever the length of a number is measured by. -/
def IsShort (n : Int) : Prop := 0 ≤ n ∧ (Nat.toDigits 10 n.natAbs).length ≤ Reader.maxDigits

instance (n : Int) : Decidable (IsShort n) := inferInstanceAs (Decidable (_ ∧ _))

theorem IsShort.isReadable [Limits] {n : Int} (h : IsShort n) : IsReadable n := by
  simpa [IsReadable, Reader.signDigits, Int.not_lt.mpr h.1] using h.2

namespace Reader

open Text.Utf8 (encode)

/-- What does not go on with a number. -/
def Delimited (s : Bytes) : Prop :=
  ∀ b ∈ s.head?, isDigit b = false ∧ b ≠ 0x2E ∧ b ≠ 0x65 ∧ b ≠ 0x45

/-! ## Digits -/

theorem byte_of_isDigit {c : Char} (h : c.isDigit = true) :
    String.utf8EncodeChar c = [UInt8.ofNat c.toNat] ∧
      (UInt8.ofNat c.toNat).toNat = c.toNat ∧ isDigit (UInt8.ofNat c.toNat) = true := by
  have hall : ∀ n < 0x80, 0x30 ≤ n ∧ n ≤ 0x39 →
      (UInt8.ofNat n).toNat = n ∧ isDigit (UInt8.ofNat n) = true := by decide
  have hrange : 0x30 ≤ c.toNat ∧ c.toNat ≤ 0x39 := Char.isDigit_iff_toNat.mp h
  exact ⟨Text.Utf8.bytes_of_lt_0x80 (by omega), hall c.toNat (by omega) hrange⟩

theorem encode_digits {chars : List Char} (h : ∀ c ∈ chars, c.isDigit = true) :
    encode chars = chars.map fun c ↦ UInt8.ofNat c.toNat := by
  induction chars with
  | nil => rfl
  | cons c chars ih =>
    obtain ⟨hdigit, hothers⟩ := List.forall_mem_cons.mp h
    have hrest := ih hothers
    rw [encode] at hrest ⊢
    rw [List.flatMap_cons, (byte_of_isDigit hdigit).1, hrest]
    rfl

theorem isDigit_of_mem_encode {chars : List Char} (h : ∀ c ∈ chars, c.isDigit = true) :
    ∀ b ∈ encode chars, isDigit b = true := by
  rw [encode_digits h]
  intro b hb
  obtain ⟨c, hc, rfl⟩ := List.mem_map.mp hb
  exact (byte_of_isDigit (h c hc)).2.2

theorem ofDigits_encode {chars : List Char} (h : ∀ c ∈ chars, c.isDigit = true) :
    ofDigits (encode chars) = Nat.ofDigitChars 10 chars 0 := by
  rw [encode_digits h, ofDigits, List.foldl_map, Nat.ofDigitChars_eq_foldl]
  have hstep (n : Nat) : chars.foldl (fun n c ↦ n * 10 + ((UInt8.ofNat c.toNat).toNat - 0x30)) n =
      chars.foldl (fun n c ↦ 10 * n + (c.toNat - '0'.toNat)) n := by
    induction chars generalizing n with
    | nil => rfl
    | cons c chars ih =>
      obtain ⟨hdigit, hothers⟩ := List.forall_mem_cons.mp h
      rw [List.foldl_cons, List.foldl_cons, (byte_of_isDigit hdigit).2.1, Nat.mul_comm n 10,
        ih hothers]
      rfl
  exact hstep 0

/-- A numeral of more than one digit does not start with a zero. -/
theorem head?_toDigits {n : Nat} (h : 0 < n) : (Nat.toDigits 10 n).head? ≠ some '0' := by
  induction n using Nat.strongRecOn with
  | ind n ih =>
    by_cases hn : n < 10
    · have hall : ∀ n < 10, 0 < n → Nat.digitChar n ≠ '0' := by decide
      rw [Nat.toDigits_of_lt_base hn, List.head?_cons]
      simpa using hall n hn h
    · have hhigh := ih (n / 10) (by omega) (by omega)
      rw [Nat.toDigits_of_base_le (by decide) (by omega)]
      cases hdigits : Nat.toDigits 10 (n / 10) with
      | nil => exact absurd hdigits Nat.toDigits_ne_nil
      | cons c chars => simpa [hdigits] using hhigh

theorem isDigit_of_mem_toDigits (n : Nat) : ∀ c ∈ Nat.toDigits 10 n, c.isDigit = true :=
  fun _ ↦ Nat.isDigit_of_mem_toDigits (by decide) (by decide)

/-! ## Numerals -/

variable {rest : Bytes}

theorem integerPart_append {counted : Nat} {digits : Bytes}
    (hdigits : ∀ b ∈ digits, isDigit b = true)
    (hzero : digits.head? = some 0x30 → digits.length ≤ 1)
    (hlength : counted + digits.length ≤ maxDigits) (hrest : Delimited rest) :
    integerPart counted (digits ++ rest) = .ok (digits, rest) := by
  have htake : rest.takeWhile isDigit = [] := by
    cases rest with
    | nil => rfl
    | cons b rest => simp [(hrest b rfl).1]
  have hdrop : rest.dropWhile isDigit = rest := by
    cases rest with
    | nil => rfl
    | cons b rest => simp [(hrest b rfl).1]
  have hguard : ¬(digits.head? = some 0x30 ∧ 1 < digits.length) := by
    rintro ⟨hhead, hlong⟩
    exact absurd (hzero hhead) (Nat.not_le.mpr hlong)
  simp only [integerPart, List.takeWhile_append_of_pos hdigits,
    List.dropWhile_append_of_pos hdigits, htake, hdrop, List.append_nil, if_neg hguard,
    if_neg (Nat.not_lt.mpr hlength)]

theorem fraction_of_delimited (h : Delimited rest) : fraction rest = .ok rest := by
  cases rest with
  | nil => rfl
  | cons b rest => rw [fraction, if_neg (h b rfl).2.1]

theorem exponent_of_delimited (h : Delimited rest) : exponent rest = .ok rest := by
  cases rest with
  | nil => rfl
  | cons b rest => rw [exponent, if_neg (not_or.mpr (h b rfl).2.2)]

theorem length_of_head?_eq_zero {n : Nat}
    (h : (encode (Nat.toDigits 10 n)).head? = some 0x30) :
    (encode (Nat.toDigits 10 n)).length ≤ 1 := by
  have hmem := isDigit_of_mem_toDigits n
  by_cases hn : 0 < n
  · rw [encode_digits hmem, List.head?_map] at h
    obtain ⟨c, hc, hbyte⟩ := Option.map_eq_some_iff.mp h
    have hdigit := (byte_of_isDigit (hmem c (List.mem_of_mem_head? hc))).2.1
    have hzero : c.toNat = 0x30 := by
      rw [← hdigit, hbyte]
      rfl
    rw [← Char.ofNat_toNat c, hzero] at hc
    exact absurd hc (head?_toDigits hn)
  · rw [show n = 0 by omega]
    decide

/-- The digits of a numeral start with one. -/
theorem encode_toDigits_eq_cons (n : Nat) : ∃ b s, encode (Nat.toDigits 10 n) = b :: s ∧
    isDigit b = true := by
  cases hbytes : encode (Nat.toDigits 10 n) with
  | nil =>
    rw [encode_digits (isDigit_of_mem_toDigits n), List.map_eq_nil_iff] at hbytes
    exact absurd hbytes Nat.toDigits_ne_nil
  | cons b s =>
    have hmem := isDigit_of_mem_encode (isDigit_of_mem_toDigits n)
    exact ⟨b, s, rfl, hmem b (hbytes ▸ List.mem_cons_self ..)⟩

theorem intChars_ofNat (n : Nat) : intChars n = Nat.toDigits 10 n := String.toList_ofList

theorem intChars_negSucc (n : Nat) :
    intChars (.negSucc n) = '-' :: Nat.toDigits 10 (n + 1) := String.toList_ofList

variable [Limits]

theorem unsigned_toDigits {n : Nat} {negative : Bool}
    (hlength : signDigits negative + (Nat.toDigits 10 n).length ≤ maxDigits)
    (hrest : Delimited rest) (start : Bytes) :
    unsigned start negative (encode (Nat.toDigits 10 n) ++ rest) =
      .ok (.int (if negative then -n else n), rest) := by
  have hmem := isDigit_of_mem_toDigits n
  have hmap := encode_digits hmem
  have hinteger := integerPart_append (isDigit_of_mem_encode hmem)
    length_of_head?_eq_zero (by rwa [hmap, List.length_map]) hrest
  have hvalue : ofDigits (encode (Nat.toDigits 10 n)) = n := by
    rw [ofDigits_encode hmem, Nat.ofDigitChars_ten_toDigits]
  simp only [unsigned, hinteger, bind, Except.bind, fraction_of_delimited hrest,
    exponent_of_delimited hrest, Nat.lt_irrefl, if_false, hvalue]
  cases negative <;> rfl

theorem node_digit (element : Element) {b : UInt8} (h : isDigit b = true) (s : Bytes) :
    node element (b :: s) = unsigned (b :: s) false (b :: s) := by
  have hne {mark : UInt8} (hmark : isDigit mark = false) : b ≠ mark := by
    rintro rfl
    exact absurd h (by simp [hmark])
  simp only [node, if_neg (hne (by decide : isDigit 0x22 = false)),
    if_neg (hne (by decide : isDigit 0x5B = false)),
    if_neg (hne (by decide : isDigit 0x7B = false)),
    if_neg (hne (by decide : isDigit 0x74 = false)),
    if_neg (hne (by decide : isDigit 0x66 = false)),
    if_neg (hne (by decide : isDigit 0x6E = false)),
    if_neg (hne (by decide : isDigit 0x4E = false)),
    if_neg (hne (by decide : isDigit 0x49 = false)),
    if_neg (hne (by decide : isDigit 0x2D = false)), if_pos h]

theorem negative_digit (start : Bytes) {b : UInt8} (h : isDigit b = true) (s : Bytes) :
    negative start (b :: s) = unsigned start true (b :: s) := by
  have hne : b ≠ 0x49 := by
    rintro rfl
    exact absurd h (by decide)
  rw [negative, if_neg hne, if_pos h]

/-- An integer is read back from its numeral. -/
theorem node_intChars (element : Element) {n : Int} (hlength : IsReadable n)
    (hrest : Delimited rest) : node element (encode (intChars n) ++ rest) = .ok (.int n, rest) := by
  cases n with
  | ofNat n =>
    obtain ⟨b, s, hbytes, hdigit⟩ := encode_toDigits_eq_cons n
    have hlength : signDigits false + (Nat.toDigits 10 n).length ≤ maxDigits := by
      simpa [IsReadable, Int.not_lt.mpr (Int.natCast_nonneg n)] using hlength
    have hread := unsigned_toDigits hlength hrest (b :: s ++ rest)
    rw [Int.ofNat_eq_natCast, intChars_ofNat, hbytes, List.cons_append, node_digit element hdigit]
    rwa [hbytes] at hread
  | negSucc n =>
    obtain ⟨b, s, hbytes, hdigit⟩ := encode_toDigits_eq_cons (n + 1)
    have hminus : String.utf8EncodeChar '-' = [0x2D] := by decide
    have hlength : signDigits true + (Nat.toDigits 10 (n + 1)).length ≤ maxDigits := by
      simpa [IsReadable] using hlength
    have hread := unsigned_toDigits hlength hrest (0x2D :: b :: s ++ rest)
    have hvalue : -((n + 1 : Nat) : Int) = .negSucc n := rfl
    rw [hbytes, if_pos rfl] at hread
    rw [intChars_negSucc, encode, List.flatMap_cons, hminus, ← encode, hbytes]
    calc
      _ = negative (0x2D :: b :: s ++ rest) (b :: s ++ rest) := rfl
      _ = unsigned (0x2D :: b :: s ++ rest) true (b :: s ++ rest) := negative_digit _ hdigit _
      _ = .ok (.int (.negSucc n), rest) := hread

end Reader

end ServiceBoot.Json
