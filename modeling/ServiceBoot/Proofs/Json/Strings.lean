import ServiceBoot.Json.Reader
import ServiceBoot.Json.Writer
import ServiceBoot.Proofs.Text.Utf8

/-!
# Reading back strings

A string as a document writes it, with quotes, backslashes and control characters escaped, is read
back as the text that it was written for. The reader is followed from one character to the next: it
puts the bytes of the character in front of what it reads from the rest.
-/

namespace ServiceBoot.Json.Reader

open Text.Utf8 (encode)

theorem before_nil (reading : Except Stop (Bytes × Bytes)) : before [] reading = reading := by
  cases reading <;> rfl

theorem before_before (first second : Bytes) (reading : Except Stop (Bytes × Bytes)) :
    before first (before second reading) = before (first ++ second) reading := by
  cases reading <;> simp [before, Except.map]

/-! ## One step of the reader -/

/-- A byte that stands for itself in a string. -/
structure IsOrdinary (b : UInt8) : Prop where
  notQuote : b ≠ 0x22
  notControl : ¬b < 0x20
  notBackslash : b ≠ 0x5C

theorem stringBytes_quote (s : Bytes) : stringBytes (0x22 :: s) = .ok ([], s) := by
  rw [stringBytes.eq_def]
  rfl

theorem stringBytes_ordinary {b : UInt8} (h : IsOrdinary b) (s : Bytes) :
    stringBytes (b :: s) = before [b] (stringBytes s) := by
  rw [stringBytes.eq_def]
  simp only [if_neg h.notQuote, if_neg h.notControl, if_pos h.notBackslash]

theorem stringBytes_escaped {letter b : UInt8} (h : escaped? letter = some b) (s : Bytes) :
    stringBytes (0x5C :: letter :: s) = before [b] (stringBytes s) := by
  have hletter : letter ≠ 0x75 := by
    rintro rfl
    cases h
  rw [stringBytes.eq_def]
  simp [hletter, h]

theorem stringBytes_numbered {n : Nat} (hn : n < 0x20) {d₁ d₂ d₃ d₄ : UInt8} {s : Bytes}
    (h : hexNumber [d₁, d₂, d₃, d₄] s = .ok n) :
    stringBytes (0x5C :: 0x75 :: d₁ :: d₂ :: d₃ :: d₄ :: s) =
      before (utf8 n) (stringBytes s) := by
  have hlow : isLowSurrogate n = false := by
    simp only [isLowSurrogate, Bool.and_eq_false_iff, decide_eq_false_iff_not]
    omega
  have hhigh : isHighSurrogate n = false := by
    simp only [isHighSurrogate, Bool.and_eq_false_iff, decide_eq_false_iff_not]
    omega
  rw [stringBytes.eq_def]
  simp [h, hlow, hhigh]

/-! ## Characters that stay as they are -/

theorem stringBytes_append {bytes : Bytes} (h : ∀ b ∈ bytes, IsOrdinary b) (s : Bytes) :
    stringBytes (bytes ++ s) = before bytes (stringBytes s) := by
  induction bytes with
  | nil => rw [List.nil_append, before_nil]
  | cons b bytes ih =>
    obtain ⟨hordinary, hothers⟩ := List.forall_mem_cons.mp h
    calc
      _ = before [b] (stringBytes (bytes ++ s)) := stringBytes_ordinary hordinary _
      _ = before [b] (before bytes (stringBytes s)) := by rw [ih hothers]
      _ = before (b :: bytes) (stringBytes s) := before_before [b] bytes _

theorem isOrdinary_of_lt_0x80 {n : Nat} (hlow : 0x20 ≤ n) (hhigh : n < 0x80) (hquote : n ≠ 0x22)
    (hbackslash : n ≠ 0x5C) : IsOrdinary (UInt8.ofNat n) := by
  have hall : ∀ n < 0x80, 0x20 ≤ n ∧ n ≠ 0x22 ∧ n ≠ 0x5C →
      UInt8.ofNat n ≠ 0x22 ∧ ¬UInt8.ofNat n < 0x20 ∧ UInt8.ofNat n ≠ 0x5C := by decide
  obtain ⟨h₁, h₂, h₃⟩ := hall n hhigh ⟨hlow, hquote, hbackslash⟩
  exact ⟨h₁, h₂, h₃⟩

theorem isOrdinary_of_ge_0x80 {n : Nat} (h : n < 0x80) : IsOrdinary (UInt8.ofNat (n + 0x80)) := by
  have hall : ∀ n < 0x80, UInt8.ofNat (n + 0x80) ≠ 0x22 ∧ ¬UInt8.ofNat (n + 0x80) < 0x20 ∧
      UInt8.ofNat (n + 0x80) ≠ 0x5C := by decide
  obtain ⟨h₁, h₂, h₃⟩ := hall n h
  exact ⟨h₁, h₂, h₃⟩

/-- All bytes of a character beyond the first 128 are beyond them as well. -/
theorem byte_eq_of_ge_0x80 {c : Char} (h : 0x80 ≤ c.toNat) {b : UInt8}
    (hb : b ∈ String.utf8EncodeChar c) : ∃ n < 0x80, b = UInt8.ofNat (n + 0x80) := by
  by_cases htwo : c.toNat < 0x800
  · rw [Text.Utf8.bytes_of_lt_0x800 h htwo] at hb
    simp only [List.mem_cons, List.not_mem_nil, or_false] at hb
    rcases hb with rfl | rfl
    · exact ⟨c.toNat / 64 % 32 + 64, by omega, rfl⟩
    · exact ⟨c.toNat % 64, by omega, rfl⟩
  · by_cases hthree : c.toNat < 0x10000
    · rw [Text.Utf8.bytes_of_lt_0x10000 (by omega) hthree] at hb
      simp only [List.mem_cons, List.not_mem_nil, or_false] at hb
      rcases hb with rfl | rfl | rfl
      · exact ⟨c.toNat / 4096 % 16 + 96, by omega, rfl⟩
      · exact ⟨c.toNat / 64 % 64, by omega, rfl⟩
      · exact ⟨c.toNat % 64, by omega, rfl⟩
    · rw [Text.Utf8.bytes_of_ge_0x10000 (by omega)] at hb
      simp only [List.mem_cons, List.not_mem_nil, or_false] at hb
      rcases hb with rfl | rfl | rfl | rfl
      · exact ⟨c.toNat / 262144 % 8 + 112, by omega, rfl⟩
      · exact ⟨c.toNat / 4096 % 64, by omega, rfl⟩
      · exact ⟨c.toNat / 64 % 64, by omega, rfl⟩
      · exact ⟨c.toNat % 64, by omega, rfl⟩

theorem isOrdinary_of_plain {c : Char} (hplain : isPlain c = true) (hshort : shortEscape? c = none)
    {b : UInt8} (hb : b ∈ String.utf8EncodeChar c) : IsOrdinary b := by
  by_cases h : c.toNat < 0x80
  · have hne (mark : Char) (hmark : shortEscape? mark ≠ none) : c.toNat ≠ mark.toNat := by
      intro heq
      rw [← Char.ofNat_toNat c, heq, Char.ofNat_toNat] at hshort
      exact hmark hshort
    rw [Text.Utf8.bytes_of_lt_0x80 h, List.mem_singleton] at hb
    rw [hb]
    exact isOrdinary_of_lt_0x80 (by simpa [isPlain] using hplain) h (hne '"' (by decide))
      (hne '\\' (by decide))
  · obtain ⟨n, hn, rfl⟩ := byte_eq_of_ge_0x80 (by omega) hb
    exact isOrdinary_of_ge_0x80 hn

/-! ## Escaped characters -/

theorem escaped?_of_shortEscape? {c letter : Char} (h : shortEscape? c = some letter) :
    ∃ b e, String.utf8EncodeChar c = [b] ∧ String.utf8EncodeChar letter = [e] ∧
      escaped? e = some b := by
  unfold shortEscape? at h
  repeat' split at h
  all_goals cases h
  all_goals
    subst_vars
    exact ⟨_, _, rfl, rfl, rfl⟩

theorem value?_digitChar : ∀ n < 16, ∃ d, String.utf8EncodeChar (Nat.digitChar n) = [d] ∧
    Text.Hex.value? d = some n := by
  have hall : ∀ n < 16, String.utf8EncodeChar (Nat.digitChar n) =
        [UInt8.ofNat (Nat.digitChar n).toNat] ∧
      Text.Hex.value? (UInt8.ofNat (Nat.digitChar n).toNat) = some n := by decide
  exact fun n hn ↦ ⟨_, hall n hn⟩

/-- Four digits are read back as the number that they were written for. -/
theorem hexNumber_lower {n : Nat} (hn : n < 0x10000) : ∃ d₁ d₂ d₃ d₄,
    encode (Text.Hex.lower 4 n) = [d₁, d₂, d₃, d₄] ∧
      ∀ s, hexNumber [d₁, d₂, d₃, d₄] s = .ok n := by
  obtain ⟨d₁, h₁, hv₁⟩ := value?_digitChar (n / 16 / 16 / 16 % 16) (by omega)
  obtain ⟨d₂, h₂, hv₂⟩ := value?_digitChar (n / 16 / 16 % 16) (by omega)
  obtain ⟨d₃, h₃, hv₃⟩ := value?_digitChar (n / 16 % 16) (by omega)
  obtain ⟨d₄, h₄, hv₄⟩ := value?_digitChar (n % 16) (by omega)
  have hsum : (((0 * 16 + n / 16 / 16 / 16 % 16) * 16 + n / 16 / 16 % 16) * 16 +
      n / 16 % 16) * 16 + n % 16 = n := by omega
  refine ⟨d₁, d₂, d₃, d₄, ?_, ?_⟩
  · simp [encode, Text.Hex.lower, Text.Hex.fixed, h₁, h₂, h₃, h₄]
  · intro s
    simp only [hexNumber, hexNumber.go, hv₁, hv₂, hv₃, hv₄, hsum]

/-- A character is read back from what is written for it. -/
theorem stringBytes_escape (c : Char) (s : Bytes) :
    stringBytes (encode (escape isPlain c) ++ s) =
      before (String.utf8EncodeChar c) (stringBytes s) := by
  have hbackslash : String.utf8EncodeChar '\\' = [0x5C] := by decide
  unfold escape
  cases hshort : shortEscape? c with
  | some letter =>
    obtain ⟨b, e, hb, he, hescaped⟩ := escaped?_of_shortEscape? hshort
    simp only [encode, List.flatMap_cons, List.flatMap_nil, hbackslash, he, hb]
    exact stringBytes_escaped hescaped s
  | none =>
    by_cases hplain : isPlain c = true
    · simp only [if_pos hplain, encode, List.flatMap_singleton]
      apply stringBytes_append
      intro b
      exact isOrdinary_of_plain hplain hshort
    · have hn : c.toNat < 0x20 := by simpa [isPlain] using hplain
      have hu : String.utf8EncodeChar 'u' = [0x75] := by decide
      obtain ⟨d₁, d₂, d₃, d₄, hdigits, hnumber⟩ :=
        hexNumber_lower (n := c.toNat) (by omega)
      have hbytes : encode (numbered c.toNat) = [0x5C, 0x75, d₁, d₂, d₃, d₄] := by
        rw [numbered, if_pos (by omega)]
        simpa [encode, hbackslash, hu] using hdigits
      simp only [if_neg hplain, hbytes]
      rw [← Char.ofNat_toNat c]
      exact stringBytes_numbered hn (hnumber s)

/-! ## Texts -/

theorem stringBytes_quoted (chars : List Char) (s : Bytes) :
    stringBytes (encode (chars.flatMap (escape isPlain)) ++ 0x22 :: s) =
      .ok (encode chars, s) := by
  induction chars with
  | nil => exact stringBytes_quote s
  | cons c chars ih =>
    calc
      _ = stringBytes (encode (escape isPlain c) ++
          (encode (chars.flatMap (escape isPlain)) ++ 0x22 :: s)) := by
        rw [List.flatMap_cons, Text.Utf8.encode_append, List.append_assoc]
      _ = before (String.utf8EncodeChar c)
          (stringBytes (encode (chars.flatMap (escape isPlain)) ++ 0x22 :: s)) :=
        stringBytes_escape c _
      _ = .ok (encode (c :: chars), s) := by
        rw [ih]
        rfl

/-- A text is read back from its quoted form, whatever follows. -/
theorem string_quoted (text : String) (s : Bytes) :
    string (encode (text.toList.flatMap (escape isPlain)) ++ 0x22 :: s) = .ok (text, s) := by
  simp only [string, stringBytes_quoted, bind, Except.bind, Text.Utf8.decode_encode,
    String.ofList_toList]
  rfl

theorem encode_quotedChars (text : String) (s : Bytes) : encode (quotedChars isPlain text) ++ s =
    0x22 :: (encode (text.toList.flatMap (escape isPlain)) ++ 0x22 :: s) := by
  have hquote : String.utf8EncodeChar '"' = [0x22] := by decide
  simp [quotedChars, encode, hquote]

end ServiceBoot.Json.Reader
