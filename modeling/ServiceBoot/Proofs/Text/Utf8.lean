import ServiceBoot.Text.Utf8

/-!
# Reading back UTF-8

The bytes of a text are sound, and the text is what they hold. A character is one of four lengths
by its number, and the bytes of each length are read back as its digits to the base 64.
-/

namespace ServiceBoot.Text.Utf8

/-! ## The bytes of a character -/

variable {c : Char}

theorem bytes_of_lt_0x80 (h : c.toNat < 0x80) :
    String.utf8EncodeChar c = [UInt8.ofNat c.toNat] := by
  have hval : c.val.toNat = c.toNat := rfl
  rw [String.utf8EncodeChar, hval, if_pos (by omega)]

theorem bytes_of_lt_0x800 (h : 0x80 ≤ c.toNat) (h' : c.toNat < 0x800) :
    String.utf8EncodeChar c =
      [UInt8.ofNat (c.toNat / 64 % 32 + 0xC0), UInt8.ofNat (c.toNat % 64 + 0x80)] := by
  have hval : c.val.toNat = c.toNat := rfl
  rw [String.utf8EncodeChar, hval, if_neg (by omega), if_pos (by omega)]

theorem bytes_of_lt_0x10000 (h : 0x800 ≤ c.toNat) (h' : c.toNat < 0x10000) :
    String.utf8EncodeChar c = [UInt8.ofNat (c.toNat / 4096 % 16 + 0xE0),
      UInt8.ofNat (c.toNat / 64 % 64 + 0x80), UInt8.ofNat (c.toNat % 64 + 0x80)] := by
  have hval : c.val.toNat = c.toNat := rfl
  rw [String.utf8EncodeChar, hval, if_neg (by omega), if_neg (by omega), if_pos (by omega)]

theorem bytes_of_ge_0x10000 (h : 0x10000 ≤ c.toNat) :
    String.utf8EncodeChar c = [UInt8.ofNat (c.toNat / 262144 % 8 + 0xF0),
      UInt8.ofNat (c.toNat / 4096 % 64 + 0x80), UInt8.ofNat (c.toNat / 64 % 64 + 0x80),
      UInt8.ofNat (c.toNat % 64 + 0x80)] := by
  have hval : c.val.toNat = c.toNat := rfl
  rw [String.utf8EncodeChar, hval, if_neg (by omega), if_neg (by omega), if_neg (by omega)]

/-! ## Reading a character -/

theorem tail?_ofNat : ∀ n < 64, tail? (UInt8.ofNat (n + 0x80)) = some n := by decide

theorem charAbove?_toNat {least : Nat} (h : least ≤ c.toNat) :
    charAbove? least c.toNat = some c := by
  rw [charAbove?, if_pos ⟨h, c.valid⟩, Char.ofNat_toNat]

/-- What the first byte of a character says: its range, and the digit that it holds. -/
theorem head_of_two : ∀ n < 32, ¬UInt8.ofNat (n + 0xC0) < 0x80 ∧ ¬UInt8.ofNat (n + 0xC0) < 0xC0 ∧
    UInt8.ofNat (n + 0xC0) < 0xE0 ∧ (UInt8.ofNat (n + 0xC0)).toNat - 0xC0 = n := by decide

theorem head_of_three : ∀ n < 16, ¬UInt8.ofNat (n + 0xE0) < 0x80 ∧ ¬UInt8.ofNat (n + 0xE0) < 0xC0 ∧
    ¬UInt8.ofNat (n + 0xE0) < 0xE0 ∧ UInt8.ofNat (n + 0xE0) < 0xF0 ∧
    (UInt8.ofNat (n + 0xE0)).toNat - 0xE0 = n := by decide

theorem head_of_four : ∀ n < 8, ¬UInt8.ofNat (n + 0xF0) < 0x80 ∧ ¬UInt8.ofNat (n + 0xF0) < 0xC0 ∧
    ¬UInt8.ofNat (n + 0xF0) < 0xE0 ∧ ¬UInt8.ofNat (n + 0xF0) < 0xF0 ∧
    UInt8.ofNat (n + 0xF0) < 0xF8 ∧ (UInt8.ofNat (n + 0xF0)).toNat - 0xF0 = n := by decide

variable (rest : Bytes)

theorem first?_of_lt_0x80 (h : c.toNat < 0x80) :
    first? (String.utf8EncodeChar c ++ rest) = some (c, 0) := by
  have hhead : ∀ n < 0x80, UInt8.ofNat n < 0x80 ∧ (UInt8.ofNat n).toNat = n := by decide
  obtain ⟨hlt, hdigit⟩ := hhead c.toNat h
  rw [bytes_of_lt_0x80 h, List.singleton_append, first?, if_pos hlt, hdigit, Char.ofNat_toNat]

theorem first?_of_lt_0x800 (h : 0x80 ≤ c.toNat) (h' : c.toNat < 0x800) :
    first? (String.utf8EncodeChar c ++ rest) = some (c, 1) := by
  obtain ⟨hascii, htail, hlt, hdigit⟩ := head_of_two (c.toNat / 64 % 32) (by omega)
  have hlast := tail?_ofNat (c.toNat % 64) (by omega)
  have hsum : c.toNat / 64 % 32 * 64 + c.toNat % 64 = c.toNat := by omega
  rw [bytes_of_lt_0x800 h h', List.cons_append, first?, if_neg hascii, if_neg htail, if_pos hlt,
    hdigit]
  simp [-UInt8.ofNat_add, hlast, hsum, charAbove?_toNat h]

theorem first?_of_lt_0x10000 (h : 0x800 ≤ c.toNat) (h' : c.toNat < 0x10000) :
    first? (String.utf8EncodeChar c ++ rest) = some (c, 2) := by
  obtain ⟨hascii, htail, htwo, hlt, hdigit⟩ := head_of_three (c.toNat / 4096 % 16) (by omega)
  have hsecond := tail?_ofNat (c.toNat / 64 % 64) (by omega)
  have hlast := tail?_ofNat (c.toNat % 64) (by omega)
  have hsum : (c.toNat / 4096 % 16 * 64 + c.toNat / 64 % 64) * 64 + c.toNat % 64 = c.toNat := by
    omega
  rw [bytes_of_lt_0x10000 h h', List.cons_append, first?, if_neg hascii, if_neg htail,
    if_neg htwo, if_pos hlt, hdigit]
  simp [-UInt8.ofNat_add, hsecond, hlast, hsum, charAbove?_toNat h]

theorem first?_of_ge_0x10000 (h : 0x10000 ≤ c.toNat) :
    first? (String.utf8EncodeChar c ++ rest) = some (c, 3) := by
  have hmax : c.toNat < 0x110000 := by
    have hvalid := c.valid
    have hval : c.val.toNat = c.toNat := rfl
    simp only [UInt32.isValidChar, Nat.isValidChar] at hvalid
    omega
  obtain ⟨hascii, htail, htwo, hthree, hlt, hdigit⟩ :=
    head_of_four (c.toNat / 262144 % 8) (by omega)
  have hsecond := tail?_ofNat (c.toNat / 4096 % 64) (by omega)
  have hthird := tail?_ofNat (c.toNat / 64 % 64) (by omega)
  have hlast := tail?_ofNat (c.toNat % 64) (by omega)
  have hsum : ((c.toNat / 262144 % 8 * 64 + c.toNat / 4096 % 64) * 64 + c.toNat / 64 % 64) * 64 +
      c.toNat % 64 = c.toNat := by omega
  rw [bytes_of_ge_0x10000 h, List.cons_append, first?, if_neg hascii, if_neg htail, if_neg htwo,
    if_neg hthree, if_pos hlt, hdigit]
  simp [-UInt8.ofNat_add, hsecond, hthird, hlast, hsum, charAbove?_toNat h]

theorem first?_append (c : Char) : first? (String.utf8EncodeChar c ++ rest) =
    some (c, (String.utf8EncodeChar c).length - 1) := by
  by_cases hone : c.toNat < 0x80
  · rw [first?_of_lt_0x80 rest hone, bytes_of_lt_0x80 hone]
    rfl
  · by_cases htwo : c.toNat < 0x800
    · rw [first?_of_lt_0x800 rest (by omega) htwo, bytes_of_lt_0x800 (by omega) htwo]
      rfl
    · by_cases hthree : c.toNat < 0x10000
      · rw [first?_of_lt_0x10000 rest (by omega) hthree,
          bytes_of_lt_0x10000 (by omega) hthree]
        rfl
      · rw [first?_of_ge_0x10000 rest (by omega), bytes_of_ge_0x10000 (by omega)]
        rfl

/-! ## Reading a text -/

theorem decodeFrom_skip (sound : Nat) (tail : Bytes) :
    decodeFrom sound tail.length (tail ++ rest) = decodeFrom sound 0 rest := by
  induction tail with
  | nil => rfl
  | cons b tail ih => exact ih

theorem decodeFrom_append (sound : Nat) (c : Char) :
    decodeFrom sound 0 (String.utf8EncodeChar c ++ rest) =
      (decodeFrom (sound + (String.utf8EncodeChar c).length) 0 rest).map (c :: ·) := by
  have hfirst := first?_append rest c
  have hlength : (String.utf8EncodeChar c).length ≠ 0 := by
    rw [String.length_utf8EncodeChar]
    exact Nat.ne_of_gt c.utf8Size_pos
  cases hbytes : String.utf8EncodeChar c with
  | nil => exact absurd (congrArg List.length hbytes) hlength
  | cons b tail =>
    rw [hbytes, List.cons_append] at hfirst
    rw [List.cons_append, decodeFrom, hfirst]
    simp [decodeFrom_skip, Nat.add_assoc]

theorem encode_append (chars others : List Char) :
    encode (chars ++ others) = encode chars ++ encode others := List.flatMap_append

/-- Every text is read back from its bytes. -/
theorem decode_encode (chars : List Char) : decode (encode chars) = .ok chars := by
  suffices h : ∀ sound, decodeFrom sound 0 (encode chars) = .ok chars from h 0
  induction chars with
  | nil =>
    intro sound
    rfl
  | cons c chars ih =>
    intro sound
    calc
      _ = (decodeFrom (sound + (String.utf8EncodeChar c).length) 0 (encode chars)).map (c :: ·) :=
        decodeFrom_append (encode chars) sound c
      _ = .ok (c :: chars) := by
        rw [ih]
        rfl

end ServiceBoot.Text.Utf8
