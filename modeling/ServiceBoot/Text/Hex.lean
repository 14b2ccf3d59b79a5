/-!
# Hexadecimal numerals

Digits in either case, numerals of a fixed width, and the value of a digit.
-/

namespace ServiceBoot.Text.Hex

def upperDigit (n : Nat) : Char := (Nat.digitChar n).toUpper

/-- The last `width` digits of a number, most significant first. -/
def fixed (digit : Nat → Char) : Nat → Nat → List Char
  | 0, _ => []
  | width + 1, n => fixed digit width (n / 16) ++ [digit (n % 16)]

def lower : Nat → Nat → List Char := fixed Nat.digitChar

def upper : Nat → Nat → List Char := fixed upperDigit

@[simp]
theorem length_fixed (digit : Nat → Char) (width n : Nat) :
    (fixed digit width n).length = width := by
  induction width generalizing n with
  | zero => rfl
  | succ width ih => simp [fixed, ih]

/-- The value of a digit given as a byte, in either case. -/
def value? (b : UInt8) : Option Nat :=
  if 0x30 ≤ b ∧ b ≤ 0x39 then some (b.toNat - 0x30)
  else if 0x41 ≤ b ∧ b ≤ 0x46 then some (b.toNat - 0x37)
  else if 0x61 ≤ b ∧ b ≤ 0x66 then some (b.toNat - 0x57)
  else none

end ServiceBoot.Text.Hex
