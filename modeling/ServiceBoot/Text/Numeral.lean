import ServiceBoot.Text.Numeral.Table
import ServiceBoot.Text.Ranges

/-!
# Numerals in the digits of any script

The value of a decimal digit, the characters that count as digits although no numeral is written
with them, the number that a run of decimal digits denotes, and which integers are too long to be
written.
-/

namespace ServiceBoot.Text.Numeral

/-- The value of a decimal digit: its distance from the zero of its script. -/
def digit? (c : Char) : Option Nat :=
  (zeros.find? fun base ↦ base ≤ c.toNat && c.toNat < base + 10).map (c.toNat - ·)

def isDecimal (c : Char) : Bool := (digit? c).isSome

/-- Decimal digits, and the ornamental ones that denote a number on their own. -/
def isDigit (c : Char) : Bool := isDecimal c || Ranges.holds ornamental c

/-- The number that a list of digit values denotes. -/
def ofDigits (digits : List Nat) : Nat := digits.foldl (fun n d ↦ n * 10 + d) 0

/-- The number that a run of decimal digits denotes. -/
def value? (chars : List Char) : Option Nat := (chars.mapM digit?).map ofDigits

/-- The decimal numeral of an integer. -/
def ofInt : Int → String
  | .ofNat n => String.ofList (Nat.toDigits 10 n)
  | .negSucc n => String.ofList ('-' :: Nat.toDigits 10 (n + 1))

def ofNat (n : Nat) : String := String.ofList (Nat.toDigits 10 n)

/-- The longest numeral that is read or written. -/
def maxDigits : Nat := 4300

/-- The sign of an integer does not count. -/
def isWritable (n : Int) : Bool := (Nat.toDigits 10 n.natAbs).length ≤ maxDigits

/-- What is said when an integer is too long to be written. -/
def tooLong : String :=
  "Exceeds the limit (" ++ ofNat maxDigits ++ " digits) for integer string conversion; " ++
    "use sys.set_int_max_str_digits() to increase the limit"

/-- A text that integers are written in, unless one of them is too long. -/
def withIntegers (integers : List Int) (text : String) : String :=
  if integers.all isWritable then text else tooLong

end ServiceBoot.Text.Numeral
