/-!
# Whole numbers in the notations of real numbers

A whole number is brought to the precision of a real number first, and then written with all its
digits, with one digit before the point and a power of ten, or in the shorter way of the two.
-/

namespace ServiceBoot.Text.Numeral.Real

/-- The quotient rounded to the nearest whole number, of two to the even one. -/
def roundDiv (n d : Nat) : Nat :=
  let q := n / d
  let r := n % d
  if 2 * r < d then q
  else if d < 2 * r then q + 1
  else if q % 2 = 0 then q else q + 1

/-- The number of binary digits that a real number keeps. -/
def precision : Nat := 53

/-- No real number is as great as this power of two. -/
def maxExponent : Nat := 1024

/-- The nearest number with no more binary digits than a real number keeps, if it is not too
great. -/
def nearest? (n : Nat) : Option Nat :=
  let unit := Nat.pow 2 (n.log2 + 1 - precision)
  let rounded := roundDiv n unit * unit
  if rounded < Nat.pow 2 maxExponent then some rounded else none

/-- How a number is written: `marked` keeps a point with nothing after it and zeros at the end. -/
structure Style where
  marked : Bool
  capital : Bool
  deriving DecidableEq, Repr

def zeros (count : Nat) : List Char := List.replicate count '0'

def withFraction (style : Style) (whole fraction : List Char) : List Char :=
  if fraction.isEmpty && !style.marked then whole else whole ++ '.' :: fraction

/-- The power of ten, in two digits at least. -/
def power (style : Style) (exponent : Nat) : List Char :=
  let digits := Nat.toDigits 10 exponent
  (if style.capital then 'E' else 'e') :: '+' :: zeros (2 - digits.length) ++ digits

/-- So many leading digits of a number, rounded, and the power of ten of the first. -/
def leading (count n : Nat) : List Char × Nat :=
  let digits := Nat.toDigits 10 n
  if digits.length ≤ count then (digits ++ zeros (count - digits.length), digits.length - 1)
  else
    let dropped := digits.length - count
    let rounded := Nat.toDigits 10 (roundDiv n (Nat.pow 10 dropped))
    (rounded.take count, dropped + rounded.length - 1)

/-- All digits, and so many places after the point. -/
def fixed (style : Style) (places n : Nat) : List Char :=
  withFraction style (Nat.toDigits 10 n) (zeros places)

/-- One digit before the point, so many after it, and a power of ten. -/
def scientific (style : Style) (places n : Nat) : List Char :=
  let (digits, exponent) := leading (places + 1) n
  withFraction style (digits.take 1) (digits.drop 1) ++ power style exponent

/-- So many digits in all, without a power of ten where they reach the point. -/
def general (style : Style) (count n : Nat) : List Char :=
  let count := max count 1
  let (digits, exponent) := leading count n
  let kept fraction := if style.marked then fraction
    else (fraction.reverse.dropWhile (· = '0')).reverse
  if exponent < count then
    withFraction style (digits.take (exponent + 1)) (kept (digits.drop (exponent + 1)))
  else withFraction style (digits.take 1) (kept (digits.drop 1)) ++ power style exponent

end ServiceBoot.Text.Numeral.Real
