import ServiceBoot.Log.Template.Piece
import ServiceBoot.Text.Numeral.Real
import ServiceBoot.Text.Quoted

/-!
# Layout of an argument

Texts are cut and padded; numbers have a sign in front and may be filled up with zeros.
-/

namespace ServiceBoot.Log.Template

structure Layout where
  flags : Flags
  width : Nat
  precision : Option Nat
  deriving DecidableEq, Repr

def pad (layout : Layout) (chars : List Char) : List Char :=
  let blanks := List.replicate (layout.width - chars.length) ' '
  if layout.flags.toLeft then chars ++ blanks else blanks ++ chars

/-- A text, cut to the precision. -/
def laidOutText (layout : Layout) (chars : List Char) : List Char :=
  pad layout (match layout.precision with | some n => chars.take n | none => chars)

def sign (flags : Flags) (n : Int) : List Char :=
  if n < 0 then ['-'] else if flags.plus then ['+'] else if flags.blank then [' '] else []

/-- A number with its sign and mark in front, and with zeros between them and its digits. -/
def laidOutNumber (layout : Layout) (n : Int) (mark digits : List Char) : List Char :=
  let front := sign layout.flags n ++ mark
  let room := layout.width - (front.length + digits.length)
  if layout.flags.zeros && !layout.flags.toLeft then front ++ List.replicate room '0' ++ digits
  else pad layout (front ++ digits)

/-- A whole number, with as many digits at least as the precision says. -/
def laidOutInteger (layout : Layout) (n : Int) (mark digits : List Char) : List Char :=
  laidOutNumber layout n (if layout.flags.marked then mark else [])
    (List.replicate (layout.precision.getD 0 - digits.length) '0' ++ digits)

/-- The number of places of a real number for which none is given. -/
def defaultPlaces : Nat := 6

/-- A number in a notation of real numbers, unless it is too great for one. -/
def laidOutReal? (layout : Layout) (n : Int) (capital : Bool)
    (write : Text.Numeral.Real.Style → Nat → Nat → List Char) : Option (List Char) :=
  (Text.Numeral.Real.nearest? n.natAbs).map fun real ↦
    laidOutNumber layout n []
      (write ⟨layout.flags.marked, capital⟩ (layout.precision.getD defaultPlaces) real)

/-- A text with each character beyond ASCII shown by its number. -/
def inAscii (chars : List Char) : List Char :=
  chars.flatMap fun c ↦ if c.toNat < 0x80 then [c] else Text.Quoted.numbered c.toNat

end ServiceBoot.Log.Template
