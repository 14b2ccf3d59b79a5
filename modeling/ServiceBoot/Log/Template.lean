import ServiceBoot.Log.Display
import ServiceBoot.Log.Template.Arguments
import ServiceBoot.Log.Template.Layout

/-!
# Message templates

A message with arguments is a template that they are filled into. A message without arguments is no
template, and a template that its arguments do not fit has no text.
-/

namespace ServiceBoot.Log.Template

open Json (Value)

/-- The text of an argument by the kind of its place. -/
def argument? (kind : Char) (layout : Layout) (value : Value) : Option (List Char) :=
  match kind with
  | 's' => (Display.form? Display.plain value).map (laidOutText layout)
  | 'r' => (Display.form? Display.exact value).map (laidOutText layout)
  | 'a' => (Display.form? Display.exact value).map fun chars ↦ laidOutText layout (inAscii chars)
  | 'c' => (character? value).map fun c ↦ pad layout [c]
  | 'd' | 'i' | 'u' => do
    let n ← integer? value
    guard (Text.Numeral.isWritable n)
    pure (laidOutInteger layout n [] (Nat.toDigits 10 n.natAbs))
  | 'o' => do
    let n ← integer? value
    pure (laidOutInteger layout n ['0', 'o'] (Nat.toDigits 8 n.natAbs))
  | 'x' => do
    let n ← integer? value
    pure (laidOutInteger layout n ['0', 'x'] (Nat.toDigits 16 n.natAbs))
  | 'X' => do
    let n ← integer? value
    pure (laidOutInteger layout n ['0', 'X'] ((Nat.toDigits 16 n.natAbs).map Char.toUpper))
  | 'f' | 'F' => do laidOutReal? layout (← integer? value) false Text.Numeral.Real.fixed
  | 'e' => do laidOutReal? layout (← integer? value) false Text.Numeral.Real.scientific
  | 'E' => do laidOutReal? layout (← integer? value) true Text.Numeral.Real.scientific
  | 'g' => do laidOutReal? layout (← integer? value) false Text.Numeral.Real.general
  | 'G' => do laidOutReal? layout (← integer? value) true Text.Numeral.Real.general
  | _ => none

/-! ## Filling -/

/-- The number that an extent stands for. -/
def Extent.number? (extent : Extent) (arguments : Arguments) : Option (Int × Arguments) :=
  match extent with
  | .given n => some (n, arguments)
  | .asked => do
    let (value, arguments) ← arguments.next?
    let n ← integer? value
    if n.natAbs ≤ maxExtent then some (n, arguments) else none

/-- The layout of a place: a width below zero keeps to the left, and a precision below zero counts
as zero. -/
def Place.layout? (place : Place) (arguments : Arguments) : Option (Layout × Arguments) := do
  let (width, arguments) ← place.width.number? arguments
  let flags := { place.flags with toLeft := place.flags.toLeft || width < 0 }
  match place.precision with
  | none => some (⟨flags, width.natAbs, none⟩, arguments)
  | some extent =>
    let (precision, arguments) ← extent.number? arguments
    some (⟨flags, width.natAbs, some precision.toNat⟩, arguments)

/-- The text of the argument at a place, and the arguments that are left. -/
def Place.fill? (place : Place) (arguments : Arguments) : Option (List Char × Arguments) := do
  let arguments ← match place.name with
    | some name => arguments.choose? name
    | none => some arguments
  let (layout, arguments) ← place.layout? arguments
  let (value, arguments) ← arguments.next?
  pure (← argument? place.kind layout value, arguments)

def fillPieces : List Piece → Arguments → Option (List Char)
  | [], arguments => if arguments.areSpent then some [] else none
  | .char c :: rest, arguments => (fillPieces rest arguments).map (c :: ·)
  | .place place :: rest, arguments => do
    let (text, arguments) ← place.fill? arguments
    return text ++ (← fillPieces rest arguments)

/-- The text of a message with its arguments. -/
def fill? (message : String) (arguments : List Value) : Option String :=
  if arguments.isEmpty then some message
  else do
    let pieces ← pieces? message.length message.toList
    return String.ofList (← fillPieces pieces (.ofList arguments))

end ServiceBoot.Log.Template
