/-!
# Pieces of a message template

A template is read as characters that stand for themselves and places for arguments. A place has a
kind, and before it, in this order, the name of a member between brackets, flags, a width, and a
precision after a point, all of which may be missing. Two percent signs stand for one.
-/

namespace ServiceBoot.Log.Template

structure Flags where
  toLeft : Bool := false
  zeros : Bool := false
  plus : Bool := false
  blank : Bool := false
  marked : Bool := false
  deriving DecidableEq, Repr

/-- How much room a place takes, or how precise it is: as the template says, or as the next
argument says. -/
inductive Extent where
  | given (n : Nat)
  | asked
  deriving DecidableEq, Repr

/-- A place may name the member of an object that stands there. -/
structure Place where
  name : Option String := none
  flags : Flags := {}
  width : Extent := .given 0
  precision : Option Extent := none
  kind : Char
  deriving DecidableEq, Repr

inductive Piece where
  | char (c : Char)
  | place (place : Place)
  deriving DecidableEq, Repr

/-- More room than this is given to nothing. -/
def maxExtent : Nat := 2147483647

def isFlag (c : Char) : Bool := ['-', '0', '+', ' ', '#'].contains c

def Flags.ofChars (chars : List Char) : Flags where
  toLeft := chars.contains '-'
  zeros := chars.contains '0'
  plus := chars.contains '+'
  blank := chars.contains ' '
  marked := chars.contains '#'

/-! ## Reading -/

/-- The name up to the bracket that closes it, and what follows. -/
def nameUpToBracket : Nat → List Char → Option (List Char × List Char)
  | _, [] => none
  | 0, ')' :: rest => some ([], rest)
  | depth, c :: rest =>
    let inner := if c = '(' then depth + 1 else if c = ')' then depth - 1 else depth
    (nameUpToBracket inner rest).map fun found ↦ (c :: found.1, found.2)

def name? : List Char → Option (Option String × List Char)
  | '(' :: rest =>
    (nameUpToBracket 0 rest).map fun found ↦ (some (String.ofList found.1), found.2)
  | s => some (none, s)

/-- A number or an asterisk; no digits stand for zero. -/
def extent? : List Char → Option (Extent × List Char)
  | '*' :: rest => some (.asked, rest)
  | s =>
    let n := Nat.ofDigitChars 10 (s.takeWhile Char.isDigit) 0
    if n ≤ maxExtent then some (.given n, s.dropWhile Char.isDigit) else none

def precision? : List Char → Option (Option Extent × List Char)
  | '.' :: rest => (extent? rest).map fun found ↦ (some found.1, found.2)
  | s => some (none, s)

/-- A letter that says how wide a number is held says nothing here. -/
def skipLength : List Char → List Char
  | c :: rest => if c = 'h' ∨ c = 'l' ∨ c = 'L' then rest else c :: rest
  | [] => []

/-- The place that the characters after a percent sign describe. -/
def place? (s : List Char) : Option (Place × List Char) := do
  let (name, s) ← name? s
  let flags := Flags.ofChars (s.takeWhile isFlag)
  let (width, s) ← extent? (s.dropWhile isFlag)
  let (precision, s) ← precision? s
  match skipLength s with
  | kind :: rest => some (⟨name, flags, width, precision, kind⟩, rest)
  | [] => none

/-- The pieces of a template, within a budget of one step a character. -/
def pieces? : Nat → List Char → Option (List Piece)
  | _, [] => some []
  | 0, _ => none
  | budget + 1, '%' :: '%' :: rest => (pieces? budget rest).map (.char '%' :: ·)
  | budget + 1, '%' :: rest => do
    let (place, rest) ← place? rest
    return .place place :: (← pieces? budget rest)
  | budget + 1, c :: rest => (pieces? budget rest).map (.char c :: ·)

end ServiceBoot.Log.Template
