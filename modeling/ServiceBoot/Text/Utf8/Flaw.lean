import ServiceBoot.Text.Hex
import ServiceBoot.Text.Numeral
import ServiceBoot.Text.Utf8

/-!
# Flaws of encoded texts

Where bytes that are no text go wrong: the bytes that a character could have begun with, and why
none did.
-/

namespace ServiceBoot.Text.Utf8

inductive FlawKind where
  | badStart
  | badContinuation
  | cutOff
  deriving DecidableEq, Repr

def FlawKind.reason : FlawKind → String
  | .badStart => "invalid start byte"
  | .badContinuation => "invalid continuation byte"
  | .cutOff => "unexpected end of data"

structure Flaw where
  position : Nat
  bytes : Bytes
  kind : FlawKind
  deriving DecidableEq, Repr

namespace Flaw

def place (flaw : Flaw) : String :=
  match flaw.bytes with
  | [b] =>
    "byte 0x" ++ String.ofList (Hex.lower 2 b.toNat) ++ " in position " ++
      Numeral.ofNat flaw.position
  | bytes =>
    "bytes in position " ++ Numeral.ofNat flaw.position ++ "-" ++
      Numeral.ofNat (flaw.position + bytes.length - 1)

def message (flaw : Flaw) : String :=
  "'utf-8' codec can't decode " ++ flaw.place ++ ": " ++ flaw.kind.reason

end Flaw

def startsCharacter (a : UInt8) : Bool := a < 0x80 || (0xC2 ≤ a && a < 0xF5)

/-- The number of bytes after the first one of a character. -/
def tailLength (a : UInt8) : Nat :=
  if a < 0x80 then 0 else if a < 0xE0 then 1 else if a < 0xF0 then 2 else 3

/-- What may come second, so that the character is one and needs as many bytes as it has. -/
def mayFollow (a b : UInt8) : Bool :=
  (tail? b).isSome &&
    if a = 0xE0 then 0xA0 ≤ b
    else if a = 0xED then b < 0xA0
    else if a = 0xF0 then 0x90 ≤ b
    else if a = 0xF4 then b < 0x90
    else true

/-- The longest sequence after a first byte that a character could begin with. -/
def begun (a : UInt8) : Bytes → Bytes
  | [] => []
  | b :: rest =>
    if mayFollow a b then
      b :: (rest.take (tailLength a - 1)).takeWhile fun c ↦ (tail? c).isSome
    else []

/-- The flaw of bytes that start with no character. -/
def flawAt (position : Nat) : Bytes → Flaw
  | [] => ⟨position, [], .cutOff⟩
  | a :: rest =>
    if startsCharacter a then
      ⟨position, a :: begun a rest,
        if (begun a rest).length = rest.length then .cutOff else .badContinuation⟩
    else ⟨position, [a], .badStart⟩

/-- The text of a byte sequence, or its first flaw. -/
def read (bytes : Bytes) : Except Flaw String :=
  match decode bytes with
  | .ok chars => .ok (String.ofList chars)
  | .error sound => .error (flawAt sound (bytes.drop sound))

end ServiceBoot.Text.Utf8
