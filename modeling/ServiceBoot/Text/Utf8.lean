/-!
# UTF-8

The bytes of a text, and the text of bytes. Reading stops at the first sequence that encodes no
character and reports how many bytes before it were sound.
-/

namespace ServiceBoot

abbrev Bytes := List UInt8

end ServiceBoot

namespace ServiceBoot.Text.Utf8

def encode (chars : List Char) : Bytes := chars.flatMap String.utf8EncodeChar

/-- The low six bits of a continuation byte. -/
def tail? (b : UInt8) : Option Nat :=
  if 0x80 ≤ b ∧ b < 0xC0 then some (b.toNat - 0x80) else none

/-- A character above the ones that need fewer bytes, if the number is one. -/
def charAbove? (least n : Nat) : Option Char :=
  if least ≤ n ∧ n.isValidChar then some (Char.ofNat n) else none

/-- The character that a sequence starts with, and the number of bytes after its first. -/
def first? : Bytes → Option (Char × Nat)
  | [] => none
  | a :: rest =>
    if a < 0x80 then some (Char.ofNat a.toNat, 0)
    else if a < 0xC0 then none
    else if a < 0xE0 then do
      let b ← tail? (← rest[0]?)
      let c ← charAbove? 0x80 ((a.toNat - 0xC0) * 64 + b)
      pure (c, 1)
    else if a < 0xF0 then do
      let b ← tail? (← rest[0]?)
      let c ← tail? (← rest[1]?)
      let d ← charAbove? 0x800 (((a.toNat - 0xE0) * 64 + b) * 64 + c)
      pure (d, 2)
    else if a < 0xF8 then do
      let b ← tail? (← rest[0]?)
      let c ← tail? (← rest[1]?)
      let d ← tail? (← rest[2]?)
      let e ← charAbove? 0x10000 ((((a.toNat - 0xF0) * 64 + b) * 64 + c) * 64 + d)
      pure (e, 3)
    else none

/-- The characters of a byte sequence, or the length of its longest sound beginning.
The second argument is the number of bytes still to be passed over, which belong to the last
character read. -/
def decodeFrom (sound : Nat) : Nat → Bytes → Except Nat (List Char)
  | 0, bytes@(_ :: rest) =>
    match first? bytes with
    | none => .error sound
    | some (c, more) => (decodeFrom (sound + more + 1) more rest).map (c :: ·)
  | skip + 1, _ :: rest => decodeFrom sound skip rest
  | _, [] => .ok []

def decode (bytes : Bytes) : Except Nat (List Char) := decodeFrom 0 0 bytes

/-- The text of a byte sequence, if all of it is sound. -/
def text? (bytes : Bytes) : Option String :=
  match decode bytes with
  | .ok chars => some (String.ofList chars)
  | .error _ => none

end ServiceBoot.Text.Utf8
