import ServiceBoot.Json.Fault
import ServiceBoot.Json.Value
import ServiceBoot.Text.Hex
import ServiceBoot.Text.Utf8

/-!
# Reading JSON

A reader takes the bytes that are still unread and answers a value with the bytes after it, or the
fault that it met with the number of bytes that were unread there. The first fault ends reading.
Lists and objects that are not empty nest at most 200 levels deep, and numbers have no more than
4300 digits in their integer part.
-/

namespace ServiceBoot.Json

/-- What the length of a number is measured by. -/
class Limits where
  /-- Whether a minus sign counts as a digit. -/
  countsSign : Bool

namespace Reader

structure Stop where
  fault : Fault
  unread : Nat

/-- What reads the elements of a list or an object. -/
abbrev Element := Bytes → Except Stop (Value × Bytes)

def stop {α : Type} (fault : Fault) (unread : Bytes) : Except Stop α :=
  .error ⟨fault, unread.length⟩

def isBlank (b : UInt8) : Bool := b == 0x20 || b == 0x09 || b == 0x0A || b == 0x0D

def skipBlanks (s : Bytes) : Bytes := s.dropWhile isBlank

def isDigit (b : UInt8) : Bool := 0x30 ≤ b && b ≤ 0x39

/-! ## Words and numbers -/

/-- Reads the given bytes. -/
def word (value : Value) : Bytes → Bytes → Except Stop (Value × Bytes)
  | [], s => .ok (value, s)
  | _ :: _, [] => stop .endInValue []
  | w :: ws, b :: s => if b = w then word value ws s else stop .expectedWord (b :: s)

/-- The longest integer part that is read. -/
def maxDigits : Nat := 4300

/-- Passes over the digits of a fraction or an exponent, of which there is at least one. -/
def someDigits : Bytes → Except Stop (Bytes)
  | [] => stop .endInValue []
  | b :: s => if isDigit b then .ok (s.dropWhile isDigit) else stop .invalidNumber (b :: s)

def fraction : Bytes → Except Stop (Bytes)
  | [] => .ok []
  | b :: s => if b = 0x2E then someDigits s else .ok (b :: s)

def sign : Bytes → Bytes
  | [] => []
  | b :: s => if b = 0x2B ∨ b = 0x2D then s else b :: s

def exponent : Bytes → Except Stop (Bytes)
  | [] => .ok []
  | b :: s => if b = 0x65 ∨ b = 0x45 then someDigits (sign s) else .ok (b :: s)

/-- The integer part of a number that starts with a digit, behind a sign that counts as so many
digits. -/
def integerPart (counted : Nat) (s : Bytes) : Except Stop (Bytes × Bytes) :=
  let digits := s.takeWhile isDigit
  let rest := s.dropWhile isDigit
  if digits.head? = some 0x30 ∧ 1 < digits.length then stop .invalidNumber (s.drop 1)
  else if maxDigits < counted + digits.length then
    stop .numberOutOfRange (s.drop (maxDigits + 1 - counted))
  else .ok (digits, rest)

def ofDigits (digits : Bytes) : Nat := digits.foldl (fun n b ↦ n * 10 + (b.toNat - 0x30)) 0

/-- The text of the bytes that were read between two points. -/
def textBetween (start rest : Bytes) : String :=
  String.ofList ((start.take (start.length - rest.length)).map fun b ↦ Char.ofNat b.toNat)

/-- How many digits the sign of a number counts as. -/
def signDigits [Limits] (negative : Bool) : Nat := if negative && Limits.countsSign then 1 else 0

/-- Reads a number whose sign is read already; `start` is where its text begins. -/
def unsigned [Limits] (start : Bytes) (negative : Bool) (s : Bytes) :
    Except Stop (Value × Bytes) := do
  let (digits, afterDigits) ← integerPart (signDigits negative) s
  let afterFraction ← fraction afterDigits
  let rest ← exponent afterFraction
  if rest.length < afterDigits.length then pure (.real (textBetween start rest), rest)
  else if negative then pure (.int (-(ofDigits digits : Int)), rest)
  else pure (.int (ofDigits digits), rest)

def infinityTail : Bytes := [0x6E, 0x66, 0x69, 0x6E, 0x69, 0x74, 0x79]

/-- Reads what follows a minus sign. -/
def negative [Limits] (start : Bytes) : Bytes → Except Stop (Value × Bytes)
  | [] => stop .endInValue []
  | b :: s =>
    if b = 0x49 then word (.real "-Infinity") infinityTail s
    else if isDigit b then unsigned start true (b :: s)
    else stop .invalidNumber (b :: s)

/-! ## Strings -/

def isLowSurrogate (n : Nat) : Bool := 0xDC00 ≤ n && n ≤ 0xDFFF

def isHighSurrogate (n : Nat) : Bool := 0xD800 ≤ n && n ≤ 0xDBFF

/-- The number of four hexadecimal digits, of which a wrong one is reported where it stands:
`after` is what follows them. -/
def hexNumber (digits after : Bytes) : Except Stop Nat :=
  go digits 0
where
  go : Bytes → Nat → Except Stop Nat
    | [], n => .ok n
    | b :: s, n =>
      match Text.Hex.value? b with
      | some d => go s (n * 16 + d)
      | none => stop .invalidEscape (b :: s ++ after)

/-- The byte that an escape of one letter stands for. -/
def escaped? (b : UInt8) : Option UInt8 :=
  if b = 0x22 ∨ b = 0x5C ∨ b = 0x2F then some b
  else if b = 0x62 then some 0x08
  else if b = 0x66 then some 0x0C
  else if b = 0x6E then some 0x0A
  else if b = 0x72 then some 0x0D
  else if b = 0x74 then some 0x09
  else none

def before (bytes : Bytes) (reading : Except Stop (Bytes × Bytes)) :
    Except Stop (Bytes × Bytes) :=
  reading.map fun result ↦ (bytes ++ result.1, result.2)

def utf8 (n : Nat) : Bytes := String.utf8EncodeChar (Char.ofNat n)

def pairNumber (high low : Nat) : Nat := 0x10000 + (high - 0xD800) * 0x400 + (low - 0xDC00)

/-- Reads the bytes of a string up to its closing quote, with every escape replaced by the bytes of
the character that it stands for. -/
def stringBytes : Bytes → Except Stop (Bytes × Bytes)
  | [] => stop .endInString []
  | b :: s =>
    if b = 0x22 then .ok ([], s)
    else if b < 0x20 then stop .controlCharacter (b :: s)
    else if b ≠ 0x5C then before [b] (stringBytes s)
    else match s with
      | [] => stop .endInString []
      | e :: s =>
        if e ≠ 0x75 then
          match escaped? e with
          | some c => before [c] (stringBytes s)
          | none => stop .invalidEscape (e :: s)
        else match s with
          | d₁ :: d₂ :: d₃ :: d₄ :: s =>
            match hexNumber [d₁, d₂, d₃, d₄] s with
            | .error e => .error e
            | .ok n =>
              if isLowSurrogate n then stop .loneSurrogate (d₄ :: s)
              else if !isHighSurrogate n then before (utf8 n) (stringBytes s)
              else match s with
                | [] => stop .endInString []
                | b :: s =>
                  if b ≠ 0x5C then stop .unfinishedSurrogate (b :: s)
                  else match s with
                    | [] => stop .endInString []
                    | e :: s =>
                      if e ≠ 0x75 then stop .unfinishedSurrogate (e :: s)
                      else match s with
                        | d₁ :: d₂ :: d₃ :: d₄ :: s =>
                          match hexNumber [d₁, d₂, d₃, d₄] s with
                          | .error e => .error e
                          | .ok m =>
                            if isLowSurrogate m then
                              before (utf8 (pairNumber n m)) (stringBytes s)
                            else stop .loneSurrogate (d₄ :: s)
                        | _ => stop .endInString []
          | _ => stop .endInString []

/-- Reads a string whose opening quote is read already. -/
def string (s : Bytes) : Except Stop (String × Bytes) := do
  let (bytes, rest) ← stringBytes s
  match Text.Utf8.decode bytes with
  | .ok chars => pure (String.ofList chars, rest)
  | .error sound => .error ⟨.invalidCodePoint, s.length - sound⟩

/-! ## Lists and objects -/

/-- Reads the elements of a list that are still to come, and its end. Every element takes at least
one byte, so a budget of as many steps as there are bytes is never used up. -/
def items (element : Element) : Nat → Bytes → Except Stop (List Value × Bytes)
  | 0, s => stop .endInList s
  | budget + 1, s => do
    let (value, s) ← element s
    match skipBlanks s with
    | [] => stop .endInList []
    | b :: s =>
      if b = 0x5D then pure ([value], s)
      else if b ≠ 0x2C then stop .expectedListEnd (b :: s)
      else match skipBlanks s with
        | [] => stop .endInValue []
        | b :: s =>
          if b = 0x5D then stop .trailingComma (b :: s)
          else do
            let (values, s) ← items element budget (b :: s)
            pure (value :: values, s)

/-- Reads a list whose opening bracket is read already. -/
def list (element : Element) (s : Bytes) : Except Stop (Value × Bytes) :=
  match skipBlanks s with
  | [] => stop .endInList []
  | b :: s =>
    if b = 0x5D then .ok (.list [], s)
    else (items element (s.length + 1) (b :: s)).map fun result ↦ (.list result.1, result.2)

/-- Reads a member of an object. -/
def member (element : Element) : Bytes → Except Stop ((String × Value) × Bytes)
  | [] => stop .endInValue []
  | b :: s =>
    if b ≠ 0x22 then stop .keyNotString (b :: s)
    else do
      let (key, s) ← string s
      match skipBlanks s with
      | [] => stop .endInObject []
      | b :: s =>
        if b ≠ 0x3A then stop .expectedColon (b :: s)
        else match skipBlanks s with
          | [] => stop .endInValue []
          | s => do
            let (value, s) ← element s
            pure ((key, value), s)

/-- Reads the members of an object that are still to come, and its end, within a budget of steps
that is never used up. -/
def members (element : Element) : Nat → Bytes → Except Stop (Members × Bytes)
  | 0, s => stop .endInObject s
  | budget + 1, s => do
    let (first, s) ← member element s
    match skipBlanks s with
    | [] => stop .endInObject []
    | b :: s =>
      if b = 0x7D then pure ([first], s)
      else if b ≠ 0x2C then stop .expectedObjectEnd (b :: s)
      else match skipBlanks s with
        | [] => stop .endInValue []
        | b :: s =>
          if b = 0x7D then stop .trailingComma (b :: s)
          else do
            let (others, s) ← members element budget (b :: s)
            pure (first :: others, s)

/-- Reads an object whose opening brace is read already. -/
def object (element : Element) (s : Bytes) : Except Stop (Value × Bytes) :=
  match skipBlanks s with
  | [] => stop .endInObject []
  | b :: s =>
    if b = 0x7D then .ok (.object [], s)
    else if b ≠ 0x22 then stop .keyNotString (b :: s)
    else (members element (s.length + 1) (b :: s)).map fun result ↦ (.object result.1, result.2)

/-! ## Documents -/

section

variable [Limits]

/-- Reads a value whose elements, if it has any, are read by `element`. -/
def node (element : Element) : Element
  | [] => stop .endInValue []
  | b :: s =>
    if b = 0x22 then (string s).map fun result ↦ (.str result.1, result.2)
    else if b = 0x5B then list element s
    else if b = 0x7B then object element s
    else if b = 0x74 then word (.bool true) [0x72, 0x75, 0x65] s
    else if b = 0x66 then word (.bool false) [0x61, 0x6C, 0x73, 0x65] s
    else if b = 0x6E then word .null [0x75, 0x6C, 0x6C] s
    else if b = 0x4E then word (.real "NaN") [0x61, 0x4E] s
    else if b = 0x49 then word (.real "Infinity") infinityTail s
    else if b = 0x2D then negative (b :: s) s
    else if isDigit b then unsigned (b :: s) false (b :: s)
    else stop .expectedValue (b :: s)

def tooDeep : Element := fun s ↦ stop .tooDeep s

/-- Reads a value that may hold this many levels of values. -/
def value : Nat → Element
  | 0 => node tooDeep
  | levels + 1 => node (value levels)

def maxLevels : Nat := 200

/-- Reads a value with blanks around it and nothing else. -/
def document (levels : Nat) (s : Bytes) : Except Stop Value :=
  match skipBlanks s with
  | [] => stop .endInValue []
  | s => do
    let (value, s) ← value levels s
    match skipBlanks s with
    | [] => pure value
    | s => stop .trailingCharacters s

end

end Reader

/-- The document that a byte sequence holds, with values nested no deeper than some levels. -/
def readWithin [Limits] (levels : Nat) (bytes : Bytes) : Except SyntaxError Value :=
  match Reader.document levels bytes with
  | .ok value => .ok value
  | .error stop =>
    .error ⟨stop.fault, Position.ofOffset bytes (bytes.length - stop.unread)⟩

def read [Limits] : Bytes → Except SyntaxError Value := readWithin Reader.maxLevels

end ServiceBoot.Json

namespace ServiceBoot.Release

/-- The sign does not count: an integer of 4300 digits is read with a minus sign too. -/
scoped instance numbers : Json.Limits where
  countsSign := false

end ServiceBoot.Release
