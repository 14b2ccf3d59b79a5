import ServiceBoot.Text.Numeral

/-!
# Faults of a JSON text

What can be wrong with a text that should hold a JSON document, and where: a fault lies at a byte
of the document, shown as a line and a column that are counted from one.
-/

namespace ServiceBoot.Json

inductive Fault where
  | endInValue
  | endInList
  | endInObject
  | endInString
  | trailingCharacters
  | expectedWord
  | expectedValue
  | invalidNumber
  | numberOutOfRange
  | expectedListEnd
  | expectedColon
  | expectedObjectEnd
  | trailingComma
  | keyNotString
  | tooDeep
  | controlCharacter
  | invalidEscape
  | loneSurrogate
  | unfinishedSurrogate
  | invalidCodePoint
  deriving DecidableEq, Repr

def Fault.message : Fault → String
  | .endInValue => "EOF while parsing a value"
  | .endInList => "EOF while parsing a list"
  | .endInObject => "EOF while parsing an object"
  | .endInString => "EOF while parsing a string"
  | .trailingCharacters => "trailing characters"
  | .expectedWord => "expected ident"
  | .expectedValue => "expected value"
  | .invalidNumber => "invalid number"
  | .numberOutOfRange => "number out of range"
  | .expectedListEnd => "expected \x60,\x60 or \x60]\x60"
  | .expectedColon => "expected \x60:\x60"
  | .expectedObjectEnd => "expected \x60,\x60 or \x60\x7d\x60"
  | .trailingComma => "trailing comma"
  | .keyNotString => "key must be a string"
  | .tooDeep => "recursion limit exceeded"
  | .controlCharacter => "control character (\\u0000-\\u001F) found while parsing a string"
  | .invalidEscape => "invalid escape"
  | .loneSurrogate => "lone leading surrogate in hex escape"
  | .unfinishedSurrogate => "unexpected end of hex escape"
  | .invalidCodePoint => "invalid unicode code point"

structure Position where
  line : Nat
  column : Nat
  deriving DecidableEq, Repr

/-- The place of the byte after the first `offset` ones, which counts itself if it is there: a line
feed already belongs to the line that it opens. -/
def Position.ofOffset (document : List UInt8) (offset : Nat) : Position where
  line := 1 + ((document.take (offset + 1)).count 0x0A)
  column := ((document.take (offset + 1)).reverse.takeWhile (· ≠ 0x0A)).length

structure SyntaxError where
  fault : Fault
  position : Position
  deriving DecidableEq, Repr

def SyntaxError.message (error : SyntaxError) : String :=
  error.fault.message ++ " at line " ++ Text.Numeral.ofNat error.position.line ++
    " column " ++ Text.Numeral.ofNat error.position.column

end ServiceBoot.Json
