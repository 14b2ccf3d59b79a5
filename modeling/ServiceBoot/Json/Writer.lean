import ServiceBoot.Json.Value
import ServiceBoot.Text.Hex
import ServiceBoot.Text.Numeral

/-!
# Writing JSON

Two written forms: the indented one of configuration documents, and the one of log lines, which
stays on one line and within ASCII.
-/

namespace ServiceBoot.Json

/-- The letter that stands for a character after a backslash. -/
def shortEscape? (c : Char) : Option Char :=
  if c = '"' then some '"'
  else if c = '\\' then some '\\'
  else if c = '\x08' then some 'b'
  else if c = '\x0c' then some 'f'
  else if c = '\n' then some 'n'
  else if c = '\r' then some 'r'
  else if c = '\t' then some 't'
  else none

/-- A character by its number, as two surrogates if it needs more than four digits. -/
def numbered (n : Nat) : List Char :=
  if n < 0x10000 then '\\' :: 'u' :: Text.Hex.lower 4 n
  else
    let high := 0xD800 + (n - 0x10000) / 0x400
    let low := 0xDC00 + (n - 0x10000) % 0x400
    '\\' :: 'u' :: Text.Hex.lower 4 high ++ '\\' :: 'u' :: Text.Hex.lower 4 low

/-- A character of a string; `plain` says which of those without a short escape stay as they are. -/
def escape (plain : Char → Bool) (c : Char) : List Char :=
  match shortEscape? c with
  | some letter => ['\\', letter]
  | none => if plain c then [c] else numbered c.toNat

def quotedChars (plain : Char → Bool) (text : String) : List Char :=
  '"' :: text.toList.flatMap (escape plain) ++ ['"']

/-- Documents escape control characters only. -/
def isPlain (c : Char) : Bool := 0x20 ≤ c.toNat

/-- Log lines also escape all that is not visible ASCII. -/
def isPlainAscii (c : Char) : Bool := 0x20 ≤ c.toNat && c.toNat < 0x7F

def intChars (n : Int) : List Char := (Text.Numeral.ofInt n).toList

/-- Whether no integer in a value is too long to be written. -/
def Value.isWritable (value : Value) : Bool := value.integers.all Text.Numeral.isWritable

@[simp]
theorem Value.isWritable_null : Value.null.isWritable = true := rfl

@[simp]
theorem Value.isWritable_str (text : String) : (Value.str text).isWritable = true := rfl

@[simp]
theorem Value.isWritable_int (n : Int) :
    (Value.int n).isWritable = Text.Numeral.isWritable n := by
  simp [isWritable, integers]

def newline (indent : Nat) : List Char := '\n' :: List.replicate (2 * indent) ' '

/-! ## The indented form -/

mutual

def indented (indent : Nat) : Value → List Char
  | .null => "null".toList
  | .bool true => "true".toList
  | .bool false => "false".toList
  | .int n => intChars n
  | .real text => text.toList
  | .str text => quotedChars isPlain text
  | .list [] => ['[', ']']
  | .list (first :: rest) =>
    '[' :: newline (indent + 1) ++ indented (indent + 1) first ++
      indentedItems (indent + 1) rest ++ newline indent ++ [']']
  | .object [] => ['\x7b', '\x7d']
  | .object ((key, first) :: rest) =>
    '\x7b' :: newline (indent + 1) ++ quotedChars isPlain key ++ [':', ' '] ++
      indented (indent + 1) first ++ indentedMembers (indent + 1) rest ++
      newline indent ++ ['\x7d']

def indentedItems (indent : Nat) : List Value → List Char
  | [] => []
  | first :: rest =>
    ',' :: newline indent ++ indented indent first ++ indentedItems indent rest

def indentedMembers (indent : Nat) : List (String × Value) → List Char
  | [] => []
  | (key, first) :: rest =>
    ',' :: newline indent ++ quotedChars isPlain key ++ [':', ' '] ++ indented indent first ++
      indentedMembers indent rest

end

def Value.pretty (value : Value) : String := String.ofList (indented 0 value)

/-! ## The form of log lines -/

mutual

def onLine : Value → List Char
  | .null => "null".toList
  | .bool true => "true".toList
  | .bool false => "false".toList
  | .int n => intChars n
  | .real text => text.toList
  | .str text => quotedChars isPlainAscii text
  | .list [] => ['[', ']']
  | .list (first :: rest) => '[' :: onLine first ++ onLineItems rest ++ [']']
  | .object [] => ['\x7b', '\x7d']
  | .object ((key, first) :: rest) =>
    '\x7b' :: quotedChars isPlainAscii key ++ [':', ' '] ++ onLine first ++
      onLineMembers rest ++ ['\x7d']

def onLineItems : List Value → List Char
  | [] => []
  | first :: rest => ',' :: ' ' :: onLine first ++ onLineItems rest

def onLineMembers : List (String × Value) → List Char
  | [] => []
  | (key, first) :: rest =>
    ',' :: ' ' :: quotedChars isPlainAscii key ++ [':', ' '] ++ onLine first ++
      onLineMembers rest

end

def Value.line (value : Value) : String := String.ofList (onLine value)

end ServiceBoot.Json
