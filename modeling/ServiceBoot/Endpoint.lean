import ServiceBoot.Text.Numeral
import ServiceBoot.Text.Quoted

/-!
# Endpoints

An endpoint is a host with an optional port: `host`, `host:port`, `[address]` or `[address]:port`.
A text with several colons and no brackets is a bare address without a port.
-/

namespace ServiceBoot

structure Endpoint where
  host : String
  port : Option Nat
  deriving DecidableEq, Repr

namespace Endpoint

inductive Fault where
  | unterminated (text : String)
  | trailingText (text : String)
  | invalidPort (port text : String)
  | notNumeral (port : String)
  | tooManyDigits (count : Nat)
  deriving DecidableEq, Repr

/-- The longest numeral that is read. -/
def maxDigits : Nat := Text.Numeral.maxDigits

/-- The part of a quoted text that a message has room for. -/
def shownLength : Nat := 200

def Fault.message : Fault → String
  | .unterminated text => "unterminated IPv6 address in '" ++ text ++ "'"
  | .trailingText text => "unexpected text after IPv6 address in '" ++ text ++ "'"
  | .invalidPort port text => "invalid port '" ++ port ++ "' in '" ++ text ++ "'"
  | .notNumeral port =>
    "invalid literal for int() with base 10: " ++
      String.ofList ((Text.Quoted.chars port.toList).take shownLength)
  | .tooManyDigits count =>
    "Exceeds the limit (" ++ Text.Numeral.ofNat maxDigits ++
      " digits) for integer string conversion: value has " ++ Text.Numeral.ofNat count ++
      " digits; use sys.set_int_max_str_digits() to increase the limit"

/-- The number that a run of digits denotes. The decimal digits that it starts with are counted
before anything else is looked at. -/
def numberOf (digits : List Char) : Except Fault Nat :=
  let count := (digits.takeWhile Text.Numeral.isDecimal).length
  if maxDigits < count then .error (.tooManyDigits count)
  else match Text.Numeral.value? digits with
    | none => .error (.notNumeral (String.ofList digits))
    | some n => .ok n

/-- The port that a run of characters denotes; `text` is the whole endpoint, for the message. -/
def portOf (port : List Char) (text : String) : Except Fault Nat :=
  let invalid : Fault := .invalidPort (String.ofList port) text
  if port.isEmpty || !port.all Text.Numeral.isDigit then .error invalid
  else match numberOf port with
    | .error fault => .error fault
    | .ok n => if 0 < n ∧ n < 65536 then .ok n else .error invalid

def withPort (host port : List Char) (text : String) : Except Fault Endpoint :=
  (portOf port text).map fun n ↦ ⟨String.ofList host, some n⟩

/-- The text before and after the first occurrence of a character, if there is one. -/
def cut (mark : Char) (chars : List Char) : Option (List Char × List Char) :=
  match chars.dropWhile (· ≠ mark) with
  | [] => none
  | _ :: after => some (chars.takeWhile (· ≠ mark), after)

/-- What follows the opening bracket. -/
def bracketed (chars : List Char) (text : String) : Except Fault Endpoint :=
  match cut ']' chars with
  | none => .error (.unterminated text)
  | some (host, []) => .ok ⟨String.ofList host, none⟩
  | some (host, c :: port) =>
    if c = ':' then withPort host port text else .error (.trailingText text)

def ofChars (chars : List Char) (text : String) : Except Fault Endpoint :=
  match chars with
  | '[' :: chars => bracketed chars text
  | chars =>
    if chars.count ':' = 1 then
      match cut ':' chars with
      | some (host, port) => withPort host port text
      | none => .ok ⟨text, none⟩
    else .ok ⟨text, none⟩

def ofText (text : String) : Except Fault Endpoint := ofChars text.toList text

end Endpoint

end ServiceBoot
