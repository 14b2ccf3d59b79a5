import ServiceBoot.Json.Writer
import ServiceBoot.Text.Quoted

/-!
# Values as people read them

The form that a value has in a log line meant for people. A text stands as it is where it cannot be
mistaken for anything else, and quoted otherwise.
-/

namespace ServiceBoot.Log.Display

open Json (Value)

mutual

/-- A value with every text in it quoted. -/
def exact : Value → List Char
  | .null => "None".toList
  | .bool true => "True".toList
  | .bool false => "False".toList
  | .int n => (Text.Numeral.ofInt n).toList
  | .real text => text.toList
  | .str text => Text.Quoted.chars text.toList
  | .list [] => ['[', ']']
  | .list (first :: rest) => '[' :: exact first ++ exactItems rest ++ [']']
  | .object [] => ['\x7b', '\x7d']
  | .object ((name, first) :: rest) =>
    '\x7b' :: Text.Quoted.chars name.toList ++ [':', ' '] ++ exact first ++ exactMembers rest ++
      ['\x7d']

def exactItems : List Value → List Char
  | [] => []
  | first :: rest => ',' :: ' ' :: exact first ++ exactItems rest

def exactMembers : List (String × Value) → List Char
  | [] => []
  | (name, first) :: rest =>
    ',' :: ' ' :: Text.Quoted.chars name.toList ++ [':', ' '] ++ exact first ++ exactMembers rest

end

/-- A value with a text left as it is. -/
def plain : Value → List Char
  | .str text => text.toList
  | value => exact value

/-- What would make a bare text run into its neighbours. -/
def needsQuotes (c : Char) : Bool := [' ', '\t', '\n', '\r', '=', '"', '\''].contains c

/-- A value in one of these forms, unless an integer in it is too long to be written. -/
def form? (form : Value → List Char) (value : Value) : Option (List Char) :=
  if value.isWritable then some (form value) else none

/-- The value of a field in a line of fields. -/
def inField : Value → List Char
  | .str text => if text.toList.any needsQuotes then exact (.str text) else text.toList
  | value => exact value

/-- What values of a kind are called in messages. -/
def kindName : Json.Kind → String
  | .null => "NoneType"
  | .bool => "bool"
  | .int => "int"
  | .real => "float"
  | .str => "str"
  | .list => "list"
  | .object => "dict"

/-- Whether a value has content: it is not missing, false, zero or empty. -/
def hasContent : Value → Bool
  | .null => false
  | .bool b => b
  | .int n => n ≠ 0
  | .real _ => true
  | .str text => text ≠ ""
  | .list items => !items.isEmpty
  | .object members => !members.isEmpty

end ServiceBoot.Log.Display
