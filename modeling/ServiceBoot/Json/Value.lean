/-!
# JSON values

A document as a tree. An object keeps every member in the order of the text, repeated names
included; looking a name up answers its last occurrence.
-/

namespace ServiceBoot.Json

/-- A `real` is a number written with a fraction or an exponent, or one that is not finite; it
keeps its text. -/
inductive Value where
  | null
  | bool (value : Bool)
  | int (value : Int)
  | real (text : String)
  | str (text : String)
  | list (items : List Value)
  | object (members : List (String × Value))
  deriving Inhabited, Repr

inductive Kind where
  | null
  | bool
  | int
  | real
  | str
  | list
  | object
  deriving DecidableEq, Repr

def Value.kind : Value → Kind
  | .null => .null
  | .bool _ => .bool
  | .int _ => .int
  | .real _ => .real
  | .str _ => .str
  | .list _ => .list
  | .object _ => .object

abbrev Members := List (String × Value)

/-- The value of the last member of a name. -/
def Members.last? (members : Members) (name : String) : Option Value :=
  members.foldl (fun found member ↦ if member.1 = name then some member.2 else found) none

@[simp]
theorem Members.last?_nil (name : String) : Members.last? [] name = none := rfl

/-! ## The integers in a value -/

mutual

def Value.integers : Value → List Int
  | .int n => [n]
  | .list items => itemIntegers items
  | .object members => memberIntegers members
  | .null | .bool _ | .real _ | .str _ => []

def itemIntegers : List Value → List Int
  | [] => []
  | first :: rest => first.integers ++ itemIntegers rest

def memberIntegers : List (String × Value) → List Int
  | [] => []
  | (_, first) :: rest => first.integers ++ memberIntegers rest

end

end ServiceBoot.Json
