import ServiceBoot.Json.Value

/-!
# Arguments of a message template

The arguments are taken one after the other. If an object is the only argument, the places of the
template may also name its members.
-/

namespace ServiceBoot.Log.Template

open Json (Value)

/-- The arguments that are left, and the object whose members can be named. -/
structure Arguments where
  source : Option Json.Members
  waiting : List Value
  deriving Repr

namespace Arguments

def ofList : List Value → Arguments
  | [.object (first :: rest)] => ⟨some (first :: rest), [.object (first :: rest)]⟩
  | arguments => ⟨none, arguments⟩

/-- Takes the next argument. -/
def next? (arguments : Arguments) : Option (Value × Arguments) :=
  match arguments.waiting with
  | [] => none
  | value :: rest => some (value, { arguments with waiting := rest })

/-- Makes a member of the source the next argument. -/
def choose? (arguments : Arguments) (name : String) : Option Arguments := do
  let value ← (← arguments.source).last? name
  pure { arguments with waiting := [value] }

/-- Arguments that no place asks for may only be left over from a source. -/
def areSpent (arguments : Arguments) : Bool :=
  arguments.source.isSome || arguments.waiting.isEmpty

end Arguments

def integer? : Value → Option Int
  | .int n => some n
  | .bool b => some (if b then 1 else 0)
  | _ => none

/-- The single character that a value stands for. -/
def character? : Value → Option Char
  | .str text => match text.toList with | [c] => some c | _ => none
  | value => (integer? value).bind fun n ↦
    if 0 ≤ n ∧ n.toNat.isValidChar then some (Char.ofNat n.toNat) else none

end ServiceBoot.Log.Template
