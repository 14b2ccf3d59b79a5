import ServiceBoot.Settings.EnvFile
import ServiceBoot.Text.Lowercase

/-!
# Environments

Variables with their values, in the order in which they were set last. The values of a file may
refer to variables of the environment and to those of earlier lines.
-/

namespace ServiceBoot

abbrev Environment := List (String × String)

namespace Environment

def remove (environment : Environment) (name : String) : Environment :=
  environment.filter fun entry ↦ entry.1 ≠ name

/-- Sets a variable, which comes after all others from then on. -/
def put (environment : Environment) (name value : String) : Environment :=
  environment.remove name ++ [(name, value)]

/-- The value of the last variable of a name, whose case does not matter. -/
def find? (environment : Environment) (name : String) : Option String :=
  (environment.reverse.find? fun entry ↦ Text.lowercase entry.1 == name).map (·.2)

end Environment

namespace EnvFile

/-- Variables with the values that they have so far, if any. -/
abbrev Values := List (String × Option String)

def Values.put (values : Values) (name : String) (value : Option String) : Values :=
  if values.any (·.1 == name) then
    values.map fun entry ↦ if entry.1 = name then (name, value) else entry
  else values ++ [(name, value)]

/-- The value that a reference stands for: that of an earlier line, even if it has none, then that
of the environment, then the default given with the reference. -/
def resolve (environment : Environment) (values : Values) (name default : String) : String :=
  match values.find? (·.1 == name) with
  | some (_, value) => value.getD ""
  | none => ((List.lookup name environment).getD default)

/-- A reference after its opening brace: its name, its default and what follows it. -/
def reference? (s : List Char) : Option (String × String × List Char) :=
  let name := String.ofList (s.takeWhile fun c ↦ c ≠ '\x7d' ∧ c ≠ ':')
  match s.dropWhile fun c ↦ c ≠ '\x7d' ∧ c ≠ ':' with
  | '\x7d' :: after => some (name, "", after)
  | ':' :: '-' :: rest =>
    match rest.dropWhile (· ≠ '\x7d') with
    | _ :: after => some (name, String.ofList (rest.takeWhile (· ≠ '\x7d')), after)
    | [] => none
  | _ => none

/-- Replaces the references of a value within a budget of one step a character. -/
def expand (find : String → String → String) : Nat → List Char → List Char
  | 0, s => s
  | _, [] => []
  | budget + 1, c :: rest =>
    match c, rest with
    | '$', '\x7b' :: inner =>
      match reference? inner with
      | some (name, default, after) => (find name default).toList ++ expand find budget after
      | none => c :: expand find budget rest
    | _, _ => c :: expand find budget rest

/-- The values of a file's variables, of which the last binding counts. -/
def values (environment : Environment) (bindings : List Binding) : Values :=
  bindings.foldl
    (fun values binding ↦
      values.put binding.name (binding.value.map fun value ↦
        String.ofList (expand (resolve environment values) value.length value.toList)))
    []

/-- The value of the last variable of a name, whose case does not matter. -/
def Values.find? (values : Values) (name : String) : Option String :=
  ((values.reverse.find? fun entry ↦ Text.lowercase entry.1 == name).bind (·.2))

end EnvFile

end ServiceBoot
