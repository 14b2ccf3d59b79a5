import ServiceBoot.Text.Lowercase

/-!
# Log levels

The five levels, their names and numbers, and the texts that are accepted as a level: any case,
the short form of `warning`, and the empty text for the usual level.
-/

namespace ServiceBoot.Log

inductive Level where
  | debug
  | info
  | warning
  | error
  | critical
  deriving DecidableEq, Repr

namespace Level

def name : Level → String
  | .debug => "debug"
  | .info => "info"
  | .warning => "warning"
  | .error => "error"
  | .critical => "critical"

def number : Level → Nat
  | .debug => 10
  | .info => 20
  | .warning => 30
  | .error => 40
  | .critical => 50

def all : List Level := [.debug, .info, .warning, .error, .critical]

def ofName? (name : String) : Option Level := all.find? (·.name == name)

@[simp]
theorem ofName?_name (level : Level) : ofName? level.name = some level := by
  cases level <;> decide

theorem name_injective {level other : Level} (h : level.name = other.name) : level = other := by
  apply Option.some.inj
  rw [← ofName?_name level, h, ofName?_name]

theorem name_of_ofName? {name : String} {level : Level} (h : ofName? name = some level) :
    level.name = name := by
  simpa using List.find?_some h

/-- The name that a text is looked up by. -/
def normalName (text : String) : String :=
  let small := Text.lowercase text
  if small = "" then "info" else if small = "warn" then "warning" else small

/-- The level that a text stands for, or the name that is not known. -/
def ofText (text : String) : Except String Level :=
  match ofName? (normalName text) with
  | some level => .ok level
  | none => .error (normalName text)

theorem ofText_eq_ok_iff_normalName {text : String} {level : Level} :
    ofText text = .ok level ↔ normalName text = level.name := by
  unfold ofText
  cases hlevel : ofName? (normalName text) with
  | none =>
    refine iff_of_false nofun fun h ↦ ?_
    rw [h, ofName?_name] at hlevel
    cases hlevel
  | some known =>
    rw [← name_of_ofName? hlevel, Except.ok.injEq]
    exact ⟨congrArg name, name_injective⟩

end Level

end ServiceBoot.Log
