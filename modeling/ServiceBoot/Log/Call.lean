import ServiceBoot.Log.Entry

/-!
# Calls of loggers

A call hands fields to a logger by their names, and takes some names for itself. A field by such a
name clashes with the call, which then does nothing.
-/

namespace ServiceBoot.Log

/-- What a logger is called for. An entry that is accepted goes on to be put together. -/
inductive Call where
  | make
  | bindFirst
  | bindMore
  | accept
  | ignore
  | assemble
  deriving DecidableEq, Repr

structure Clash where
  call : Call
  name : String
  deriving DecidableEq, Repr

namespace Call

def title : Call → String
  | .make => "get_logger"
  | .bindFirst => "BoundLoggerLazyProxy.bind"
  | .bindMore => "BoundLoggerBase.bind"
  | .accept => "_make_filtering_bound_logger.<locals>.make_method.<locals>.meth"
  | .ignore => "_nop"
  | .assemble => "BoundLoggerBase._proxy_to_logger"

/-- The names that a call takes for itself. -/
def ownNames : Call → List String
  | .make => ["name"]
  | .bindFirst | .bindMore => ["self"]
  | .accept | .ignore => ["self", "event"]
  | .assemble => ["self", "method_name", "event"]

/-- The first field that clashes with a call. -/
def clash? (call : Call) (fields : Fields) : Option Clash :=
  (fields.find? fun field ↦ call.ownNames.contains field.1).map fun field ↦ ⟨call, field.1⟩

theorem clash?_eq_none_iff (call : Call) (fields : Fields) :
    call.clash? fields = none ↔ ∀ field ∈ fields, field.1 ∉ call.ownNames := by
  simp [clash?]

end Call

def Clash.message (clash : Clash) : String :=
  clash.call.title ++ "() got multiple values for argument '" ++ clash.name ++ "'"

end ServiceBoot.Log
