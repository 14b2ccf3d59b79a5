import ServiceBoot.Endpoint
import ServiceBoot.Json.Value

/-!
# Violations of a document's schema

What a value of a document can get wrong, and where it stands: the keys and indices that lead to
it from the root.
-/

namespace ServiceBoot.Document

inductive Step where
  | key (name : String)
  | index (position : Nat)
  deriving DecidableEq, Repr

inductive Complaint where
  | notObject
  | missing
  | notInteger
  | notText
  | notList
  | unknownLevel (name : String)
  | badEndpoint (fault : Endpoint.Fault)
  deriving DecidableEq, Repr

/-- The levels in the order of their names, as the complaint about an unknown one lists them. -/
def levelChoices : String := "['critical', 'debug', 'error', 'info', 'warning']"

namespace Complaint

/-- The class of a complaint, by which reports are filtered. -/
def kind : Complaint → String
  | .notObject => "model_type"
  | .missing => "missing"
  | .notInteger => "int_type"
  | .notText => "string_type"
  | .notList => "list_type"
  | .unknownLevel _ | .badEndpoint _ => "value_error"

def message : Complaint → String
  | .notObject => "Input should be an object"
  | .missing => "Field required"
  | .notInteger => "Input should be a valid integer"
  | .notText => "Input should be a valid string"
  | .notList => "Input should be a valid array"
  | .unknownLevel name =>
    "Value error, unknown log level '" ++ name ++ "', expected one of " ++ levelChoices
  | .badEndpoint fault => "Value error, " ++ fault.message

end Complaint

structure Violation where
  place : List Step
  complaint : Complaint
  deriving DecidableEq, Repr

/-- The violation seen from one step further out. -/
def Violation.under (step : Step) (violation : Violation) : Violation :=
  { violation with place := step :: violation.place }

end ServiceBoot.Document
