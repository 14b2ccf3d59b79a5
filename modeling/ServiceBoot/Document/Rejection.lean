import ServiceBoot.Document.Checked
import ServiceBoot.Json.Reader

/-!
# Rejected documents

A document is rejected for the first fault of its syntax or, if it has none, for every violation of
the schema.
-/

namespace ServiceBoot.Document

inductive Rejection where
  | malformed (error : Json.SyntaxError)
  | violated (first : Violation) (others : List Violation)
  deriving DecidableEq, Repr

/-- One line of a report. -/
structure Detail where
  kind : String
  place : List Step
  message : String
  deriving DecidableEq, Repr

def Violation.detail (violation : Violation) : Detail :=
  ⟨violation.complaint.kind, violation.place, violation.complaint.message⟩

/-- The head of a report about a document that should hold such a thing. -/
def headline (count : Nat) (title : String) : String :=
  Text.Numeral.ofNat count ++ " validation error" ++ (if count = 1 then "" else "s") ++ " for " ++
    title

namespace Rejection

def details : Rejection → List Detail
  | .malformed error => [⟨"json_invalid", [], "Invalid JSON: " ++ error.message⟩]
  | .violated first others => (first :: others).map Violation.detail

def headline (rejection : Rejection) (title : String) : String :=
  Document.headline rejection.details.length title

end Rejection

/-- What a byte sequence holds, if it is a document that passes the check. -/
def read [Json.Limits] {α : Type} (check : Json.Value → Checked α) (bytes : Bytes) :
    Except Rejection α :=
  match Json.read bytes with
  | .error error => .error (.malformed error)
  | .ok value =>
    match check value with
    | .accepted result => .ok result
    | .rejected first others => .error (.violated first others)

end ServiceBoot.Document
