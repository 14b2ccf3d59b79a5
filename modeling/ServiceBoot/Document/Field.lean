import ServiceBoot.Document.Checked
import ServiceBoot.Log.Level

/-!
# Fields of a document

How a field is found among the members of an object, under either of its two spellings, and how the
value that it holds is checked. Values are taken as they are: a number is never read from a text.
-/

namespace ServiceBoot.Document

open Json (Value Members)

/-- The second spelling of a key: an underscore and the small letter for each capital. -/
def snakeCase (key : String) : String :=
  String.ofList (key.toList.flatMap fun c ↦ if c.isUpper then ['_', c.toLower] else [c])

/-- A value with the spelling that it was found under. -/
structure Found where
  key : String
  value : Value

/-- The first spelling wins, even if the value under it is a wrong one. -/
def find? (members : Members) (key : String) : Option Found :=
  match members.last? key with
  | some value => some ⟨key, value⟩
  | none => (members.last? (snakeCase key)).map fun value ↦ ⟨snakeCase key, value⟩

def mandatory {α : Type} (members : Members) (key : String) (check : Value → Checked α) :
    Checked α :=
  match find? members key with
  | some found => (check found.value).under (.key found.key)
  | none => .rejected ⟨[.key key], .missing⟩ []

/-- A value is checked only if it is given. -/
def defaulted {α : Type} (members : Members) (key : String) (default : α)
    (check : Value → Checked α) : Checked α :=
  match find? members key with
  | some found => (check found.value).under (.key found.key)
  | none => .accepted default

/-! ## Checks of values -/

def complain {α : Type} (complaint : Complaint) : Checked α := .rejected ⟨[], complaint⟩ []

def integer : Value → Checked Int
  | .int n => .accepted n
  | _ => complain .notInteger

def text : Value → Checked String
  | .str text => .accepted text
  | _ => complain .notText

/-- The texts of a list whose first element stands at this position. -/
def textsFrom (position : Nat) : List Value → Checked (List String)
  | [] => .accepted []
  | first :: rest =>
    ((text first).under (.index position) |>.map List.cons).apply (textsFrom (position + 1) rest)

def texts : Value → Checked (List String)
  | .list items => textsFrom 0 items
  | _ => complain .notList

def block {α : Type} (check : Members → Checked α) : Value → Checked α
  | .object members => check members
  | _ => complain .notObject

/-- A log level is kept under its usual name. -/
def levelText (value : Value) : Checked String :=
  (text value).bind fun text ↦
    match Log.Level.ofText text with
    | .ok level => .accepted level.name
    | .error name => complain (.unknownLevel name)

/-- An endpoint is kept as it is written. -/
def endpointText (value : Value) : Checked String :=
  (text value).bind fun text ↦
    match Endpoint.ofText text with
    | .ok _ => .accepted text
    | .error fault => complain (.badEndpoint fault)

end ServiceBoot.Document
