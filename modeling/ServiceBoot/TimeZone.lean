import ServiceBoot.Text.Quoted

/-!
# Time zones

A time zone is given by its name, which leads down through folders. The name has to be spelled as in
the database, but that dots may part the folders as slashes do. A search among the folders breaks
off in two cases: there are too many of them for the stack of the process, or the last one is an
index, which each folder holds beside its zones.
-/

namespace ServiceBoot.TimeZone

/-- What time zones there are, and what it takes to search for one. -/
class Database where
  names : List String
  /-- The number of folders that a search can lead through before the stack is used up. -/
  reach : Nat
  /-- What is said when the stack is used up. -/
  overrun : String

/-! ## Names -/

def parts (name : String) : List (List Char) := name.toList.splitOn '/'

/-- Neither nothing, nor the folder itself, nor the one above. -/
def isProper (part : List Char) : Bool := part ≠ [] && part ≠ ['.'] && part ≠ ['.', '.']

/-- Whether a name leads down from folder to folder. One step up is allowed in front, if the next
one leads into a folder called `_`. -/
def leadsDown (name : String) : Bool :=
  match parts name with
  | ['.', '.'] :: ['_'] :: rest => !rest.isEmpty && rest.all isProper
  | parts => parts.all isProper

/-- The folders that a name leads through. -/
def folders (name : String) : List (List Char) :=
  (parts name).dropLast.flatMap (·.splitOn '.')

/-- What a name says behind its last slash. -/
def zone (name : String) : List Char := (parts name).getLastD []

/-- The name with slashes alone between the folders. -/
def slashed (name : String) : String :=
  String.ofList (['/'].intercalate (folders name ++ [zone name]))

/-! ## Searching -/

/-- The index of the folder that is reached through other folders. -/
structure Index where
  folders : List (List Char)
  deriving DecidableEq, Repr

namespace Index

def name : List Char := "__init__".toList

def path (index : Index) : String :=
  String.ofList (['.'].intercalate ("tzdata".toList :: "zoneinfo".toList ::
    index.folders ++ [name]))

def message (index : Index) : String := Text.quoted index.path ++ " is not a package"

end Index

/-- Why a search breaks off. -/
inductive Obstacle where
  | tooDeep (said : String)
  | under (index : Index)
  deriving DecidableEq, Repr

def Obstacle.message : Obstacle → String
  | .tooDeep said => said
  | .under index => index.message

variable [Database]

/-- Whether there are zones under folders; all of them are under none. -/
def isFolder (path : List (List Char)) : Bool :=
  Database.names.any fun name ↦ path.isPrefixOf (folders name)

/-- The index that folders end in, if they do. -/
def index? (folders : List (List Char)) : Option Index :=
  match folders.reverse with
  | [] => none
  | last :: above =>
    if last = Index.name && isFolder above.reverse then some ⟨above.reverse⟩ else none

/-- Why the search for a zone breaks off, if it does. There is no search for a name that does not
lead down. -/
def obstacle? (name : String) : Option Obstacle :=
  if !leadsDown name then none
  else if Database.reach < (folders name).length then some (.tooDeep Database.overrun)
  else (index? (folders name)).map .under

/-- Whether a search finds a zone. -/
def isKnown (name : String) : Bool :=
  leadsDown name && (obstacle? name).isNone && Database.names.contains (slashed name)

theorem isKnown_iff (name : String) : isKnown name = true ↔
    leadsDown name = true ∧ obstacle? name = none ∧ slashed name ∈ Database.names := by
  simp [isKnown, and_assoc]

/-- The search for a known zone does not break off. -/
theorem isKnown_of_obstacle {name : String} {obstacle : Obstacle}
    (h : obstacle? name = some obstacle) : isKnown name = false := by
  simp [isKnown, h]

theorem ne_of_isKnown {name : String} (h : isKnown name = true) : name ≠ "" := by
  rintro rfl
  have hdown : leadsDown "" = false := by decide +kernel
  rw [isKnown_iff, hdown] at h
  exact Bool.false_ne_true h.1

end ServiceBoot.TimeZone
