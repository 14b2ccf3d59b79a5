import ServiceBoot.Json.Value
import ServiceBoot.Log.Level

/-!
# Log entries

An entry is an event at a level, with fields in the order in which they were given. The event is
most often a text. Null stands for no event at all.
-/

namespace ServiceBoot.Log

abbrev Fields := List (String × Json.Value)

/-- Gives a field a value; a name that is there already keeps its place. -/
def Fields.put (fields : Fields) (name : String) (value : Json.Value) : Fields :=
  if fields.any (·.1 == name) then
    fields.map fun field ↦ if field.1 = name then (name, value) else field
  else fields ++ [(name, value)]

def Fields.putAll (fields more : Fields) : Fields :=
  more.foldl (fun fields field ↦ fields.put field.1 field.2) fields

def Fields.has (fields : Fields) (name : String) : Bool := fields.any (·.1 == name)

structure Entry where
  level : Level
  event : Json.Value
  fields : Fields
  deriving Repr

namespace Entry

def warning (event : String) (fields : Fields) : Entry := ⟨.warning, .str event, fields⟩

/-- The fields with the event among them. -/
def members (entry : Entry) : Fields :=
  match entry.event with
  | .null => entry.fields
  | event => entry.fields.put "event" event

/-- The entry with a field that is the event taken out of the others. -/
def parted (entry : Entry) : Entry where
  level := entry.level
  event := (List.lookup "event" entry.members).getD .null
  fields := entry.members.filter (·.1 ≠ "event")

end Entry

end ServiceBoot.Log
