import ServiceBoot.Json.Writer
import ServiceBoot.Log.Display
import ServiceBoot.Log.Entry

/-!
# Log lines

An entry is written as one line, with the time and the level that it was made at: as a JSON object
for machines, or in columns for people, coloured if the columns go to a terminal. Below the columns
stand the traces that an entry may carry as texts.
-/

namespace ServiceBoot.Log

open Json (Value)

/-- Adds the fields whose names are not there yet. -/
def Fields.fill (fields more : Fields) : Fields :=
  more.foldl
    (fun fields field ↦ if fields.has field.1 then fields else fields.put field.1 field.2) fields

inductive Format where
  | json
  | columns (coloured : Bool)
  deriving DecidableEq, Repr

namespace Line

/-- Fields that ask for a trace rather than say something. -/
def requests : List String := ["exc_info", "stack_info"]

/-- The fields of an entry, those that all entries share, and what the entry says. -/
def allFields (stamp : String) (shared : Fields) (entry : Entry) : Fields :=
  let given := Fields.fill entry.members shared
  (given.put "level" (.str entry.level.name)).put "timestamp" (.str stamp)

/-- The fields of a line. -/
def fields (stamp : String) (shared : Fields) (entry : Entry) : Fields :=
  (allFields stamp shared entry).filter fun field ↦ !requests.contains field.1

/-! ## Columns -/

/-- The codes that switch a terminal from one colour to another. -/
structure Palette where
  reset : String := ""
  faint : String := ""
  bright : String := ""
  source : String := ""
  name : String := ""
  value : String := ""
  level : Level → String := fun _ ↦ ""

def code (number : String) : String := "\x1b[" ++ number ++ "m"

def levelColour : Level → String
  | .debug | .info => code "32"
  | .warning => code "33"
  | .error | .critical => code "31"

def palette (coloured : Bool) : Palette :=
  if coloured then
    { reset := code "0", faint := code "2", bright := code "1", source := code "34",
      name := code "36", value := code "35", level := levelColour }
  else {}

def padded (width : Nat) (text : String) : String :=
  text ++ String.ofList (List.replicate (width - text.length) ' ')

def levelWidth : Nat := 9

def eventWidth : Nat := 30

/-- Names that stand in columns or traces of their own. -/
def ownNames : List String :=
  ["", "timestamp", "level", "event", "logger", "logger_name", "stack", "exception"]

def eventColumn (palette : Palette) (event : Value) : String :=
  palette.bright ++ padded eventWidth (String.ofList (Display.plain event)) ++ palette.reset

/-- The logger that a field names, in brackets. -/
def sourceColumn (palette : Palette) (value : Value) : String :=
  "[" ++ palette.reset ++ palette.bright ++ palette.source ++
    String.ofList (Display.plain value) ++ palette.reset ++ "]" ++ palette.reset

def fieldColumn (palette : Palette) (field : String × Value) : String :=
  palette.name ++ field.1 ++ palette.reset ++ "=" ++ palette.value ++
    String.ofList (Display.inField field.2) ++ palette.reset

/-- The columns of a line: the field without a name, time, level, event, logger, and the other
fields by their names. -/
def columns (palette : Palette) (stamp : String) (entry : Entry) (fields : Fields) :
    List String :=
  let nameless := (List.lookup "" fields).toList.map fun value ↦ ("", value)
  let events := (List.lookup "event" fields).toList
  let sources := ["logger", "logger_name"].filterMap fun name ↦ List.lookup name fields
  let others := (fields.filter fun field ↦ !ownNames.contains field.1).mergeSort
    fun a b ↦ a.1 ≤ b.1
  nameless.map (fieldColumn palette) ++
    [palette.faint ++ stamp ++ palette.reset,
      "[" ++ palette.level entry.level ++ palette.bright ++ padded levelWidth entry.level.name ++
        palette.reset ++ "]"] ++
    events.map (eventColumn palette) ++ sources.map (sourceColumn palette) ++
    others.map (fieldColumn palette)

def trimmed (line : String) : String :=
  String.ofList (line.toList.reverse.dropWhile (· = ' ')).reverse

/-! ## Traces -/

/-- Fields that columns show as traces below them. -/
def traceNames : List String := ["stack", "exception"]

/-- Why no line can be made of an entry: an integer in it is too long to be written, or what a field
gives as a trace is no text. -/
inductive Flaw where
  | tooLong
  | untraceable (kind : Json.Kind)
  deriving DecidableEq, Repr

def Flaw.message : Flaw → String
  | .tooLong => Text.Numeral.tooLong
  | .untraceable kind =>
    "can only concatenate str (not \"" ++ Display.kindName kind ++ "\") to str"

/-- The trace that a field holds, unless it holds nothing. -/
def trace? (fields : Fields) (name : String) : Except Flaw (Option String) :=
  match List.lookup name fields with
  | none | some .null => .ok none
  | some (.str text) => .ok (some text)
  | some value => .error (.untraceable value.kind)

def isGiven (fields : Fields) (name : String) : Bool :=
  match List.lookup name fields with
  | none | some .null => false
  | some _ => true

/-- Whether a failure is announced to follow the stack. -/
def hasFailure (fields : Fields) : Bool :=
  ((List.lookup "exc_info" fields).map Display.hasContent).getD false || isGiven fields "exception"

def ruleWidth : Nat := 79

def rule : String := String.ofList (List.replicate ruleWidth '=')

/-- What stands below the columns: the stack, and the failure that it led to. -/
def traces (fields : Fields) : Except Flaw String := do
  let stack ← trace? fields "stack"
  let failure ← trace? fields "exception"
  let above := match stack with
    | none => ""
    | some text => "\n" ++ text ++ if hasFailure fields then "\n\n" ++ rule ++ "\n" else ""
  let below := match failure with
    | none => ""
    | some text => "\n" ++ text
  pure (above ++ below)

end Line

namespace Format

/-- Whether the value of a field is written by itself, not as a trace. -/
def writes (format : Format) (name : String) : Bool :=
  match format with
  | .json => true
  | .columns _ => !Line.traceNames.contains name

/-- The line of an entry in which every integer can be written. -/
def compose (format : Format) (stamp : String) (shared : Fields) (entry : Entry) :
    Except Line.Flaw String :=
  let fields := Line.fields stamp shared entry
  match format with
  | .json => .ok (Value.line (.object fields))
  | .columns coloured =>
    let columns := Line.columns (Line.palette coloured) stamp entry fields
    (Line.traces (Line.allFields stamp shared entry)).map fun traces ↦
      Line.trimmed (String.intercalate " " columns) ++ traces

/-- The line of an entry, without its end. -/
def line (format : Format) (stamp : String) (shared : Fields) (entry : Entry) :
    Except Line.Flaw String :=
  let written := (Line.fields stamp shared entry).filter fun field ↦ format.writes field.1
  if written.all (·.2.isWritable) then format.compose stamp shared entry else .error .tooLong

end Format

end ServiceBoot.Log
