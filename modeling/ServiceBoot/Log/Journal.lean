import ServiceBoot.Block.Logging
import ServiceBoot.Files
import ServiceBoot.Log.Call
import ServiceBoot.Log.Line
import ServiceBoot.Log.Template

/-!
# The journal

Where the entries of the process go. The journal is set up with a level, a format and an output, and
may be set up again. A logger either looks the setup up at each entry or keeps the one that it was
made under; entries of a logger that knows no setup are held, whatever their level. Libraries log
through loggers of their own, which write bare messages.
-/

namespace ServiceBoot.Log

/-- Standard output, or a file by the number of its opening. -/
inductive Output where
  | standard
  | file (serial : Nat)
  deriving DecidableEq, Repr

structure Setup where
  level : Level
  format : Format
  output : Output
  deriving DecidableEq, Repr

def Setup.admits (setup : Setup) (level : Level) : Bool := setup.level.number ≤ level.number

/-- The level of its own that a library's logger has, if any. Dots part the names of a logger and of
those under it, which share its level. -/
def libraryLevel? (logger : String) : Option Level :=
  if logger.toList.takeWhile (· ≠ '.') = "sqlalchemy".toList then some .warning else none

/-- The setup as it is for a library's logger. -/
def Setup.forLibrary (setup : Setup) (logger : String) : Setup :=
  { setup with level := (libraryLevel? logger).getD setup.level }

/-- A file that was opened for lines to be appended. -/
structure Stream where
  place : Place
  isOpen : Bool := true
  deriving DecidableEq, Repr

inductive Logger where
  | current
  | kept (setup : Option Setup) (context : Fields)
  deriving Repr

/-- Why the journal cannot be set up. -/
inductive SetupError where
  | unknownLevel (name : String)
  | noAccess (error : Files.AccessError)
  deriving DecidableEq, Repr

def SetupError.message : SetupError → String
  | .unknownLevel name => Text.quoted name
  | .noAccess error => error.message

/-- Why an entry cannot be written: a field clashes with the call, the output of the logger was
closed when the journal was set up anew, or no line can be made of the entry. -/
inductive WriteError where
  | clash (fields : Clash)
  | closed
  | flawed (flaw : Line.Flaw)
  deriving DecidableEq, Repr

def WriteError.message : WriteError → String
  | .clash fields => fields.message
  | .closed => "I/O operation on closed file."
  | .flawed flaw => flaw.message

structure Journal where
  files : Files := {}
  printed : Bytes := []
  streams : List Stream := []
  /-- The output that was opened last. -/
  latest : Option Output := none
  setup : Option Setup := none
  shared : Fields := []
  held : List Entry := []
  deriving Repr

/-- Why the journal could not be set up, and what was left of it. -/
structure SetupFailure where
  error : SetupError
  journal : Journal
  deriving Repr

namespace Journal

def isOpen (journal : Journal) : Output → Bool
  | .standard => true
  | .file serial => (journal.streams[serial]?.map (·.isOpen)).getD false

/-- Standard output is never closed. -/
def close (journal : Journal) : Output → Journal
  | .standard => journal
  | .file serial =>
    { journal with streams := journal.streams.modify serial ({ · with isOpen := false }) }

/-- The journal without an output that it had. -/
def retired (journal : Journal) : Option Output → Journal
  | some old => journal.close old
  | none => journal

/-- Opens the output that a path names; the empty path names standard output. -/
def openOutput (journal : Journal) (path : String) :
    Except Files.AccessError (Output × Journal) :=
  if path = "" then .ok (.standard, { journal with latest := some .standard })
  else do
    let (place, files) ← journal.files.openForAppending path
    let output : Output := .file journal.streams.length
    pure (output, { journal with
      files := files
      streams := journal.streams ++ [⟨place, true⟩]
      latest := some output })

def formatFor (development : Bool) (path : String) : Format :=
  if development then .columns (path = "") else .json

/-- Sets the journal up. The new output is opened first, and the one that was opened before it is
closed last. In between the level is looked up; if it is not known, both outputs stay open. -/
def configure (journal : Journal) (block : Block.Logging) (development : Bool) :
    Except SetupFailure Journal :=
  match journal.openOutput block.path with
  | .error error => .error ⟨.noAccess error, journal⟩
  | .ok (output, opened) =>
    match block.level? with
    | none => .error ⟨.unknownLevel block.level, opened⟩
    | some level =>
      let setup : Setup := ⟨level, formatFor development block.path, output⟩
      .ok { opened.retired journal.latest with setup := some setup }

/-- Appends a line to an output. -/
def write (journal : Journal) (output : Output) (line : String) : Except WriteError Journal :=
  let bytes := Text.Utf8.encode (line.toList ++ ['\n'])
  match output with
  | .standard => .ok { journal with printed := journal.printed ++ bytes }
  | .file serial =>
    match journal.streams[serial]? with
    | some ⟨place, true⟩ => .ok { journal with files := journal.files.append place bytes }
    | _ => .error .closed

/-- Holds an entry as it is, without the fields that every line shares. -/
def hold (journal : Journal) (entry : Entry) : Journal :=
  { journal with held := journal.held ++ [entry.parted] }

/-- Writes an entry at a time, under a setup if there is one. -/
def record (journal : Journal) (stamp : String) (setup : Option Setup) (entry : Entry) :
    Except WriteError Journal :=
  match setup with
  | none => .ok (journal.hold entry)
  | some setup =>
    if setup.admits entry.level then
      match setup.format.line stamp journal.shared entry with
      | .error flaw => .error (.flawed flaw)
      | .ok line => journal.write setup.output line
    else .ok journal

end Journal

namespace Logger

/-- The call that gives more context to a logger. -/
def bindCall : Logger → Call
  | .current => .bindFirst
  | .kept _ _ => .bindMore

/-- A logger with more context; from then on it keeps its setup. -/
def bind (logger : Logger) (journal : Journal) (more : Fields) : Except Clash Logger :=
  match logger.bindCall.clash? more with
  | some clash => .error clash
  | none => match logger with
    | .current => .ok (.kept journal.setup (Fields.putAll [] more))
    | .kept setup context => .ok (.kept setup (context.putAll more))

/-- A logger without context follows the journal. -/
def make (journal : Journal) (context : Fields) : Except Clash Logger :=
  match Call.make.clash? context with
  | some clash => .error clash
  | none => if context.isEmpty then .ok .current else bind .current journal context

def setup (logger : Logger) (journal : Journal) : Option Setup :=
  match logger with
  | .current => journal.setup
  | .kept setup _ => setup

def context : Logger → Fields
  | .current => []
  | .kept _ context => context

end Logger

namespace Journal

/-- The calls that an entry goes through under a setup. -/
def logCalls (setup : Option Setup) (level : Level) : List Call :=
  if setup.all (·.admits level) then [.accept, .assemble] else [.ignore]

/-- Writes an entry through a logger, whose context stands before the entry's own fields. -/
def log (journal : Journal) (stamp : String) (logger : Logger) (entry : Entry) :
    Except WriteError Journal :=
  let setup := logger.setup journal
  match (logCalls setup entry.level).findSome? (·.clash? entry.fields) with
  | some clash => .error (.clash clash)
  | none =>
    journal.record stamp setup { entry with fields := logger.context.putAll entry.fields }

/-- Writes a bare message through a library's logger; before the journal is set up, and if it cannot
be written or its arguments do not fit it, the message is lost. -/
def logMessage (journal : Journal) (logger : String) (level : Level) (message : Json.Value)
    (arguments : List Json.Value) : Except WriteError Journal :=
  match journal.setup with
  | none => .ok journal
  | some setup =>
    if (setup.forLibrary logger).admits level then
      let filled := (Display.form? Display.plain message).bind fun chars ↦
        Template.fill? (String.ofList chars) arguments
      match filled with
      | some text => journal.write setup.output text
      | none => .ok journal
    else .ok journal

/-- Gives a field to every entry from now on, except to those that have one of its name. -/
def share (journal : Journal) (more : Fields) : Journal :=
  { journal with shared := Fields.putAll journal.shared more }

end Journal

end ServiceBoot.Log
