import ServiceBoot.Conf.Resolve
import ServiceBoot.Files

/-!
# Loading a configuration

A configuration is read from a file, parsed and resolved. Every failure on the way is a
configuration error, but for a path that cannot be one and for a search for a time zone that breaks
off. Bootstrapping ends the process with status 1 on a configuration error, after it wrote one
critical entry.
-/

namespace ServiceBoot

inductive ConfigError where
  | noPath
  | unreadable (path : String) (fault : Files.Fault)
  | rejected (path : String) (rejection : Document.Rejection)
  | invalid (invalid : Invalid)
  deriving DecidableEq, Repr

namespace ConfigError

/-- The step that failed: loading, parsing or validating. -/
def kind : ConfigError → String
  | .noPath | .unreadable _ _ => "ConfigLoadError"
  | .rejected _ _ => "ConfigParseError"
  | .invalid _ => "ConfigValidationError"

/-- The refusal of the file system names the path in its tidy form. -/
def message : ConfigError → String
  | .noPath => "Cannot load config - path not specified"
  | .unreadable path fault =>
    "Cannot load config " ++ path ++ ": " ++
      (Files.AccessError.refused fault (Path.tidy path)).message
  | .rejected path rejection =>
    "Cannot load config " ++ path ++ ": " ++ rejection.headline "Conf"
  | .invalid reason => reason.message

end ConfigError

inductive LoadError where
  | config (error : ConfigError)
  | embeddedNul
  | unsearchable (obstacle : TimeZone.Obstacle)
  deriving DecidableEq, Repr

namespace LoadError

def message : LoadError → String
  | .config error => error.message
  | .embeddedNul => Files.AccessError.embeddedNul.message
  | .unsearchable obstacle => obstacle.message

def ofUnresolved : Unresolved → LoadError
  | .invalid invalid => .config (.invalid invalid)
  | .unsearchable obstacle => .unsearchable obstacle

end LoadError

/-- The result of a run with the entries that it wrote. -/
structure Logged (α : Type) where
  entries : List Log.Entry
  result : α

def Files.readConf (files : Files) (path : String) : Except LoadError Bytes :=
  if path = "" then .error (.config .noPath)
  else match files.read (Path.tidy path) with
    | .ok bytes => .ok bytes
    | .error .embeddedNul => .error .embeddedNul
    | .error (.refused fault _) => .error (.config (.unreadable path fault))

namespace Conf

section

variable [Json.Limits]

def parseFrom (path : String) (bytes : Bytes) : Except LoadError Conf :=
  match parse bytes path with
  | .ok conf => .ok conf
  | .error rejection => .error (.config (.rejected path rejection))

def load (files : Files) (path : String) : Except LoadError Conf := do
  parseFrom path (← files.readConf path)

end

def loadedEntry (conf : Conf) : Log.Entry where
  level := .info
  event := .str "configuration loaded"
  fields := [("path", .str conf.sourcePath), ("listenAddress", .str conf.listenAddress),
    ("listenPort", .int conf.listenPort), ("timeZone", .str conf.timeZone)]

section

variable [TimeZone.Database]

/-- Resolves a configuration that was loaded. -/
def announce (conf : Conf) : Logged (Except LoadError Conf) :=
  let outcome := conf.resolve
  match outcome.fault with
  | some reason => ⟨outcome.entries, .error (.ofUnresolved reason)⟩
  | none => ⟨outcome.entries ++ [loadedEntry outcome.state], .ok outcome.state⟩

def loadResolved [Json.Limits] (files : Files) (path : String) : Logged (Except LoadError Conf) :=
  match load files path with
  | .error error => ⟨[], .error error⟩
  | .ok conf => conf.announce

end

def refusedEntry (error : ConfigError) (path : String) : Log.Entry where
  level := .critical
  event := .str "Cannot start - invalid configuration"
  fields := [("error", .str error.message), ("errorType", .str error.kind), ("path", .str path)]

/-- How bootstrapping ends: with a configuration, with the end of the process, or with an error that
is no configuration error. -/
inductive Bootstrapped where
  | ready (conf : Conf)
  | exited (status : Nat)
  | raised (error : LoadError)

def bootstrap [Json.Limits] [TimeZone.Database] (files : Files) (path : String) :
    Logged Bootstrapped :=
  let attempt := loadResolved files path
  match attempt.result with
  | .ok conf => ⟨attempt.entries, .ready conf⟩
  | .error (.config error) => ⟨attempt.entries ++ [refusedEntry error path], .exited 1⟩
  | .error error => ⟨attempt.entries, .raised error⟩

end Conf

end ServiceBoot
