import ServiceBoot.Document.Rejection
import ServiceBoot.Settings.Environment

/-!
# Runtime settings

The settings that the process takes from its environment: the path of its configuration and the
kind of environment that it runs in. A variable wins over a line of the environment file. The
settings are read once and then kept.
-/

namespace ServiceBoot

inductive Stage where
  | development
  | production
  deriving DecidableEq, Repr

def Stage.name : Stage → String
  | .development => "development"
  | .production => "production"

def Stage.ofName? (name : String) : Option Stage :=
  [development, production].find? (·.name == name)

structure Settings where
  configPath : String
  stage : Stage
  deriving DecidableEq, Repr

/-- The only way in which settings can be wrong: the name of no stage. -/
structure UnknownStage where
  name : String
  deriving DecidableEq, Repr

def UnknownStage.details (_ : UnknownStage) : List Document.Detail :=
  [⟨"literal_error", [.key "environment"], "Input should be 'development' or 'production'"⟩]

def UnknownStage.message (wrong : UnknownStage) : String :=
  Document.headline wrong.details.length "RuntimeSettings"

/-- What settings are read from. -/
structure SettingsSource where
  environment : Environment := []
  envFile : Option String := none
  deriving Repr

namespace SettingsSource

def value? (source : SettingsSource) (name : String) : Option String :=
  match source.environment.find? name with
  | some value => some value
  | none =>
    (source.envFile.map fun text ↦ EnvFile.values source.environment (EnvFile.read text)).bind
      (·.find? name)

def settings (source : SettingsSource) : Except UnknownStage Settings :=
  let configPath := (source.value? "camus_config_path").getD ""
  let name := (source.value? "camus_environment").getD Stage.production.name
  match Stage.ofName? name with
  | some stage => .ok ⟨configPath, stage⟩
  | none => .error ⟨name⟩

end SettingsSource

/-- Settings that were read, with the number of times that they had been read by then. -/
structure KeptSettings where
  serial : Nat
  settings : Settings
  deriving DecidableEq, Repr

structure SettingsCache where
  kept : Option KeptSettings := none
  readings : Nat := 0
  deriving DecidableEq, Repr

namespace SettingsCache

/-- The settings kept, or else those read now, which are kept unless they are wrong. -/
def get (cache : SettingsCache) (source : SettingsSource) :
    Except UnknownStage KeptSettings × SettingsCache :=
  match cache.kept with
  | some kept => (.ok kept, cache)
  | none =>
    match source.settings with
    | .error wrong => (.error wrong, cache)
    | .ok settings =>
      let kept := ⟨cache.readings + 1, settings⟩
      (.ok kept, ⟨some kept, cache.readings + 1⟩)

def clear (cache : SettingsCache) : SettingsCache := { cache with kept := none }

end SettingsCache

end ServiceBoot
