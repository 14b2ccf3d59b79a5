import ServiceBoot.Api.App
import ServiceBoot.Conf.Load
import ServiceBoot.Log.Journal
import ServiceBoot.ServerOptions
import ServiceBoot.Settings
import ServiceBoot.Text.Utf8.Flaw

/-!
# Startup

The process reads its settings, loads its configuration, sets the journal up and starts the server,
in this order. The server is started on a configuration that went through all of it, or not at all.
-/

namespace ServiceBoot

/-- What the process finds when it is started. -/
structure Surroundings where
  environment : Environment := []
  files : Files := {}

/-- A server as it is started: the app that it serves, and how. -/
structure Server where
  app : Api.App
  options : ServerOptions

/-- A server as it is announced: its profile and its options. -/
def Server.toMembers (server : Server) : Json.Members :=
  let profile : Api.Profile := {}
  [("title", .str profile.title), ("version", .str profile.version),
    ("description", .str profile.description), ("docs", .str profile.docs),
    ("redoc", .str profile.reference), ("options", .object server.options.toMembers)]

namespace Startup

inductive Fault where
  | envFile (flaw : Text.Utf8.Flaw)
  | settings (wrong : UnknownStage)
  | load (error : LoadError)
  | journal (error : Log.SetupError)
  | write (error : Log.WriteError)
  deriving DecidableEq, Repr

def Fault.message : Fault → String
  | .envFile flaw => flaw.message
  | .settings wrong => wrong.message
  | .load error => error.message
  | .journal error => error.message
  | .write error => error.message

inductive Ending where
  | serving (server : Server)
  | exited (status : Nat)
  | raised (fault : Fault)

end Startup

/-- How far the process came: its journal, the configuration of its app, and the end. -/
structure Startup where
  journal : Log.Journal
  deployment : Option Api.Deployment := none
  ending : Startup.Ending

namespace Surroundings

def envFileName : String := ".env"

/-- What the settings are read from, unless there is an environment file that is no text. -/
def settingsSource (surroundings : Surroundings) : Except Text.Utf8.Flaw SettingsSource :=
  match surroundings.files.read envFileName with
  | .ok bytes =>
    (Text.Utf8.read bytes).map fun text ↦ ⟨surroundings.environment, some text⟩
  | .error _ => .ok ⟨surroundings.environment, none⟩

/-- The settings that the process reads. -/
def settings (surroundings : Surroundings) : Except Startup.Fault Settings :=
  match surroundings.settingsSource with
  | .error flaw => .error (.envFile flaw)
  | .ok source => source.settings.mapError .settings

end Surroundings

namespace Startup

def startingEntry (conf : Conf) : Log.Entry where
  level := .info
  event := .str "Starting Camus service"
  fields := [("host", .str conf.listenAddress), ("port", .int conf.listenPort),
    ("public_url", .str conf.publicUrl)]

/-- Sets the journal up as a configuration says, and starts the server. -/
def serve [TimeZone.Database] [Api.Documentation] (journal : Log.Journal) (stamp : String)
    (settings : Settings) (conf : Conf) : Startup :=
  match journal.configure conf.logging (settings.stage == .development) with
  | .error failure => { journal := failure.journal, ending := .raised (.journal failure.error) }
  | .ok ready =>
    match ready.log stamp .current (startingEntry conf) with
    | .error error => { journal := ready, ending := .raised (.write error) }
    | .ok told =>
      let deployment : Api.Deployment := { conf := conf }
      { journal := told
        deployment := some deployment
        ending := .serving ⟨.ofDeployment deployment, conf.serverOptions⟩ }

/-- Starts the process. Entries from before the journal is set up are held. -/
def ofSurroundings [Json.Limits] [TimeZone.Database] [Api.Documentation]
    (surroundings : Surroundings) (stamp : String) : Startup :=
  let journal : Log.Journal := { files := surroundings.files }
  match surroundings.settings with
  | .error fault => { journal := journal, ending := .raised fault }
  | .ok settings =>
    let attempt := Conf.bootstrap surroundings.files settings.configPath
    let told := attempt.entries.foldl Log.Journal.hold journal
    match attempt.result with
    | .exited status => { journal := told, ending := .exited status }
    | .raised error => { journal := told, ending := .raised (.load error) }
    | .ready conf => serve told stamp settings conf

end Startup

end ServiceBoot
