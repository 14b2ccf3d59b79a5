import ServiceBoot.Proofs.Conf.Loaded
import ServiceBoot.Proofs.Log.Lifecycle
import ServiceBoot.Startup

/-!
# The course of a startup

A startup takes one of five courses, by the settings, the configuration and the destination of the
log. On one of them the server is started, on the configuration that was loaded and resolved. On the
others no configuration is deployed, the journal is not set up and no file has changed.
-/

namespace ServiceBoot

/-! ## A journal that was not set up -/

namespace Log.Journal

/-- Entries may be held in the journal, and nothing else has happened to it or to the files. -/
structure Unset (files : Files) (journal : Journal) : Prop where
  files : journal.files = files
  printed : journal.printed = []
  streams : journal.streams = []
  latest : journal.latest = none
  setup : journal.setup = none
  shared : journal.shared = []

variable {files : Files} {journal : Journal}

theorem unset_start (files : Files) : (start files).Unset files :=
  ⟨rfl, rfl, rfl, rfl, rfl, rfl⟩

theorem Unset.hold (h : journal.Unset files) (entry : Entry) : (journal.hold entry).Unset files :=
  ⟨h.files, h.printed, h.streams, h.latest, h.setup, h.shared⟩

theorem Unset.holdAll (h : journal.Unset files) (entries : List Entry) :
    (entries.foldl Journal.hold journal).Unset files := by
  induction entries generalizing journal with
  | nil => exact h
  | cons entry rest ih => exact ih (h.hold entry)

theorem Unset.sound (h : journal.Unset files) : journal.Sound := by
  apply (sound_start files).of_streams
  · exact h.streams
  · exact h.latest
  · exact h.setup
  · intro destination
    exact (isThere_congr h.files destination).mpr

end Log.Journal

theorem Conf.result_bootstrap [Json.Limits] [TimeZone.Database] (files : Files) (path : String) :
    (bootstrap files path).result =
      match (loadResolved files path).result with
      | .ok conf => .ready conf
      | .error (.config _) => .exited 1
      | .error error => .raised error := by
  simp only [bootstrap]
  cases (loadResolved files path).result with
  | ok conf => rfl
  | error error => cases error <;> rfl

theorem Conf.keepAliveSecs_serverOptions (conf : Conf) (secs : Int) :
    conf.serverOptions.keepAliveSecs = some secs ↔
      0 < conf.serverReadTimeoutSecs ∧ conf.serverReadTimeoutSecs = secs := by
  simp [serverOptions]

namespace Startup

open Log (Destination Journal)

/-! ## How a startup ends -/

/-- The server was started on the configuration, which was deployed. -/
structure Served [TimeZone.Database] [Api.Documentation] (conf : Conf) (startup : Startup) :
    Prop where
  ending : startup.ending = .serving ⟨.ofDeployment { conf }, conf.serverOptions⟩
  deployment : startup.deployment = some { conf }

/-- The startup ended before anything was deployed or opened. -/
structure Stopped (files : Files) (ending : Ending) (startup : Startup) : Prop where
  ending : startup.ending = ending
  deployment : startup.deployment = none
  journal : startup.journal.Unset files

variable {surroundings : Surroundings} {settings : Settings} {conf : Conf}

/-! ## Serving -/

theorem suits_startingEntry (hport : Text.Numeral.isWritable conf.listenPort = true)
    (format : Log.Format) : (startingEntry conf).Suits format where
  free := by simp [startingEntry, Log.Call.ownNames]
  writable := ⟨rfl, by simp [startingEntry, hport]⟩
  traceable _ := by simp [startingEntry, Log.Line.IsTraceable, Log.Line.traceNames]

/-- The level of a configuration that was loaded is known, and the journal takes the entry on the
start of the server, so nothing but the destination of the log can be in the way. -/
theorem serve_cases [TimeZone.Database] [Api.Documentation] {files : Files} {journal : Journal}
    (hunset : journal.Unset files) (hlevel : ∃ level, conf.logging.level? = some level)
    (hport : Text.Numeral.isWritable conf.listenPort = true) (stamp : String) :
    (∃ error, Destination.ofPath files conf.logging.path = .error error ∧
        Stopped files (.raised (.journal (.noAccess error)))
          (serve journal stamp settings conf)) ∨
      ∃ destination, Destination.ofPath files conf.logging.path = .ok destination ∧
        Served conf (serve journal stamp settings conf) := by
  obtain ⟨level, hlevel⟩ := hlevel
  rcases Journal.configure_of_level hunset.sound hlevel (settings.stage == .development) with
    ⟨error, hopen, hconfigure⟩ | ⟨destination, ready, hopen, hconfigure, hready⟩
  · rw [hunset.files] at hopen
    refine .inl ⟨error, hopen, ?_⟩
    simp only [serve, hconfigure]
    exact ⟨rfl, rfl, hunset⟩
  · rw [hunset.files] at hopen
    have hshared : ready.shared = [] := hready.shared.trans hunset.shared
    obtain ⟨told, hlog, -⟩ := Journal.log_succeeds hready.sound hshared hready.aim
      (suits_startingEntry hport _) stamp
    refine .inr ⟨destination, hopen, ?_⟩
    simp only [serve, hconfigure, hlog]
    exact ⟨rfl, rfl⟩

/-! ## When a startup leads to a server -/

section

variable [Json.Limits] [TimeZone.Database]

/-- Everything is there for the server to run on the configuration: settings, a document that is
read, parsed and resolved, and a destination for the log. -/
def Startable (surroundings : Surroundings) (conf : Conf) : Prop :=
  ∃ settings bytes parsed destination,
    surroundings.settings = .ok settings ∧
      surroundings.files.readConf settings.configPath = .ok bytes ∧
      Conf.parse bytes settings.configPath = .ok parsed ∧
      (Conf.resolve parsed).fault = none ∧
      (Conf.resolve parsed).state = conf ∧
      Destination.ofPath surroundings.files conf.logging.path = .ok destination

theorem startable_iff : Startable surroundings conf ↔ ∃ settings destination,
    surroundings.settings = .ok settings ∧
      (Conf.loadResolved surroundings.files settings.configPath).result = .ok conf ∧
      Destination.ofPath surroundings.files conf.logging.path = .ok destination := by
  constructor
  · rintro ⟨settings, bytes, parsed, destination, hsettings, hread, hparse, hfault, rfl, hopen⟩
    have hload : Conf.load surroundings.files settings.configPath = .ok parsed :=
      Conf.load_eq_ok_iff.mpr ⟨bytes, hread, hparse⟩
    exact ⟨settings, destination, hsettings, Conf.loadResolved_of_load hload hfault, hopen⟩
  · rintro ⟨settings, destination, hsettings, hload, hopen⟩
    obtain ⟨parsed, hload, hfault, hstate⟩ := Conf.loadResolved_eq_ok hload
    obtain ⟨bytes, hread, hparse⟩ := Conf.load_eq_ok_iff.mp hload
    exact ⟨settings, bytes, parsed, destination, hsettings, hread, hparse, hfault, hstate, hopen⟩

theorem Startable.isResolved (h : Startable surroundings conf) : conf.IsResolved := by
  obtain ⟨_, _, _, hload, _⟩ := startable_iff.mp h
  exact (Conf.isResolved_and_wellFormed_of_loadResolved hload).1

/-- The journal with the entries of a bootstrapping. -/
def told (files : Files) (path : String) : Journal :=
  (Conf.bootstrap files path).entries.foldl Journal.hold (.start files)

theorem unset_told (files : Files) (path : String) : (told files path).Unset files :=
  (Journal.unset_start files).holdAll _

/-! ## The courses of a startup -/

variable [Api.Documentation] {stamp : String}

theorem stopped_of_unsettled {fault : Fault} (hsettings : surroundings.settings = .error fault) :
    Stopped surroundings.files (.raised fault) (ofSurroundings surroundings stamp) := by
  simp only [ofSurroundings, hsettings]
  exact ⟨rfl, rfl, Journal.unset_start surroundings.files⟩

section

variable (hsettings : surroundings.settings = .ok settings)
include hsettings

/-- With settings, bootstrapping decides on what follows. -/
theorem ofSurroundings_of_settings : ofSurroundings surroundings stamp =
    match (Conf.bootstrap surroundings.files settings.configPath).result with
    | .exited status =>
      { journal := told surroundings.files settings.configPath, ending := .exited status }
    | .raised error =>
      { journal := told surroundings.files settings.configPath, ending := .raised (.load error) }
    | .ready conf => serve (told surroundings.files settings.configPath) stamp settings conf := by
  simp only [ofSurroundings, hsettings]
  rfl

theorem stopped_of_config {error : ConfigError}
    (hload : (Conf.loadResolved surroundings.files settings.configPath).result =
      .error (.config error)) :
    Stopped surroundings.files (.exited 1) (ofSurroundings surroundings stamp) := by
  rw [ofSurroundings_of_settings hsettings, Conf.result_bootstrap, hload]
  exact ⟨rfl, rfl, unset_told _ _⟩

theorem stopped_of_load {error : LoadError}
    (hload : (Conf.loadResolved surroundings.files settings.configPath).result = .error error)
    (hother : ∀ config, error ≠ .config config) :
    Stopped surroundings.files (.raised (.load error)) (ofSurroundings surroundings stamp) := by
  rw [ofSurroundings_of_settings hsettings, Conf.result_bootstrap, hload]
  cases error with
  | config error => exact absurd rfl (hother error)
  | embeddedNul => exact ⟨rfl, rfl, unset_told _ _⟩
  | unsearchable obstacle => exact ⟨rfl, rfl, unset_told _ _⟩

end

theorem ofSurroundings_cases (hsettings : surroundings.settings = .ok settings)
    (hload : (Conf.loadResolved surroundings.files settings.configPath).result = .ok conf)
    (stamp : String) :
    (∃ error, Destination.ofPath surroundings.files conf.logging.path = .error error ∧
        Stopped surroundings.files (.raised (.journal (.noAccess error)))
          (ofSurroundings surroundings stamp)) ∨
      ∃ destination, Destination.ofPath surroundings.files conf.logging.path = .ok destination ∧
        Served conf (ofSurroundings surroundings stamp) := by
  obtain ⟨-, hwell⟩ := Conf.isResolved_and_wellFormed_of_loadResolved hload
  have hport : Json.IsReadable conf.listenPort := hwell.integers _ (List.mem_cons_self ..)
  rw [ofSurroundings_of_settings hsettings, Conf.result_bootstrap, hload]
  exact serve_cases (unset_told _ _) hwell.level? hport.isWritable stamp

theorem stopped_of_noAccess {error : Files.AccessError}
    (hsettings : surroundings.settings = .ok settings)
    (hload : (Conf.loadResolved surroundings.files settings.configPath).result = .ok conf)
    (hopen : Destination.ofPath surroundings.files conf.logging.path = .error error) :
    Stopped surroundings.files (.raised (.journal (.noAccess error)))
      (ofSurroundings surroundings stamp) := by
  rcases ofSurroundings_cases hsettings hload stamp with ⟨_, hother, hstopped⟩ | ⟨_, hother, -⟩
  · cases hopen.symm.trans hother
    exact hstopped
  · cases hopen.symm.trans hother

theorem served_of_startable (h : Startable surroundings conf) (stamp : String) :
    Served conf (ofSurroundings surroundings stamp) := by
  obtain ⟨settings, destination, hsettings, hload, hopen⟩ := startable_iff.mp h
  rcases ofSurroundings_cases hsettings hload stamp with ⟨_, hother, -⟩ | ⟨_, -, hserved⟩
  · cases hopen.symm.trans hother
  · exact hserved

theorem served_or_stopped (surroundings : Surroundings) (stamp : String) :
    (∃ conf, Startable surroundings conf ∧ Served conf (ofSurroundings surroundings stamp)) ∨
      ∃ ending, (∀ server, ending ≠ .serving server) ∧
        Stopped surroundings.files ending (ofSurroundings surroundings stamp) := by
  have hraised (fault : Fault) (server : Server) : Ending.raised fault ≠ .serving server := nofun
  cases hsettings : surroundings.settings with
  | error fault => exact .inr ⟨_, hraised fault, stopped_of_unsettled hsettings⟩
  | ok settings =>
    cases hload : (Conf.loadResolved surroundings.files settings.configPath).result with
    | error error =>
      by_cases hconfig : ∃ config, error = .config config
      · obtain ⟨config, rfl⟩ := hconfig
        exact .inr ⟨.exited 1, nofun, stopped_of_config hsettings hload⟩
      · exact .inr ⟨_, hraised _, stopped_of_load hsettings hload (not_exists.mp hconfig)⟩
    | ok conf =>
      rcases ofSurroundings_cases hsettings hload stamp with ⟨_, -, hstopped⟩ |
        ⟨destination, hopen, hserved⟩
      · exact .inr ⟨_, hraised _, hstopped⟩
      · have hstartable := startable_iff.mpr ⟨settings, destination, hsettings, hload, hopen⟩
        exact .inl ⟨conf, hstartable, hserved⟩

/-! ## When the server is started -/

theorem serving_iff {server : Server} :
    (ofSurroundings surroundings stamp).ending = .serving server ↔
      ∃ conf, Startable surroundings conf ∧
        server = ⟨.ofDeployment { conf }, conf.serverOptions⟩ := by
  constructor
  · intro hserving
    rcases served_or_stopped surroundings stamp with ⟨conf, hstartable, hserved⟩ |
      ⟨ending, hnot, hstopped⟩
    · cases hserved.ending.symm.trans hserving
      exact ⟨conf, hstartable, rfl⟩
    · exact absurd (hstopped.ending.symm.trans hserving) (hnot server)
  · rintro ⟨conf, hstartable, rfl⟩
    exact (served_of_startable hstartable stamp).ending

theorem deployed_iff {deployment : Api.Deployment} :
    (ofSurroundings surroundings stamp).deployment = some deployment ↔
      ∃ conf, Startable surroundings conf ∧ deployment = { conf } := by
  constructor
  · intro hdeployed
    rcases served_or_stopped surroundings stamp with ⟨conf, hstartable, hserved⟩ |
      ⟨ending, -, hstopped⟩
    · cases hserved.deployment.symm.trans hdeployed
      exact ⟨conf, hstartable, rfl⟩
    · cases hstopped.deployment.symm.trans hdeployed
  · rintro ⟨conf, hstartable, rfl⟩
    exact (served_of_startable hstartable stamp).deployment

/-- The server is started on a configuration just if everything is there for it, the configuration
is then resolved and deployed, and the app and the options are made from it. Otherwise nothing is
deployed, the journal is not set up and the files are as they were: a configuration error ends the
process with status 1, and a fault of the settings or of the destination of the log is raised. -/
theorem ofSurroundings_serves (surroundings : Surroundings) (stamp : String) :
    (∀ server, (ofSurroundings surroundings stamp).ending = .serving server ↔
      ∃ conf, Startable surroundings conf ∧
        server = ⟨.ofDeployment { conf }, conf.serverOptions⟩) ∧
    (∀ deployment, (ofSurroundings surroundings stamp).deployment = some deployment ↔
      ∃ conf, Startable surroundings conf ∧ deployment = { conf }) ∧
    (∀ conf, Startable surroundings conf → conf.IsResolved ∧
      conf.serverOptions.host = conf.listenAddress ∧ conf.serverOptions.port = conf.listenPort ∧
      ∀ secs, conf.serverOptions.keepAliveSecs = some secs ↔
        0 < conf.serverReadTimeoutSecs ∧ conf.serverReadTimeoutSecs = secs) ∧
    (∀ settings error, surroundings.settings = .ok settings →
      (Conf.loadResolved surroundings.files settings.configPath).result =
        .error (.config error) →
      Stopped surroundings.files (.exited 1) (ofSurroundings surroundings stamp)) ∧
    (∀ fault, surroundings.settings = .error fault →
      Stopped surroundings.files (.raised fault) (ofSurroundings surroundings stamp)) ∧
    (∀ settings conf error, surroundings.settings = .ok settings →
      (Conf.loadResolved surroundings.files settings.configPath).result = .ok conf →
      Destination.ofPath surroundings.files conf.logging.path = .error error →
      Stopped surroundings.files (.raised (.journal (.noAccess error)))
        (ofSurroundings surroundings stamp)) := by
  refine ⟨fun _ ↦ serving_iff, fun _ ↦ deployed_iff, ?made, ?refused, ?unsettled, ?noAccess⟩
  case made =>
    intro conf hstartable
    exact ⟨hstartable.isResolved, rfl, rfl, conf.keepAliveSecs_serverOptions⟩
  case refused =>
    intro settings error hsettings hload
    exact stopped_of_config hsettings hload
  case unsettled =>
    intro fault hsettings
    exact stopped_of_unsettled hsettings
  case noAccess =>
    intro settings conf error hsettings hload hopen
    exact stopped_of_noAccess hsettings hload hopen

end

open scoped Release

def sampleSurroundings : Surroundings where
  environment := [("CAMUS_CONFIG_PATH", "camus.json")]
  files := Conf.sampleFiles

theorem settings_sampleSurroundings :
    sampleSurroundings.settings = .ok ⟨"camus.json", .production⟩ := by
  apply eq_ok_of_toOption
  decide +kernel

theorem startable_sample : Startable sampleSurroundings (Conf.resolve Conf.sample).state := by
  have hload : (Conf.loadResolved Conf.sampleFiles "camus.json").result =
      .ok (Conf.resolve Conf.sample).state :=
    Conf.loadResolved_toJson Conf.wellFormed_sample rfl Conf.readConf_sampleFiles
      Conf.resolve_sample_fault
  have hpath : (Conf.resolve Conf.sample).state.logging.path = "" := by decide +kernel
  have hopen : Destination.ofPath Conf.sampleFiles (Conf.resolve Conf.sample).state.logging.path =
      .ok .printed := by
    rw [hpath]
    rfl
  exact startable_iff.mpr ⟨_, _, settings_sampleSurroundings, hload, hopen⟩

/-- The server is started on the sample, and without an environment there is nothing to load. -/
theorem ofSurroundings_sample :
    (ofSurroundings sampleSurroundings "0").ending =
        .serving ⟨.ofDeployment { conf := (Conf.resolve Conf.sample).state },
          (Conf.resolve Conf.sample).state.serverOptions⟩ ∧
      Stopped {} (.exited 1) (ofSurroundings {} "0") := by
  obtain ⟨hserving, -⟩ := ofSurroundings_serves sampleSurroundings "0"
  obtain ⟨-, -, -, hrefused, -⟩ := ofSurroundings_serves {} "0"
  have hsettings : ({} : Surroundings).settings = .ok ⟨"", .production⟩ := by
    apply eq_ok_of_toOption
    decide +kernel
  constructor
  · exact (hserving _).mpr ⟨_, startable_sample, rfl⟩
  · exact hrefused ⟨"", .production⟩ .noPath hsettings rfl

end Startup

end ServiceBoot
