import ServiceBoot.Proofs.Api.Verdict
import ServiceBoot.Proofs.Conf.Ahead
import ServiceBoot.Proofs.Conf.Frame
import ServiceBoot.Startup

/-!
# What does not depend on secrets

Passwords, the users they belong to and tokens are kept to themselves. Once a configuration is
parsed, what is logged, how resolving and starting end, the options of the server and the answers to
requests are the same for every choice of the secrets, as far as the tokens lead to the same verdict
on a request; and a run leaves each configuration its own.
-/

namespace ServiceBoot

structure Secrets where
  redisPassword : String := ""
  dbUser : String := ""
  dbPasswd : String := ""
  reportingUser : String := ""
  reportingPasswd : String := ""
  authTokens : List String := []

namespace Conf

open Block (Redis)
open Api (Route App)

def secrets (conf : Conf) : Secrets where
  redisPassword := conf.redis.password
  dbUser := conf.db.user
  dbPasswd := conf.db.passwd
  reportingUser := conf.reporting.user
  reportingPasswd := conf.reporting.passwd
  authTokens := conf.authTokens

def withSecrets (secrets : Secrets) (conf : Conf) : Conf :=
  { conf with
    redis := { conf.redis with password := secrets.redisPassword }
    db := { conf.db with user := secrets.dbUser, passwd := secrets.dbPasswd }
    reporting :=
      { conf.reporting with user := secrets.reportingUser, passwd := secrets.reportingPasswd }
    authTokens := secrets.authTokens }

/-- A configuration without its secrets, so that two of them can be compared in all other fields. -/
def redacted (conf : Conf) : Conf := conf.withSecrets {}

@[simp]
theorem redacted_withSecrets (secrets : Secrets) (conf : Conf) :
    (conf.withSecrets secrets).redacted = conf.redacted := rfl

/-- What two configurations agree on outside of their secrets makes the one of the other. -/
theorem eq_withSecrets {conf other : Conf} (h : conf.redacted = other.redacted) :
    other = conf.withSecrets other.secrets := by
  calc
    other = other.redacted.withSecrets other.secrets := rfl
    _ = conf.redacted.withSecrets other.secrets := by rw [h]
    _ = conf.withSecrets other.secrets := rfl

/-- The way that bootstrapping ends, with a change to the configuration if there is one. -/
def Bootstrapped.map (f : Conf → Conf) : Bootstrapped → Bootstrapped
  | .ready conf => .ready (f conf)
  | .exited status => .exited status
  | .raised error => .raised error

/-! ## Resolving -/

section

variable (secrets : Secrets)

theorem defers_redis (password : String) :
    Defers (fun block : Redis ↦ { block with password := password }) Redis.resolve := by
  apply Rule.defers_run
  simp [Redis.rules, Rule.Ignores]

theorem defers_withSecrets_resolveRedis : Defers (withSecrets secrets) resolveRedis := by
  intro conf
  have hblock := defers_redis secrets.redisPassword conf.redis
  simp only [resolveRedis, withSecrets, hblock, Outcome.within]

theorem defers_withSecrets_fillDefaults : Defers (withSecrets secrets) fillDefaults := by
  apply Rule.defers_run
  simp [fillRules, Rule.Ignores, withSecrets]

/-- The stages behind the one of redis do not look at a block with secrets. -/
theorem defers_withSecrets_fromArchiver : Defers (withSecrets secrets) fromArchiver := by
  have harchiver : Defers (withSecrets secrets) resolveArchiver := fun _ ↦ rfl
  have hcleaner : Defers (withSecrets secrets) resolveCleaner := fun _ ↦ rfl
  have hindexer : Defers (withSecrets secrets) resolveIndexer := fun _ ↦ rfl
  exact harchiver.andThen_defers (hcleaner.andThen_defers hindexer)

variable [TimeZone.Database]

theorem defers_withSecrets_validateServer : Defers (withSecrets secrets) validateServer := by
  apply Rule.defers_run
  simp [serverRules, Rule.Ignores, withSecrets]

theorem defers_withSecrets_resolve : Defers (withSecrets secrets) resolve := by
  have hblocks : Defers (withSecrets secrets) fromRedis :=
    (defers_withSecrets_resolveRedis secrets).andThen_defers
      (defers_withSecrets_fromArchiver secrets)
  have hvalidate : Defers (withSecrets secrets) validate := by
    rw [validate_eq]
    exact (defers_withSecrets_validateServer secrets).andThen_defers hblocks
  exact (defers_withSecrets_fillDefaults secrets).andThen_defers hvalidate

theorem secrets_resolve (conf : Conf) : (resolve conf).state.secrets = conf.secrets := by
  have h := mayBecome_resolve conf
  simp only [Conf.secrets, h.redis.password, h.db, h.reporting, h.authTokens]

/-! ## Loading -/

theorem announce_withSecrets (conf : Conf) : (conf.withSecrets secrets).announce =
    ⟨conf.announce.entries, conf.announce.result.map (withSecrets secrets)⟩ := by
  simp only [announce, defers_withSecrets_resolve secrets conf]
  cases (resolve conf).fault with
  | some reason => rfl
  | none => rfl

theorem bootstrap_withSecrets [Json.Limits] {files files' : Files} {path : String} {conf : Conf}
    (h : load files path = .ok conf) (h' : load files' path = .ok (conf.withSecrets secrets)) :
    bootstrap files' path =
      ⟨(bootstrap files path).entries,
        (bootstrap files path).result.map (withSecrets secrets)⟩ := by
  simp only [bootstrap, loadResolved, h, h', announce_withSecrets]
  cases conf.announce.result with
  | ok resolved => rfl
  | error error => cases error <;> rfl

/-! ## Starting -/

theorem serve_withSecrets [Api.Documentation] (journal : Log.Journal) (stamp : String)
    (settings : Settings) (conf : Conf) :
    Startup.serve journal stamp settings (conf.withSecrets secrets) =
      { Startup.serve journal stamp settings conf with
        deployment := (Startup.serve journal stamp settings conf).deployment.map fun deployment ↦
          { deployment with conf := deployment.conf.withSecrets secrets } } := by
  have hlogging : (conf.withSecrets secrets).logging = conf.logging := rfl
  have hentry : Startup.startingEntry (conf.withSecrets secrets) = Startup.startingEntry conf := rfl
  simp only [Startup.serve, hlogging, hentry]
  cases journal.configure conf.logging (settings.stage == .development) with
  | error error => rfl
  | ok ready =>
    simp only
    cases ready.log stamp .current (Startup.startingEntry conf) with
    | error error => rfl
    | ok told => rfl

/-! ## Answering -/

theorem run_withSecrets {conf : Conf} {request : Http.Request} {now : String}
    (h : Api.Token.authorizes (conf.withSecrets secrets) request =
      Api.Token.authorizes conf request) :
    Route.info.run ⟨some { conf := conf.withSecrets secrets }, now⟩ request =
      Route.info.run ⟨some { conf }, now⟩ request := by
  have hentry : Route.unauthorizedEntry (conf.withSecrets secrets) request =
      Route.unauthorizedEntry conf request := rfl
  have hzone : (conf.withSecrets secrets).timeZone = conf.timeZone := rfl
  have haddress : (conf.withSecrets secrets).publicUrl = conf.publicUrl := rfl
  have hinformation : Route.information (conf.withSecrets secrets) now =
      Route.information conf now := by
    simp only [Route.information, Conf.timeZone?, hzone, haddress]
  simp only [Route.info, Route.protect, h, hentry, hinformation]

theorem answer_withSecrets [Api.Documentation] {conf : Conf} {request : Http.Request}
    (h : request.method = "GET" → Route.info.matches? request.path = true →
      Api.Token.authorizes (conf.withSecrets secrets) request = Api.Token.authorizes conf request)
    (now : String) : (conf.withSecrets secrets).answer now request = conf.answer now request := by
  apply App.answer_congr_of_reached
  intro route hroute hmethod hpath
  rcases App.mem_routes_ofDeployment.mp hroute with hdocumentation | rfl | rfl
  · exact Route.run_documentation hdocumentation _
  · rfl
  · exact run_withSecrets secrets (h (List.mem_singleton.mp hmethod) hpath)

end

/-- Two configurations that agree on all fields but the secret ones are not told apart by anything
that is shown. Loading goes on and ends alike, with the same entries, and so do bootstrapping and
starting; each configuration keeps its own secrets on the way, and they still agree otherwise. The
server is started with the same options, and a request gets the same answer from both apps, with the
same entries, if the check of its token ends alike or is not reached. -/
theorem agree_of_redacted [Json.Limits] [TimeZone.Database] [Api.Documentation] {conf other : Conf}
    (h : conf.redacted = other.redacted) :
    (other.announce.entries = conf.announce.entries ∧
        other.announce.result.map redacted = conf.announce.result.map redacted) ∧
      ((resolve other).fault = (resolve conf).fault ∧
        (resolve other).state.redacted = (resolve conf).state.redacted ∧
        (resolve other).state.secrets = other.secrets ∧
        (resolve conf).state.secrets = conf.secrets) ∧
      (∀ files files' path, load files path = .ok conf → load files' path = .ok other →
        (bootstrap files' path).entries = (bootstrap files path).entries ∧
          (bootstrap files' path).result.map redacted =
            (bootstrap files path).result.map redacted) ∧
      (∀ journal stamp settings,
        (Startup.serve journal stamp settings other).journal =
            (Startup.serve journal stamp settings conf).journal ∧
          (Startup.serve journal stamp settings other).ending =
            (Startup.serve journal stamp settings conf).ending ∧
          Startup.startingEntry other = Startup.startingEntry conf) ∧
      other.serverOptions = conf.serverOptions ∧
      ∀ now request,
        (request.method = "GET" → Route.info.matches? request.path = true →
          Api.Token.authorizes other request = Api.Token.authorizes conf request) →
        other.answer now request = conf.answer now request := by
  have hsecrets (conf : Conf) := secrets_resolve conf
  obtain ⟨secrets, rfl⟩ : ∃ secrets, other = conf.withSecrets secrets := ⟨_, eq_withSecrets h⟩
  refine ⟨?announced, ?resolved, ?bootstrapped, ?started, rfl, ?answered⟩
  case announced =>
    rw [announce_withSecrets]
    refine ⟨rfl, ?_⟩
    cases conf.announce.result <;> rfl
  case resolved =>
    refine ⟨?_, ?_, hsecrets _, hsecrets _⟩
    · rw [defers_withSecrets_resolve]
    · rw [defers_withSecrets_resolve, redacted_withSecrets]
  case bootstrapped =>
    intro files files' path hload hload'
    rw [bootstrap_withSecrets secrets hload hload']
    refine ⟨rfl, ?_⟩
    cases (bootstrap files path).result <;> rfl
  case started =>
    intro journal stamp settings
    rw [serve_withSecrets]
    exact ⟨rfl, rfl, rfl⟩
  case answered =>
    intro now request hverdict
    exact answer_withSecrets secrets hverdict now

open scoped Release

/-- The sample with secrets. -/
def secretive (password : String) (tokens : List String) : Conf :=
  { sample with
    redis := { sample.redis with password := password }
    db := { sample.db with user := password, passwd := password }
    authHeaderName := "X-Token"
    authTokens := tokens }

theorem wellFormed_secretive (password : String) (tokens : List String) :
    (secretive password tokens).WellFormed :=
  ⟨⟨wellFormed_sample.level, wellFormed_sample.endpoint⟩, wellFormed_sample.integers⟩

/-- The token is the first of the ones that the one knows and the last of those of the other. -/
theorem secretive_agree :
    (bootstrap (singleFile (Text.Utf8.encode
          (secretive "other" ["more", "secret"]).toJson.toList)) "camus.json").entries =
        (bootstrap (singleFile (Text.Utf8.encode
          (secretive "one" ["secret"]).toJson.toList)) "camus.json").entries ∧
      (secretive "other" ["more", "secret"]).answer "0"
          (Http.Request.ofSent "GET" "/info" "" [("x-token", "secret")]) =
        (secretive "one" ["secret"]).answer "0"
          (Http.Request.ofSent "GET" "/info" "" [("x-token", "secret")]) := by
  have hload (password : String) (tokens : List String) : load (singleFile (Text.Utf8.encode
      (secretive password tokens).toJson.toList)) "camus.json" = .ok (secretive password tokens) :=
    load_toJson (wellFormed_secretive password tokens) rfl (readConf_singleFile _)
  have hredacted : (secretive "one" ["secret"]).redacted =
      (secretive "other" ["more", "secret"]).redacted := rfl
  obtain ⟨-, -, hbootstrap, -, -, hanswer⟩ := agree_of_redacted hredacted
  have hloaded := hload "one" ["secret"]
  have hother := hload "other" ["more", "secret"]
  refine ⟨(hbootstrap _ _ _ hloaded hother).1, hanswer _ _ fun _ _ ↦ ?_⟩
  decide +kernel

end Conf

end ServiceBoot
