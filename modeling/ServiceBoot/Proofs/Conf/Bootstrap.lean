import ServiceBoot.Proofs.Conf.Frame
import ServiceBoot.Proofs.Conf.Loaded
import ServiceBoot.Proofs.Conf.Requirements
import ServiceBoot.Proofs.Files.Path

/-!
# How bootstrapping ends

Bootstrapping is meant to end in one of two ways: with a configuration that went through all stages,
or with the end of the process and one critical entry on the stage that failed. It does so for every
path and whatever the files hold, unless the path has a zero character in it or the search for the
time zone of the configuration breaks off.
-/

namespace ServiceBoot.Conf

open Document (Rejection)

/-! ## Warnings -/

def IsWarning (entry : Log.Entry) : Prop := entry.level = .warning

/-- Resolving writes nothing but warnings, wherever it ends. -/
theorem warns_resolve [TimeZone.Database] : Writes IsWarning resolve := by
  apply writes_resolve
  · simp [fillRules, Rule.Tells, IsWarning, Log.Entry.warning]
  · simp [Block.Redis.rules, Rule.Tells, IsWarning, Block.Redis.warning, Log.Entry.warning]
  · simp [Block.Archiver.rules, Rule.Tells, IsWarning, Block.Archiver.warning, Log.Entry.warning]
  · simp [Block.Cleaner.rules, Rule.Tells, IsWarning, Block.Cleaner.warning, Log.Entry.warning]
  · simp [Block.Indexer.rules, Rule.Tells, IsWarning, Block.Indexer.warning, Log.Entry.warning]

/-! ## What a stage fails with -/

variable {files : Files} {path : String}

theorem readConf_of_hasNul (h : Path.hasNul path = true) :
    files.readConf path = .error .embeddedNul := by
  have hne : path ≠ "" := by
    rintro rfl
    revert h
    decide
  have htidy : Path.hasNul (Path.tidy path) = true := by rw [Path.hasNul_tidy, h]
  simp [Files.readConf, hne, Files.read, Files.withPath, htidy]

theorem hasNul_of_withPath {α : Type} {access : Except Files.Fault α}
    (h : Files.withPath path access = .error .embeddedNul) : Path.hasNul path = true := by
  unfold Files.withPath at h
  split at h
  · assumption
  · split at h
    · cases h
    · split at h <;> cases h

/-- Reading fails with an error of its own kind, unless the path cannot be one. -/
theorem config_of_readConf {error : LoadError} (h : Path.hasNul path = false)
    (herror : files.readConf path = .error error) :
    ∃ config : ConfigError, error = .config config ∧ config.kind = "ConfigLoadError" := by
  unfold Files.readConf at herror
  split at herror
  · cases herror
    exact ⟨.noPath, rfl, rfl⟩
  · split at herror
    · cases herror
    · rename_i hread
      have hnul := hasNul_of_withPath hread
      rw [Path.hasNul_tidy, h] at hnul
      cases hnul
    · rename_i fault _ _
      cases herror
      exact ⟨.unreadable path fault, rfl, rfl⟩

theorem config_of_parseFrom [Json.Limits] {bytes : Bytes} {error : LoadError}
    (h : parseFrom path bytes = .error error) :
    ∃ rejection, error = .config (.rejected path rejection) := by
  unfold parseFrom at h
  split at h
  · cases h
  · rename_i rejection _
    cases h
    exact ⟨rejection, rfl⟩

/-- A fault of resolving is reported, unless the search for the time zone breaks off. -/
theorem invalid_of_resolve [TimeZone.Database] {conf : Conf} {reason : Unresolved}
    (hsearch : TimeZone.obstacle? conf.filled.timeZone = none)
    (h : (resolve conf).fault = some reason) : ∃ invalid, reason = .invalid invalid := by
  have hreport := resolve_report hsearch
  cases reason with
  | invalid invalid => exact ⟨invalid, rfl⟩
  | unsearchable obstacle =>
    rw [h] at hreport
    cases hviolation : firstViolation? conf <;> simp [hviolation, Unresolved.report?] at hreport

/-! ## Bootstrapping -/

theorem sourcePath_of_parse [Json.Limits] {bytes : Bytes} {parsed : Conf}
    (h : parse bytes path = .ok parsed) :
    parsed.sourcePath = path := by
  obtain ⟨_, _, rfl⟩ := map_eq_ok.mp h
  rfl

section

variable [Json.Limits] [TimeZone.Database]

/-- The ways that bootstrapping is meant to end. -/
inductive Concludes (files : Files) (path : String) : Logged Bootstrapped → Prop
  | ready {bytes : Bytes} {parsed conf : Conf} {warnings : List Log.Entry} :
      files.readConf path = .ok bytes →
      parse bytes path = .ok parsed →
      resolve parsed = ⟨conf, warnings, none⟩ →
      conf.sourcePath = path →
      (∀ entry ∈ warnings, IsWarning entry) →
      Concludes files path ⟨warnings ++ [loadedEntry conf], .ready conf⟩
  | unreadable {error : ConfigError} :
      files.readConf path = .error (.config error) →
      error.kind = "ConfigLoadError" →
      Concludes files path ⟨[refusedEntry error path], .exited 1⟩
  | rejected {bytes : Bytes} {rejection : Rejection} {error : ConfigError} :
      files.readConf path = .ok bytes →
      parse bytes path = .error rejection →
      error = .rejected path rejection →
      error.kind = "ConfigParseError" →
      Concludes files path ⟨[refusedEntry error path], .exited 1⟩
  | invalid {bytes : Bytes} {parsed conf : Conf} {warnings : List Log.Entry} {reason : Invalid}
      {error : ConfigError} :
      files.readConf path = .ok bytes →
      parse bytes path = .ok parsed →
      resolve parsed = ⟨conf, warnings, some (.invalid reason)⟩ →
      error = .invalid reason →
      error.kind = "ConfigValidationError" →
      (∀ entry ∈ warnings, IsWarning entry) →
      Concludes files path ⟨warnings ++ [refusedEntry error path], .exited 1⟩

theorem loadResolved_of_readConf {error : LoadError} (h : files.readConf path = .error error) :
    loadResolved files path = ⟨[], .error error⟩ := by
  simp only [loadResolved, load, h, bind, Except.bind]

theorem loadResolved_of_rejected {bytes : Bytes} {rejection : Rejection}
    (hread : files.readConf path = .ok bytes) (hparse : parse bytes path = .error rejection) :
    loadResolved files path = ⟨[], .error (.config (.rejected path rejection))⟩ := by
  simp only [loadResolved, load, hread, bind, Except.bind, parseFrom, hparse]

/-- A configuration that was parsed is announced, or bootstrapping ends with its fault. -/
theorem concludes_of_parse {bytes : Bytes} {parsed : Conf}
    (hread : files.readConf path = .ok bytes) (hparse : parse bytes path = .ok parsed)
    (hsearch : TimeZone.obstacle? parsed.filled.timeZone = none) :
    Concludes files path (bootstrap files path) := by
  have hloaded : loadResolved files path = parsed.announce := by
    simp only [loadResolved, load_eq_ok_iff.mpr ⟨_, hread, hparse⟩]
  have hwarnings := warns_resolve parsed
  have hsource : (resolve parsed).state.sourcePath = path := by
    rw [(mayBecome_resolve parsed).sourcePath, sourcePath_of_parse hparse]
  cases hfault : (resolve parsed).fault with
  | none =>
    have hbootstrap : bootstrap files path =
        ⟨(resolve parsed).entries ++ [loadedEntry (resolve parsed).state],
          .ready (resolve parsed).state⟩ := by
      simp only [bootstrap, hloaded, announce, hfault]
    rw [hbootstrap]
    exact .ready hread hparse (by rw [← hfault]) hsource hwarnings
  | some reason =>
    obtain ⟨invalid, rfl⟩ := invalid_of_resolve hsearch hfault
    have hbootstrap : bootstrap files path =
        ⟨(resolve parsed).entries ++ [refusedEntry (.invalid invalid) path], .exited 1⟩ := by
      simp only [bootstrap, hloaded, announce, hfault, LoadError.ofUnresolved]
    rw [hbootstrap]
    exact .invalid hread hparse (by rw [← hfault]) rfl rfl hwarnings

theorem bootstrap_concludes (hnul : Path.hasNul path = false)
    (hsearch : ∀ parsed, load files path = .ok parsed →
      TimeZone.obstacle? parsed.filled.timeZone = none) :
    Concludes files path (bootstrap files path) := by
  cases hread : files.readConf path with
  | error error =>
    obtain ⟨config, rfl, hkind⟩ := config_of_readConf hnul hread
    have hbootstrap : bootstrap files path = ⟨[refusedEntry config path], .exited 1⟩ := by
      simp only [bootstrap, loadResolved_of_readConf hread, List.nil_append]
    rw [hbootstrap]
    exact .unreadable hread hkind
  | ok bytes =>
    cases hparse : parse bytes path with
    | error rejection =>
      have hbootstrap : bootstrap files path =
          ⟨[refusedEntry (.rejected path rejection) path], .exited 1⟩ := by
        simp only [bootstrap, loadResolved_of_rejected hread hparse, List.nil_append]
      rw [hbootstrap]
      exact .rejected hread hparse rfl rfl
    | ok parsed =>
      have hload := load_eq_ok_iff.mpr ⟨_, hread, hparse⟩
      exact concludes_of_parse hread hparse (hsearch parsed hload)

/-! ## What gets past -/

theorem bootstrap_of_hasNul (h : Path.hasNul path = true) :
    bootstrap files path = ⟨[], .raised .embeddedNul⟩ := by
  simp only [bootstrap, loadResolved_of_readConf (readConf_of_hasNul h)]

theorem bootstrap_of_obstacle {parsed : Conf} {obstacle : TimeZone.Obstacle}
    (hload : load files path = .ok parsed)
    (hsearch : TimeZone.obstacle? parsed.filled.timeZone = some obstacle) :
    bootstrap files path = ⟨(resolve parsed).entries, .raised (.unsearchable obstacle)⟩ := by
  simp only [bootstrap, loadResolved, hload, announce, resolve_unsearchable hsearch,
    LoadError.ofUnresolved]

theorem not_concludes_raised {entries : List Log.Entry} {error : LoadError} :
    ¬Concludes files path ⟨entries, .raised error⟩ := by
  rintro ⟨⟩

/-- Bootstrapping ends as it is meant to just if the path can be one and the search for the time zone
of the configuration, if there is one to resolve, does not break off. Else an error that is no
configuration error gets past it, and nothing critical is written. The stages by themselves fail
with anything else under the same conditions only, and parsing never does. -/
theorem bootstrap_concludes_iff (files : Files) (path : String) :
    (Concludes files path (bootstrap files path) ↔
        Path.hasNul path = false ∧ ∀ parsed, load files path = .ok parsed →
          TimeZone.obstacle? parsed.filled.timeZone = none) ∧
      (Path.hasNul path = true → bootstrap files path = ⟨[], .raised .embeddedNul⟩) ∧
      (∀ parsed obstacle, load files path = .ok parsed →
        TimeZone.obstacle? parsed.filled.timeZone = some obstacle →
        bootstrap files path = ⟨(resolve parsed).entries, .raised (.unsearchable obstacle)⟩) ∧
      (∀ error, files.readConf path = .error error → Path.hasNul path = false →
        ∃ config : ConfigError, error = .config config ∧ config.kind = "ConfigLoadError") ∧
      (∀ bytes error, parseFrom path bytes = .error error →
        ∃ rejection, error = .config (.rejected path rejection)) ∧
      ∀ conf reason, (resolve conf).fault = some reason →
        TimeZone.obstacle? conf.filled.timeZone = none → ∃ invalid, reason = .invalid invalid := by
  refine ⟨⟨?meant, fun h ↦ bootstrap_concludes h.1 h.2⟩, bootstrap_of_hasNul,
    fun _ _ ↦ bootstrap_of_obstacle, fun _ hread hnul ↦ config_of_readConf hnul hread,
    fun _ _ ↦ config_of_parseFrom, fun _ _ hfault hsearch ↦ invalid_of_resolve hsearch hfault⟩
  intro hconcludes
  constructor
  · cases hnul : Path.hasNul path with
    | false => rfl
    | true =>
      rw [bootstrap_of_hasNul hnul] at hconcludes
      exact absurd hconcludes not_concludes_raised
  · intro parsed hload
    cases hsearch : TimeZone.obstacle? parsed.filled.timeZone with
    | none => rfl
    | some obstacle =>
      rw [bootstrap_of_obstacle hload hsearch] at hconcludes
      exact absurd hconcludes not_concludes_raised

end

open scoped Release

theorem bootstrap_concludes_sample :
    Concludes sampleFiles "camus.json" (bootstrap sampleFiles "camus.json") ∧
      Concludes sampleFiles "" (bootstrap sampleFiles "") := by
  have hload : load sampleFiles "camus.json" = .ok sample :=
    load_toJson wellFormed_sample rfl readConf_sampleFiles
  have hsearch : TimeZone.obstacle? sample.filled.timeZone = none := by decide +kernel
  constructor
  · refine (bootstrap_concludes_iff sampleFiles "camus.json").1.mpr ⟨by decide +kernel, ?_⟩
    intro parsed hparsed
    cases hload.symm.trans hparsed
    exact hsearch
  · refine (bootstrap_concludes_iff sampleFiles "").1.mpr ⟨by decide +kernel, ?_⟩
    intro parsed hparsed
    cases hparsed

/-- A zero character in the path is not reported as a failure to load. -/
theorem bootstrap_embeddedNul :
    bootstrap {} "a\x00b" = ⟨[], .raised .embeddedNul⟩ ∧
      ¬Concludes {} "a\x00b" (bootstrap {} "a\x00b") := by
  have hraised : bootstrap {} "a\x00b" = ⟨[], .raised .embeddedNul⟩ :=
    bootstrap_of_hasNul (by decide +kernel)
  refine ⟨hraised, ?_⟩
  rw [hraised]
  exact not_concludes_raised

end ServiceBoot.Conf
