import ServiceBoot.Conf.Load
import ServiceBoot.Proofs.Conf.RoundTrip

/-!
# Loaded configurations

A configuration that was loaded and resolved has the invariants of a resolved one, and it is as well
formed as it was parsed. Hence nothing that is asked of it fails.
-/

namespace ServiceBoot.Conf

open Json

theorem IsResolved.timeZone? [TimeZone.Database] {conf : Conf} (h : conf.IsResolved) :
    conf.timeZone? = .ok conf.timeZone := by
  simp [Conf.timeZone?, TimeZone.find, h.timeZone_known]

section

variable [Limits]

theorem parseFrom_eq_ok_iff {path : String} {bytes : Bytes} {conf : Conf} :
    parseFrom path bytes = .ok conf ↔ parse bytes path = .ok conf := by
  unfold parseFrom
  cases parse bytes path <;> simp

theorem load_eq_ok_iff {files : Files} {path : String} {conf : Conf} :
    load files path = .ok conf ↔
      ∃ bytes, files.readConf path = .ok bytes ∧ parse bytes path = .ok conf := by
  simp only [load, bind_eq_ok, parseFrom_eq_ok_iff]

theorem wellFormed_of_load {files : Files} {path : String} {conf : Conf}
    (h : load files path = .ok conf) : conf.WellFormed := by
  obtain ⟨bytes, -, hparse⟩ := load_eq_ok_iff.mp h
  exact wellFormed_of_parse hparse

theorem loadResolved_eq_ok [TimeZone.Database] {files : Files} {path : String} {conf : Conf}
    (h : (loadResolved files path).result = .ok conf) :
    ∃ parsed, load files path = .ok parsed ∧ (resolve parsed).fault = none ∧
      (resolve parsed).state = conf := by
  unfold loadResolved at h
  cases hload : load files path with
  | error error => simp [hload] at h
  | ok parsed =>
    simp only [hload, announce] at h
    cases hfault : (resolve parsed).fault with
    | some reason => simp [hfault] at h
    | none =>
      simp only [hfault, Except.ok.injEq] at h
      exact ⟨parsed, rfl, hfault, h⟩

theorem isResolved_and_wellFormed_of_loadResolved [TimeZone.Database] {files : Files}
    {path : String} {conf : Conf} (h : (loadResolved files path).result = .ok conf) :
    conf.IsResolved ∧ conf.WellFormed := by
  obtain ⟨parsed, hload, hfault, rfl⟩ := loadResolved_eq_ok h
  constructor
  · exact isResolved_resolve hfault
  · rw [resolve_state hfault]
    exact (wellFormed_of_load hload).filled

/-! ## Loading what was written -/

variable {files : Files} {path : String} {conf : Conf}

/-- A configuration is loaded from a file that holds its document. -/
theorem load_toJson (h : conf.WellFormed) (hpath : conf.sourcePath = path)
    (hfile : files.readConf path = .ok (Text.Utf8.encode conf.toJson.toList)) :
    load files path = .ok conf := by
  subst hpath
  exact load_eq_ok_iff.mpr ⟨_, hfile, parse_toJson h _⟩

theorem loadResolved_of_load [TimeZone.Database] (hload : load files path = .ok conf)
    (hfault : (resolve conf).fault = none) :
    (loadResolved files path).result = .ok (resolve conf).state := by
  simp only [loadResolved, hload, announce, hfault]

theorem loadResolved_toJson [TimeZone.Database] (h : conf.WellFormed)
    (hpath : conf.sourcePath = path)
    (hfile : files.readConf path = .ok (Text.Utf8.encode conf.toJson.toList))
    (hfault : (resolve conf).fault = none) :
    (loadResolved files path).result = .ok (resolve conf).state :=
  loadResolved_of_load (load_toJson h hpath hfile) hfault

/-! ## What is asked of a loaded configuration -/

theorem WellFormed.reporting_url {conf : Conf} (h : conf.WellFormed) (driver : String) :
    ∃ url, conf.reporting.url driver = url ∧ ∀ port ∈ url.port, IsReadable port := by
  refine ⟨_, rfl, ?_⟩
  intro port hport
  cases hport
  exact h.integers _ (List.mem_append_right _ (List.mem_cons_self ..))

/-- Resolving establishes its invariants, and what is asked of a configuration that was loaded
and resolved has an answer: its time zone, its level, the endpoint and the address of its database,
and the address of its database for reports. In the latter nothing is taken apart, and its port can
be written out. -/
theorem resolved_invariants_and_accessors [TimeZone.Database] :
    (∀ conf : Conf, (resolve conf).fault = none → (resolve conf).state.IsResolved) ∧
      ∀ files path conf, (loadResolved files path).result = .ok conf →
        conf.timeZone? = .ok conf.timeZone ∧
        (∃ level, conf.logging.level? = some level) ∧
        (∃ endpoint, conf.db.endpoint = .ok endpoint ∧
          ∀ port ∈ endpoint.port, 1 ≤ port ∧ port ≤ 65535) ∧
        (∀ driver, ∃ url, conf.db.url driver = .ok url ∧
          ∀ port ∈ url.port, 1 ≤ port ∧ port ≤ 65535) ∧
        ∀ driver, ∃ url, conf.reporting.url driver = url ∧ ∀ port ∈ url.port, IsReadable port := by
  constructor
  · intro conf hfault
    exact isResolved_resolve hfault
  · intro files path conf h
    obtain ⟨hresolved, hwell⟩ := isResolved_and_wellFormed_of_loadResolved h
    obtain ⟨endpoint, hendpoint⟩ := hwell.endpoint
    have hport := Endpoint.port_of_ofText hendpoint
    exact ⟨hresolved.timeZone?, hwell.level?, ⟨endpoint, hendpoint, hport⟩, hwell.url,
      hwell.reporting_url⟩

end

/-- The only file there is, which has this content. -/
def singleFile (content : Bytes) : Files where
  nodes := [(["camus.json"], .file content)]

theorem readConf_singleFile (content : Bytes) :
    (singleFile content).readConf "camus.json" = .ok content := by
  have htidy : Path.tidy "camus.json" = "camus.json" := by decide +kernel
  have hnames : Files.namesOf "camus.json" = ["camus.json"] := by decide +kernel
  have hnul : Path.hasNul "camus.json" = false := by decide +kernel
  have habsolute : Path.isAbsolute "camus.json" = false := by decide +kernel
  have hlong : "camus.json".utf8ByteSize = 10 := by decide +kernel
  simp [Files.readConf, Files.read, htidy, hnames, Files.withPath, hnul, hlong, Path.maxPathBytes,
    Files.contentAt, Files.start, habsolute, singleFile, Files.enter, Files.placeIn,
    Files.isTooLong, Path.maxNameBytes, Files.content, Files.node?, bind, Except.bind]

/-- The sample in a file of its own. -/
def sampleFiles : Files where
  nodes := [(["camus.json"], .file (Text.Utf8.encode sample.toJson.toList))]

theorem readConf_sampleFiles :
    sampleFiles.readConf "camus.json" = .ok (Text.Utf8.encode sample.toJson.toList) :=
  readConf_singleFile _

open scoped Release

theorem sample_invariants_and_accessors :
    (resolve sample).fault = none ∧ (resolve sample).state.IsResolved ∧
      (loadResolved sampleFiles "camus.json").result = .ok (resolve sample).state ∧
      (resolve sample).state.timeZone? = .ok (resolve sample).state.timeZone ∧
      ∃ level, (resolve sample).state.logging.level? = some level := by
  obtain ⟨hinvariants, haccessors⟩ := resolved_invariants_and_accessors
  have hloaded : (loadResolved sampleFiles "camus.json").result = .ok (resolve sample).state :=
    loadResolved_toJson wellFormed_sample rfl readConf_sampleFiles resolve_sample_fault
  obtain ⟨hzone, hlevel, -⟩ := haccessors _ _ _ hloaded
  exact ⟨resolve_sample_fault, hinvariants sample resolve_sample_fault, hloaded, hzone, hlevel⟩

end ServiceBoot.Conf
