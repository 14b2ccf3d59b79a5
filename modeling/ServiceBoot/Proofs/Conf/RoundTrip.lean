import ServiceBoot.Proofs.Block.Members
import ServiceBoot.Proofs.Conf.Resolved
import ServiceBoot.Proofs.Conf.Usable
import ServiceBoot.TimeZone.Table

/-!
# Configurations written out and read back

A configuration is read back from the document that it is written as, if its texts can be taken
apart and its integers can be read, which have 4300 digits at most; a minus sign is one of them for
a reader that counts it. All that is lost is where the configuration was read from before.
-/

namespace ServiceBoot.Conf

open Document Json

def integers (conf : Conf) : List Int :=
  [conf.listenPort, conf.serverReadTimeoutSecs, conf.serverWriteTimeoutSecs] ++
    conf.redis.integers ++ conf.db.integers ++ conf.archiver.integers ++
    conf.indexer.integers ++ conf.cleaner.integers ++ conf.reporting.integers

theorem texts_textList (values : List String) : texts (textList values) = .accepted values :=
  textsFrom_map_str 0 values

theorem check_toMembers {conf : Conf} (h : conf.Usable) :
    check conf.toMembers = .accepted { conf with sourcePath := "" } := by
  simp [check, toMembers, mandatory, defaulted, find?, text, integer, texts_textList, block,
    Block.Logging.check_toMembers h.level, Block.Redis.check_toMembers,
    Block.Database.check_toMembers h.endpoint, Block.Archiver.check_toMembers,
    Block.Indexer.check_toMembers, Block.Cleaner.check_toMembers,
    Block.Reporting.check_toMembers]

section

variable [Limits]

/-- What parsing makes sure of: every other value of a configuration is an arbitrary one. -/
structure WellFormed (conf : Conf) : Prop extends conf.Usable where
  integers : ∀ n ∈ conf.integers, IsReadable n

theorem readable_textList {levels : Nat} (texts : List String) :
    Readable (levels + 1) (textList texts) := by
  apply Readable.list
  intro item hitem
  obtain ⟨text, -, rfl⟩ := List.mem_map.mp hitem
  exact .str

theorem WellFormed.readable {conf : Conf} (h : conf.WellFormed) {levels : Nat} :
    Readable (levels + 2) (.object conf.toMembers) := by
  have hintegers := h.integers
  simp only [Conf.integers, List.mem_append, or_imp, forall_and] at hintegers
  obtain ⟨⟨⟨⟨⟨⟨hserver, hredis⟩, hdb⟩, harchiver⟩, hindexer⟩, hcleaner⟩, hreporting⟩ := hintegers
  apply Readable.object
  simp only [List.mem_cons, List.not_mem_nil, or_false, forall_eq_or_imp, forall_eq] at hserver
  simp [toMembers, hserver, readable_textList, Block.Logging.readable,
    Block.Redis.readable hredis, Block.Database.readable hdb, Block.Archiver.readable harchiver,
    Block.Indexer.readable hindexer, Block.Cleaner.readable hcleaner,
    Block.Reporting.readable hreporting]

theorem parse_toJson {conf : Conf} (h : conf.WellFormed) (source : String) :
    parse (Text.Utf8.encode conf.toJson.toList) source = .ok { conf with sourcePath := source } := by
  have hread : Json.read (Text.Utf8.encode conf.toJson.toList) = .ok (.object conf.toMembers) :=
    readWithin_pretty h.readable
  rw [parse_eq_ok]
  exact ⟨_, _, hread, check_toMembers h.toUsable, rfl⟩

/-! ## What was parsed is well formed -/

theorem integers_of_check {members : Members} {conf : Conf}
    (hmembers : ∀ member ∈ members, member.2.HasReadableIntegers)
    (h : check members = .accepted conf) : ∀ n ∈ conf.integers, IsReadable n := by
  simp only [check, seq_eq_accepted, map_eq_accepted] at h
  obtain ⟨_, reporting, h, hreporting, rfl⟩ := h
  obtain ⟨_, cleaner, h, hcleaner, rfl⟩ := h
  obtain ⟨_, indexer, h, hindexer, rfl⟩ := h
  obtain ⟨_, archiver, h, harchiver, rfl⟩ := h
  obtain ⟨_, db, h, hdb, rfl⟩ := h
  obtain ⟨_, redis, h, hredis, rfl⟩ := h
  iterate 5 obtain ⟨_, _, h, -, rfl⟩ := h
  obtain ⟨_, write, h, hwrite, rfl⟩ := h
  obtain ⟨_, read, h, hread, rfl⟩ := h
  obtain ⟨_, port, ⟨_, _, ⟨_, -, rfl⟩, -, rfl⟩, hport, rfl⟩ := h
  have hport := Block.isReadable_of_mandatory hmembers hport
  have hread := Block.isReadable_of_defaulted hmembers (by decide) hread
  have hwrite := Block.isReadable_of_defaulted hmembers (by decide) hwrite
  have hredis : ∀ n ∈ redis.integers, IsReadable n := by
    obtain ⟨_, hinner, hredis⟩ := Block.members_of_mandatory hmembers hredis
    exact Block.Redis.isReadable_of_check hinner hredis
  have hdb : ∀ n ∈ db.integers, IsReadable n := by
    obtain ⟨_, hinner, hdb⟩ := Block.members_of_mandatory hmembers hdb
    exact Block.Database.isReadable_of_check hinner hdb
  have harchiver : ∀ n ∈ archiver.integers, IsReadable n := by
    obtain ⟨_, hinner, harchiver⟩ := Block.members_of_mandatory hmembers harchiver
    exact Block.Archiver.isReadable_of_check hinner harchiver
  have hindexer : ∀ n ∈ indexer.integers, IsReadable n := by
    obtain ⟨_, hinner, hindexer⟩ := Block.members_of_mandatory hmembers hindexer
    exact Block.Indexer.isReadable_of_check hinner hindexer
  have hcleaner : ∀ n ∈ cleaner.integers, IsReadable n := by
    rcases check_of_defaulted hcleaner with rfl | ⟨member, hmember, hcleaner⟩
    · have hshort : ∀ n ∈ ({} : Block.Cleaner).integers, IsShort n := by decide
      exact fun n hn ↦ (hshort n hn).isReadable
    · obtain ⟨_, hinner, hcleaner⟩ := Block.members_of_block (hmembers member hmember) hcleaner
      exact Block.Cleaner.isReadable_of_check hinner hcleaner
  have hreporting : ∀ n ∈ reporting.integers, IsReadable n := by
    obtain ⟨_, hinner, hreporting⟩ := Block.members_of_mandatory hmembers hreporting
    exact Block.Reporting.isReadable_of_check hinner hreporting
  simp only [integers, List.forall_mem_append, List.forall_mem_cons]
  exact ⟨⟨⟨⟨⟨⟨⟨hport, hread, hwrite, List.forall_mem_nil _⟩, hredis⟩, hdb⟩, harchiver⟩, hindexer⟩,
    hcleaner⟩, hreporting⟩

theorem wellFormed_of_parse {bytes : Bytes} {source : String} {conf : Conf}
    (h : parse bytes source = .ok conf) : conf.WellFormed := by
  refine ⟨usable_of_parse h, ?_⟩
  obtain ⟨value, parsed, hvalue, hcheck, rfl⟩ := parse_eq_ok.mp h
  obtain ⟨members, hmembers, hcheck⟩ :=
    Block.members_of_block (readableIntegers_of_readWithin hvalue) hcheck
  show ∀ n ∈ parsed.integers, IsReadable n
  exact integers_of_check hmembers hcheck

/-- Filling leaves a configuration well formed, since the defaults are readable. -/
theorem WellFormed.filled {conf : Conf} (h : conf.WellFormed) : conf.filled.WellFormed := by
  refine ⟨h.toUsable.filled, ?_⟩
  have hintegers := h.integers
  simp only [Conf.integers, List.forall_mem_append, List.forall_mem_cons] at hintegers ⊢
  obtain ⟨⟨⟨⟨⟨⟨⟨hlisten, hread, hwrite, hnil⟩, hredis⟩, hdb⟩, harchiver⟩, hindexer⟩, hcleaner⟩,
    hreporting⟩ := hintegers
  have hwrite := Block.isReadable_fillInt hwrite (by decide : IsShort defaultWriteTimeoutSecs)
  have hredis := Block.Redis.isReadable_filled hredis
  have harchiver := Block.Archiver.isReadable_filled harchiver
  have hindexer := Block.Indexer.isReadable_filled hindexer
  have hcleaner := Block.Cleaner.isReadable_filled hcleaner
  exact ⟨⟨⟨⟨⟨⟨⟨hlisten, hread, hwrite, hnil⟩, hredis⟩, hdb⟩, harchiver⟩, hindexer⟩, hcleaner⟩,
    hreporting⟩

/-! ## The round trip -/

/-- A configuration is read back from its document but for its source path, and the copy is written
as the same document. If the configuration was left by resolving, nothing is left to do on the
copy. -/
theorem parse_toJson_and_resolve [TimeZone.Database] {conf : Conf} (h : conf.WellFormed) :
    parse (Text.Utf8.encode conf.toJson.toList) "" = .ok { conf with sourcePath := "" } ∧
      ({ conf with sourcePath := "" } : Conf).toJson = conf.toJson ∧
      ∀ original : Conf, (resolve original).fault = none → (resolve original).state = conf →
        resolve { conf with sourcePath := "" } = .done { conf with sourcePath := "" } := by
  refine ⟨parse_toJson h "", rfl, ?_⟩
  rintro original hfault rfl
  obtain ⟨hwrite, hread, hurl, hzone, redis, archiver, cleaner, indexer⟩ := isResolved_resolve hfault
  exact IsResolved.resolve ⟨hwrite, hread, hurl, hzone, redis, archiver, cleaner, indexer⟩

end

open scoped Release

/-- Its texts hold what has to be escaped, and characters of every length. -/
def sample : Conf where
  sourcePath := "camus.json"
  listenAddress := "\"\\/\n\x01\x7fř€😀"
  listenPort := -8080
  corsAllowedOrigins := ["https://example.org", ""]
  timeZone := "Africa/Cairo"
  logging := { level := "warning" }
  redis := { queueKey := "records" }
  db := { host := "[fe80::1]:3306" }
  archiver := { ddStateFilePath := "/var/state" }
  indexer := { indexDirPath := "/var/index" }
  reporting := {}

theorem wellFormed_sample : sample.WellFormed := by
  have hok : sample.db.endpoint.isOk = true := by decide +kernel
  have hendpoint : ∃ endpoint, sample.db.endpoint = .ok endpoint := by
    cases h : sample.db.endpoint with
    | ok endpoint => exact ⟨endpoint, rfl⟩
    | error fault => simp [h, Except.isOk, Except.toBool] at hok
  exact ⟨⟨⟨.warning, rfl⟩, hendpoint⟩, by decide +kernel⟩

theorem resolve_sample_fault : (resolve sample).fault = none := by decide +kernel

theorem wellFormed_resolve_sample : (resolve sample).state.WellFormed := by
  rw [resolve_state resolve_sample_fault]
  exact wellFormed_sample.filled

theorem parse_toJson_and_resolve_sample :
    parse (Text.Utf8.encode (resolve sample).state.toJson.toList) "" =
        .ok { (resolve sample).state with sourcePath := "" } ∧
      resolve { (resolve sample).state with sourcePath := "" } =
        .done { (resolve sample).state with sourcePath := "" } := by
  obtain ⟨hparse, -, hresolve⟩ := parse_toJson_and_resolve wellFormed_resolve_sample
  exact ⟨hparse, hresolve sample resolve_sample_fault rfl⟩

end ServiceBoot.Conf
