import ServiceBoot.Proofs.Conf.Filled
import ServiceBoot.Proofs.Document.Field
import ServiceBoot.Proofs.Endpoint

/-!
# Usable configurations

Two texts of a configuration are taken apart when they are used: the level and the host of the
database. A configuration that was parsed has texts that can be taken apart, and filling leaves them
alone.
-/

namespace ServiceBoot

open Document Json

/-! ## What parsing lets through -/

theorem Block.Logging.level_of_check {members : Members} {block : Block.Logging}
    (h : Block.Logging.check members = .accepted block) :
    ∃ level, block.level = Log.Level.name level := by
  simp only [Block.Logging.check, seq_eq_accepted, map_eq_accepted] at h
  obtain ⟨_, name, ⟨path, -, rfl⟩, hname, rfl⟩ := h
  rcases check_of_defaulted hname with rfl | ⟨_, -, hvalue⟩
  · exact ⟨.info, rfl⟩
  · obtain ⟨_, level, -, -, hlevel⟩ := levelText_eq_accepted_iff.mp hvalue
    exact ⟨level, hlevel.symm⟩

theorem Block.Database.endpoint_of_check {members : Members} {block : Block.Database}
    (h : Block.Database.check members = .accepted block) :
    ∃ endpoint, block.endpoint = .ok endpoint := by
  simp only [Block.Database.check, seq_eq_accepted, map_eq_accepted] at h
  iterate 4 obtain ⟨_, _, h, -, rfl⟩ := h
  obtain ⟨host, hhost, rfl⟩ := h
  rcases check_of_defaulted hhost with rfl | ⟨_, -, hvalue⟩
  · exact ⟨⟨"", none⟩, rfl⟩
  · exact ofText_of_endpointText hvalue

namespace Conf

structure Usable (conf : Conf) : Prop where
  level : ∃ level, conf.logging.level = Log.Level.name level
  endpoint : ∃ endpoint, conf.db.endpoint = .ok endpoint

theorem usable_of_check {members : Members} {conf : Conf} (h : check members = .accepted conf) :
    conf.Usable := by
  simp only [check, seq_eq_accepted, map_eq_accepted] at h
  iterate 4 obtain ⟨_, _, h, -, rfl⟩ := h
  obtain ⟨_, db, h, hdb, rfl⟩ := h
  obtain ⟨_, _, h, -, rfl⟩ := h
  obtain ⟨_, logging, h, hlogging, rfl⟩ := h
  iterate 8 obtain ⟨_, _, h, -, rfl⟩ := h
  obtain ⟨_, -, rfl⟩ := h
  obtain ⟨_, -, hlogging⟩ := check_of_mandatory hlogging
  obtain ⟨_, -, hlogging⟩ := check_of_block hlogging
  obtain ⟨_, -, hdb⟩ := check_of_mandatory hdb
  obtain ⟨_, -, hdb⟩ := check_of_block hdb
  exact ⟨Block.Logging.level_of_check hlogging, Block.Database.endpoint_of_check hdb⟩

/-- A configuration is parsed from a value that its check accepts. -/
theorem parse_eq_ok [Json.Limits] {bytes : Bytes} {source : String} {conf : Conf} :
    parse bytes source = .ok conf ↔ ∃ value parsed, Json.read bytes = .ok value ∧
      block check value = .accepted parsed ∧ { parsed with sourcePath := source } = conf := by
  rw [parse, map_eq_ok]
  constructor
  · rintro ⟨parsed, hread, hconf⟩
    obtain ⟨value, hvalue, hcheck⟩ := read_eq_ok.mp hread
    exact ⟨value, parsed, hvalue, hcheck, hconf⟩
  · rintro ⟨value, parsed, hvalue, hcheck, hconf⟩
    exact ⟨parsed, read_eq_ok.mpr ⟨value, hvalue, hcheck⟩, hconf⟩

theorem usable_of_parse [Json.Limits] {bytes : Bytes} {source : String} {conf : Conf}
    (h : parse bytes source = .ok conf) : conf.Usable := by
  obtain ⟨value, parsed, -, hvalue, rfl⟩ := parse_eq_ok.mp h
  obtain ⟨_, -, hmembers⟩ := check_of_block hvalue
  obtain ⟨level, endpoint⟩ := usable_of_check hmembers
  exact ⟨level, endpoint⟩

/-- Filling leaves the texts alone. -/
theorem Usable.filled {conf : Conf} (h : conf.Usable) : conf.filled.Usable :=
  ⟨h.level, h.endpoint⟩

theorem Usable.level? {conf : Conf} (h : conf.Usable) :
    ∃ level, conf.logging.level? = some level := by
  obtain ⟨level, hlevel⟩ := h.level
  exact ⟨level, by simp [Block.Logging.level?, hlevel]⟩

theorem Usable.url {conf : Conf} (h : conf.Usable) (driver : String) :
    ∃ url, conf.db.url driver = .ok url ∧ ∀ port ∈ url.port, 1 ≤ port ∧ port ≤ 65535 := by
  obtain ⟨endpoint, hendpoint⟩ := h.endpoint
  refine ⟨_, map_eq_ok.mpr ⟨endpoint, hendpoint, rfl⟩, ?_⟩
  intro port hport
  cases hn : endpoint.port with
  | none => simp [hn] at hport
  | some n =>
    have hrange := Endpoint.port_of_ofText hendpoint n hn
    simp only [hn] at hport
    have hcast : (n : Int) = port := Option.some.inj hport
    omega

end Conf

end ServiceBoot
