import ServiceBoot.Proofs.Block.Resolved
import ServiceBoot.Proofs.Conf.Filled

/-!
# Resolved configurations

The invariants of a configuration that went through resolving. Resolving establishes them whenever
it ends without a fault, and it has nothing to do on a configuration that has them.
-/

namespace ServiceBoot.Conf

structure IsResolved [TimeZone.Database] (conf : Conf) : Prop where
  serverWriteTimeoutSecs_pos : 1 ≤ conf.serverWriteTimeoutSecs
  serverReadTimeoutSecs_nonneg : 0 ≤ conf.serverReadTimeoutSecs
  publicUrl_ne : conf.publicUrl ≠ ""
  timeZone_known : TimeZone.isKnown conf.timeZone = true
  redis : conf.redis.IsResolved
  archiver : conf.archiver.IsResolved
  cleaner : conf.cleaner.IsResolved conf.archiver.checkIntervalSecs
  indexer : conf.indexer.IsResolved

theorem publicUrlOf_ne (listenAddress : String) : publicUrlOf listenAddress ≠ "" := by
  simp [publicUrlOf]

/-! ## The settings of the server -/

theorem orderly_fillRules : Rule.Orderly fillRules := by
  constructor
  · simp [fillRules, Rule.Completes, defaultWriteTimeoutSecs, defaultTimeZone, publicUrlOf_ne]
  · simp [fillRules, Rule.Settled]

theorem settled_fillRules_iff (conf : Conf) : (∀ rule ∈ fillRules, rule.Settled conf) ↔
    conf.serverWriteTimeoutSecs ≠ 0 ∧ conf.publicUrl ≠ "" ∧ conf.timeZone ≠ "" := by
  simp [fillRules, Rule.Settled]

variable [TimeZone.Database]

theorem orderly_serverRules : Rule.Orderly serverRules := by
  constructor <;> simp [serverRules, Rule.Completes]

theorem settled_serverRules_iff (conf : Conf) : (∀ rule ∈ serverRules, rule.Settled conf) ↔
    TimeZone.isKnown conf.timeZone = true ∧ 0 < conf.serverWriteTimeoutSecs ∧
      0 ≤ conf.serverReadTimeoutSecs := by
  simp [serverRules, Rule.Settled]

theorem IsResolved.fillDefaults {conf : Conf} (h : conf.IsResolved) :
    fillDefaults conf = .done conf := by
  have hpos := h.serverWriteTimeoutSecs_pos
  apply Rule.run_of_settled
  rw [settled_fillRules_iff]
  exact ⟨by omega, h.publicUrl_ne, TimeZone.ne_of_isKnown h.timeZone_known⟩

theorem IsResolved.validateServer {conf : Conf} (h : conf.IsResolved) :
    validateServer conf = .done conf := by
  have hpos := h.serverWriteTimeoutSecs_pos
  apply Rule.run_of_settled
  rw [settled_serverRules_iff]
  exact ⟨h.timeZone_known, by omega, h.serverReadTimeoutSecs_nonneg⟩

/-! ## All stages -/

/-- Resolving without a fault establishes the invariants. -/
theorem isResolved_resolve {conf : Conf} (h : (resolve conf).fault = none) :
    (resolve conf).state.IsResolved := by
  obtain ⟨hserver, hredis, harchiver, hcleaner, hindexer⟩ := (resolve_fault_eq_none_iff conf).mp h
  have hfill : ∀ rule ∈ fillRules, rule.Settled conf.filledServer := by
    rw [← fillDefaults_state]
    exact Rule.settled_run orderly_fillRules (fillDefaults_fault conf)
  have hneed : ∀ rule ∈ serverRules, rule.Settled conf.filledServer := by
    have hsettled := Rule.settled_run orderly_serverRules hserver
    rwa [show (Rule.run serverRules conf.filledServer).state = conf.filledServer from
      validateServer_state _] at hsettled
  obtain ⟨-, hurl, -⟩ := (settled_fillRules_iff _).mp hfill
  obtain ⟨hzone, hwrite, hread⟩ := (settled_serverRules_iff _).mp hneed
  have redis := Block.Redis.isResolved_resolve hredis
  have archiver := Block.Archiver.isResolved_resolve harchiver
  have indexer := Block.Indexer.isResolved_resolve hindexer
  rw [Block.Redis.resolve_state hredis] at redis
  rw [Block.Archiver.resolve_state harchiver] at archiver
  rw [Block.Indexer.resolve_state hindexer] at indexer
  have cleaner := Block.Cleaner.isResolved_resolve archiver.checkIntervalSecs_pos hcleaner
  rw [Block.Cleaner.resolve_state _ hcleaner] at cleaner
  rw [resolve_state h]
  exact ⟨hwrite, hread, hurl, hzone, redis, archiver, cleaner, indexer⟩

/-- Resolving has nothing to do on a configuration that is resolved. -/
theorem IsResolved.resolve {conf : Conf} (h : conf.IsResolved) : resolve conf = .done conf := by
  have hcleaner := h.cleaner.resolve h.archiver.checkIntervalSecs_pos
  rw [Conf.resolve, h.fillDefaults, Outcome.done_andThen, validate_eq_andThen, h.validateServer,
    Outcome.done_andThen, resolveRedis, h.redis.resolve, Outcome.done_within, Outcome.done_andThen,
    resolveArchiver, h.archiver.resolve, Outcome.done_within, Outcome.done_andThen,
    resolveCleaner, hcleaner, Outcome.done_within, Outcome.done_andThen, resolveIndexer,
    h.indexer.resolve, Outcome.done_within]

end ServiceBoot.Conf
