import ServiceBoot.Block.Archiver
import ServiceBoot.Block.Cleaner
import ServiceBoot.Block.Indexer
import ServiceBoot.Block.Redis
import ServiceBoot.Proofs.Pass

/-!
# Resolved blocks

The invariants of the blocks that are filled and checked. A pass that ends without a fault
establishes them, and a pass over a block that has them does nothing.
-/

namespace ServiceBoot.Block

/-! ## Redis -/

namespace Redis

structure IsResolved (block : Redis) : Prop where
  host_ne : block.host ≠ ""
  port_pos : 1 ≤ block.port
  port_le : block.port ≤ 65535
  db_nonneg : 0 ≤ block.db
  queueKey_ne : block.queueKey ≠ ""
  failedQueueKey_ne : block.failedQueueKey ≠ ""
  failedRecordsKey_ne : block.failedRecordsKey ≠ ""

theorem failedQueueOf_ne (queueKey : String) : failedQueueOf queueKey ≠ "" := by
  simp [failedQueueOf]

theorem failedRecordsOf_ne (queueKey : String) : failedRecordsOf queueKey ≠ "" := by
  simp [failedRecordsOf]

theorem orderly_rules : Rule.Orderly rules := by
  constructor
  · simp [rules, Rule.Completes, defaultHost, defaultPort, failedQueueOf_ne, failedRecordsOf_ne]
  · simp [rules, Rule.Settled, defaultHost, defaultPort]

theorem settled_rules_iff (block : Redis) : (∀ rule ∈ rules, rule.Settled block) ↔
    block.host ≠ "" ∧ block.port ≠ 0 ∧ (0 < block.port ∧ block.port < 65536) ∧ 0 ≤ block.db ∧
      block.queueKey ≠ "" ∧ block.failedQueueKey ≠ "" ∧ block.failedRecordsKey ≠ "" := by
  simp [rules, Rule.Settled]

theorem isResolved_iff (block : Redis) :
    block.IsResolved ↔ ∀ rule ∈ rules, rule.Settled block := by
  rw [settled_rules_iff]
  constructor
  · rintro ⟨hhost, hpos, hle, hdb, hqueue, hfailed, hrecords⟩
    exact ⟨hhost, by omega, by omega, hdb, hqueue, hfailed, hrecords⟩
  · rintro ⟨hhost, -, ⟨hpos, hlt⟩, hdb, hqueue, hfailed, hrecords⟩
    exact ⟨hhost, by omega, by omega, hdb, hqueue, hfailed, hrecords⟩

theorem isResolved_resolve {block : Redis} (h : block.resolve.fault = none) :
    block.resolve.state.IsResolved := by
  rw [isResolved_iff]
  exact Rule.settled_run orderly_rules h

theorem IsResolved.resolve {block : Redis} (h : block.IsResolved) :
    block.resolve = .done block := by
  apply Rule.run_of_settled
  rwa [← isResolved_iff]

end Redis

/-! ## Archiver -/

namespace Archiver

structure IsResolved (block : Archiver) : Prop where
  ddStateFilePath_ne : block.ddStateFilePath ≠ ""
  checkIntervalSecs_pos : 1 ≤ block.checkIntervalSecs
  checkIntervalChunk_pos : 1 ≤ block.checkIntervalChunk
  preloadLastNItems_nonneg : 0 ≤ block.preloadLastNItems

theorem orderly_rules : Rule.Orderly rules := by
  constructor
  · simp [rules, Rule.Completes, defaultIntervalSecs, defaultIntervalChunk]
  · simp [rules, Rule.Settled, defaultIntervalSecs, defaultIntervalChunk]

theorem settled_rules_iff (block : Archiver) : (∀ rule ∈ rules, rule.Settled block) ↔
    block.ddStateFilePath ≠ "" ∧ 0 ≤ block.checkIntervalSecs ∧ block.checkIntervalSecs ≠ 0 ∧
      0 ≤ block.checkIntervalChunk ∧ block.checkIntervalChunk ≠ 0 ∧
      0 ≤ block.preloadLastNItems := by
  simp [rules, Rule.Settled]

theorem isResolved_iff (block : Archiver) :
    block.IsResolved ↔ ∀ rule ∈ rules, rule.Settled block := by
  rw [settled_rules_iff]
  constructor
  · rintro ⟨hpath, hsecs, hchunk, hpreload⟩
    exact ⟨hpath, by omega, by omega, by omega, by omega, hpreload⟩
  · rintro ⟨hpath, hsecs, hsecs', hchunk, hchunk', hpreload⟩
    exact ⟨hpath, by omega, by omega, hpreload⟩

theorem isResolved_resolve {block : Archiver} (h : block.resolve.fault = none) :
    block.resolve.state.IsResolved := by
  rw [isResolved_iff]
  exact Rule.settled_run orderly_rules h

theorem IsResolved.resolve {block : Archiver} (h : block.IsResolved) :
    block.resolve = .done block := by
  apply Rule.run_of_settled
  rwa [← isResolved_iff]

end Archiver

/-! ## Cleaner -/

namespace Cleaner

/-- The archiver's interval is taken as resolved too. -/
structure IsResolved (archiverIntervalSecs : Int) (block : Cleaner) : Prop where
  checkIntervalSecs_ge : 2 * archiverIntervalSecs ≤ block.checkIntervalSecs
  numProcessItemsPerTurn_pos : 1 ≤ block.numProcessItemsPerTurn
  minAgeDaysUnvisited_pos : 1 ≤ block.minAgeDaysUnvisited
  statusKey_ne : block.statusKey ≠ ""

theorem orderly_rules (archiverIntervalSecs : Int) :
    Rule.Orderly (rules archiverIntervalSecs) := by
  constructor
  · simp [rules, Rule.Completes, defaultIntervalSecs, defaultItemsPerTurn, defaultMinAgeDays,
      defaultStatusKey]
  · simp [rules, Rule.Settled, defaultIntervalSecs, defaultItemsPerTurn, defaultMinAgeDays]

theorem settled_rules_iff (archiverIntervalSecs : Int) (block : Cleaner) :
    (∀ rule ∈ rules archiverIntervalSecs, rule.Settled block) ↔
      0 ≤ block.checkIntervalSecs ∧ block.checkIntervalSecs ≠ 0 ∧
        turnsPerCleaning * archiverIntervalSecs ≤ block.checkIntervalSecs ∧
        0 ≤ block.numProcessItemsPerTurn ∧ block.numProcessItemsPerTurn ≠ 0 ∧
        0 ≤ block.minAgeDaysUnvisited ∧ block.minAgeDaysUnvisited ≠ 0 ∧
        block.statusKey ≠ "" := by
  simp [rules, Rule.Settled]

theorem isResolved_iff {archiverIntervalSecs : Int} (h : 1 ≤ archiverIntervalSecs)
    (block : Cleaner) : block.IsResolved archiverIntervalSecs ↔
      ∀ rule ∈ rules archiverIntervalSecs, rule.Settled block := by
  have hturns : (turnsPerCleaning : Int) = 2 := rfl
  rw [settled_rules_iff, hturns]
  constructor
  · rintro ⟨hsecs, hitems, hage, hkey⟩
    exact ⟨by omega, by omega, hsecs, by omega, by omega, by omega, by omega, hkey⟩
  · rintro ⟨-, -, hsecs, hitems, hitems', hage, hage', hkey⟩
    exact ⟨hsecs, by omega, by omega, hkey⟩

theorem isResolved_resolve {archiverIntervalSecs : Int} (ha : 1 ≤ archiverIntervalSecs)
    {block : Cleaner} (h : (block.resolve archiverIntervalSecs).fault = none) :
    (block.resolve archiverIntervalSecs).state.IsResolved archiverIntervalSecs := by
  rw [isResolved_iff ha]
  exact Rule.settled_run (orderly_rules archiverIntervalSecs) h

theorem IsResolved.resolve {archiverIntervalSecs : Int} (ha : 1 ≤ archiverIntervalSecs)
    {block : Cleaner} (h : block.IsResolved archiverIntervalSecs) :
    block.resolve archiverIntervalSecs = .done block := by
  apply Rule.run_of_settled
  rwa [← isResolved_iff ha]

end Cleaner

/-! ## Indexer -/

namespace Indexer

structure IsResolved (block : Indexer) : Prop where
  indexDirPath_ne : block.indexDirPath ≠ ""
  docRemoveChannel_ne : block.docRemoveChannel ≠ ""
  queryHistoryNumPreserve_pos : 1 ≤ block.queryHistoryNumPreserve

theorem orderly_rules : Rule.Orderly rules := by
  constructor
  · simp [rules, Rule.Completes, defaultChannel, defaultNumPreserve]
  · simp [rules, Rule.Settled, defaultNumPreserve]

theorem settled_rules_iff (block : Indexer) : (∀ rule ∈ rules, rule.Settled block) ↔
    block.indexDirPath ≠ "" ∧ block.docRemoveChannel ≠ "" ∧ 0 ≤ block.queryHistoryNumPreserve ∧
      block.queryHistoryNumPreserve ≠ 0 := by
  simp [rules, Rule.Settled]

theorem isResolved_iff (block : Indexer) :
    block.IsResolved ↔ ∀ rule ∈ rules, rule.Settled block := by
  rw [settled_rules_iff]
  constructor
  · rintro ⟨hpath, hchannel, hpreserve⟩
    exact ⟨hpath, hchannel, by omega, by omega⟩
  · rintro ⟨hpath, hchannel, hpreserve, hpreserve'⟩
    exact ⟨hpath, hchannel, by omega⟩

theorem isResolved_resolve {block : Indexer} (h : block.resolve.fault = none) :
    block.resolve.state.IsResolved := by
  rw [isResolved_iff]
  exact Rule.settled_run orderly_rules h

theorem IsResolved.resolve {block : Indexer} (h : block.IsResolved) :
    block.resolve = .done block := by
  apply Rule.run_of_settled
  rwa [← isResolved_iff]

end Indexer

end ServiceBoot.Block
