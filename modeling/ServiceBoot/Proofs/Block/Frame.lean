import ServiceBoot.Proofs.Block.Filled

/-!
# What a pass may change of a block

A pass leaves each field of a block as it was, or fills it with its default if it was zero or empty.
This holds wherever the pass ends, since every rule keeps it. Fields without a default never change.
-/

namespace ServiceBoot

/-- A value is left as it was, or it was the empty one and became the default. -/
def LeftOrFilled {α : Type} (empty default before after : α) : Prop :=
  after = before ∨ before = empty ∧ after = default

theorem LeftOrFilled.refl {α : Type} {empty default : α} (before : α) :
    LeftOrFilled empty default before before := .inl rfl

/-- What is empty by now was empty before. -/
theorem LeftOrFilled.fill {α : Type} {empty default before now : α}
    (h : LeftOrFilled empty default before now) (hnow : now = empty) :
    LeftOrFilled empty default before default := by
  rcases h with hleft | ⟨hbefore, -⟩
  · exact .inr ⟨hleft ▸ hnow, rfl⟩
  · exact .inr ⟨hbefore, rfl⟩

theorem leftOrFilled_fillInt (n default : Int) : LeftOrFilled 0 default n (fillInt n default) := by
  unfold fillInt
  split
  · exact .inr ⟨‹n = 0›, rfl⟩
  · exact .inl rfl

theorem leftOrFilled_fillText (text default : String) :
    LeftOrFilled "" default text (fillText text default) := by
  unfold fillText
  split
  · exact .inr ⟨‹text = ""›, rfl⟩
  · exact .inl rfl

namespace Block

/-! ## Redis -/

namespace Redis

structure MayBecome (before after : Redis) : Prop where
  host : LeftOrFilled "" "localhost" before.host after.host
  port : LeftOrFilled 0 6379 before.port after.port
  db : after.db = before.db
  password : after.password = before.password
  queueKey : after.queueKey = before.queueKey
  failedQueueKey : LeftOrFilled "" (before.queueKey ++ "_failed") before.failedQueueKey
    after.failedQueueKey
  failedRecordsKey : LeftOrFilled "" (before.queueKey ++ "_failed_records") before.failedRecordsKey
    after.failedRecordsKey

theorem MayBecome.refl (block : Redis) : block.MayBecome block :=
  ⟨.refl _, .refl _, rfl, rfl, rfl, .refl _, .refl _⟩

/-- The derived keys come from the key of the queue as it was before. -/
theorem mayBecome_resolve (block : Redis) : block.MayBecome block.resolve.state := by
  apply Rule.run_state_keeps _ (MayBecome.refl block)
  simp only [rules, List.forall_mem_cons, Rule.keeps_need, Rule.keeps_fill, beq_iff_eq, true_and]
  refine ⟨?host, ?port, ?failedQueueKey, ?failedRecordsKey, List.forall_mem_nil _⟩
  case host =>
    intro now hmissing h
    exact { h with host := h.host.fill hmissing }
  case port =>
    intro now hmissing h
    exact { h with port := h.port.fill hmissing }
  case failedQueueKey =>
    intro now hmissing h
    have hfilled := h.failedQueueKey.fill hmissing
    exact { h with failedQueueKey := h.queueKey ▸ hfilled }
  case failedRecordsKey =>
    intro now hmissing h
    have hfilled := h.failedRecordsKey.fill hmissing
    exact { h with failedRecordsKey := h.queueKey ▸ hfilled }

end Redis

/-! ## Archiver -/

namespace Archiver

structure MayBecome (before after : Archiver) : Prop where
  ddStateFilePath : after.ddStateFilePath = before.ddStateFilePath
  checkIntervalSecs : LeftOrFilled 0 60 before.checkIntervalSecs after.checkIntervalSecs
  checkIntervalChunk : LeftOrFilled 0 100 before.checkIntervalChunk after.checkIntervalChunk
  preloadLastNItems : after.preloadLastNItems = before.preloadLastNItems

theorem MayBecome.refl (block : Archiver) : block.MayBecome block := ⟨rfl, .refl _, .refl _, rfl⟩

theorem mayBecome_resolve (block : Archiver) : block.MayBecome block.resolve.state := by
  apply Rule.run_state_keeps _ (MayBecome.refl block)
  simp only [rules, List.forall_mem_cons, Rule.keeps_need, Rule.keeps_fill, beq_iff_eq, true_and]
  refine ⟨?checkIntervalSecs, ?checkIntervalChunk, List.forall_mem_nil _⟩
  case checkIntervalSecs =>
    intro now hmissing h
    exact { h with checkIntervalSecs := h.checkIntervalSecs.fill hmissing }
  case checkIntervalChunk =>
    intro now hmissing h
    exact { h with checkIntervalChunk := h.checkIntervalChunk.fill hmissing }

end Archiver

/-! ## Cleaner -/

namespace Cleaner

structure MayBecome (before after : Cleaner) : Prop where
  checkIntervalSecs : LeftOrFilled 0 3600 before.checkIntervalSecs after.checkIntervalSecs
  numProcessItemsPerTurn :
    LeftOrFilled 0 50 before.numProcessItemsPerTurn after.numProcessItemsPerTurn
  minAgeDaysUnvisited : LeftOrFilled 0 365 before.minAgeDaysUnvisited after.minAgeDaysUnvisited
  statusKey : LeftOrFilled "" "camus_cleanup_status" before.statusKey after.statusKey

theorem MayBecome.refl (block : Cleaner) : block.MayBecome block :=
  ⟨.refl _, .refl _, .refl _, .refl _⟩

theorem mayBecome_resolve (archiverIntervalSecs : Int) (block : Cleaner) :
    block.MayBecome (block.resolve archiverIntervalSecs).state := by
  apply Rule.run_state_keeps _ (MayBecome.refl block)
  simp only [rules, List.forall_mem_cons, Rule.keeps_need, Rule.keeps_fill, beq_iff_eq, true_and]
  refine ⟨?checkIntervalSecs, ?numProcessItemsPerTurn, ?minAgeDaysUnvisited, ?statusKey,
    List.forall_mem_nil _⟩
  case checkIntervalSecs =>
    intro now hmissing h
    exact { h with checkIntervalSecs := h.checkIntervalSecs.fill hmissing }
  case numProcessItemsPerTurn =>
    intro now hmissing h
    exact { h with numProcessItemsPerTurn := h.numProcessItemsPerTurn.fill hmissing }
  case minAgeDaysUnvisited =>
    intro now hmissing h
    exact { h with minAgeDaysUnvisited := h.minAgeDaysUnvisited.fill hmissing }
  case statusKey =>
    intro now hmissing h
    exact { h with statusKey := h.statusKey.fill hmissing }

end Cleaner

/-! ## Indexer -/

namespace Indexer

structure MayBecome (before after : Indexer) : Prop where
  indexDirPath : after.indexDirPath = before.indexDirPath
  docRemoveChannel :
    LeftOrFilled "" "camus_doc_remove" before.docRemoveChannel after.docRemoveChannel
  queryHistoryNumPreserve :
    LeftOrFilled 0 10000 before.queryHistoryNumPreserve after.queryHistoryNumPreserve

theorem MayBecome.refl (block : Indexer) : block.MayBecome block := ⟨rfl, .refl _, .refl _⟩

theorem mayBecome_resolve (block : Indexer) : block.MayBecome block.resolve.state := by
  apply Rule.run_state_keeps _ (MayBecome.refl block)
  simp only [rules, List.forall_mem_cons, Rule.keeps_need, Rule.keeps_fill, beq_iff_eq, true_and]
  refine ⟨?docRemoveChannel, ?queryHistoryNumPreserve, List.forall_mem_nil _⟩
  case docRemoveChannel =>
    intro now hmissing h
    exact { h with docRemoveChannel := h.docRemoveChannel.fill hmissing }
  case queryHistoryNumPreserve =>
    intro now hmissing h
    exact { h with queryHistoryNumPreserve := h.queryHistoryNumPreserve.fill hmissing }

end Indexer

end Block

end ServiceBoot
