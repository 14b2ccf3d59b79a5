import ServiceBoot.Proofs.Conf.Again
import ServiceBoot.Proofs.Pass.Ahead

/-!
# Resolving what is filled in part

Any of the fills may be done before resolving starts. Resolving then ends as it would have ended,
and writes the same entries but that of this fill.
-/

namespace ServiceBoot

namespace Block

theorem Redis.precedable_rules : Redis.rules.Pairwise Rule.Precedable := by
  simp [Redis.rules, Rule.precedable_fills]

theorem Archiver.precedable_rules : Archiver.rules.Pairwise Rule.Precedable := by
  simp [Archiver.rules, Rule.precedable_fills]

theorem Cleaner.precedable_rules (archiverIntervalSecs : Int) :
    (Cleaner.rules archiverIntervalSecs).Pairwise Rule.Precedable := by
  simp [Cleaner.rules, Rule.precedable_fills]

theorem Indexer.precedable_rules : Indexer.rules.Pairwise Rule.Precedable := by
  simp [Indexer.rules, Rule.precedable_fills]

end Block

namespace Conf

open Block (Redis Archiver Cleaner Indexer)

theorem precedable_fillRules : fillRules.Pairwise Rule.Precedable := by
  simp [fillRules, Rule.precedable_fills]

/-- A move of the blocks that are resolved. -/
def moveBlocks (redis : Redis → Redis) (archiver : Archiver → Archiver)
    (cleaner : Cleaner → Cleaner) (indexer : Indexer → Indexer) (conf : Conf) : Conf :=
  { conf with
    redis := redis conf.redis
    archiver := archiver conf.archiver
    cleaner := cleaner conf.cleaner
    indexer := indexer conf.indexer }

theorem lift_redisPart (move : Redis → Redis) :
    redisPart.lift move = moveBlocks move id id id := rfl

theorem lift_archiverPart (move : Archiver → Archiver) :
    archiverPart.lift move = moveBlocks id move id id := rfl

theorem lift_cleanerPart (move : Cleaner → Cleaner) :
    cleanerPart.lift move = moveBlocks id id move id := rfl

theorem lift_indexerPart (move : Indexer → Indexer) :
    indexerPart.lift move = moveBlocks id id id move := rfl

section

variable (redis : Redis → Redis) (archiver : Archiver → Archiver) (cleaner : Cleaner → Cleaner)
  (indexer : Indexer → Indexer)

theorem defers_fillDefaults : Defers (moveBlocks redis archiver cleaner indexer) fillDefaults := by
  apply Rule.defers_run
  simp [fillRules, Rule.Ignores, moveBlocks]

theorem defers_validateServer [TimeZone.Database] :
    Defers (moveBlocks redis archiver cleaner indexer) validateServer := by
  apply Rule.defers_run
  simp [serverRules, Rule.Ignores, moveBlocks]

theorem defers_resolveRedis : Defers (moveBlocks id archiver cleaner indexer) resolveRedis :=
  fun _ ↦ rfl

theorem defers_resolveArchiver : Defers (moveBlocks id id cleaner indexer) resolveArchiver :=
  fun _ ↦ rfl

theorem defers_resolveCleaner : Defers (moveBlocks id id id indexer) resolveCleaner :=
  fun _ ↦ rfl

end

variable {keep : Log.Entry → Bool}

theorem hides_resolve_of_fromRedis [TimeZone.Database] {redis : Redis → Redis}
    {archiver : Archiver → Archiver} {cleaner : Cleaner → Cleaner} {indexer : Indexer → Indexer}
    (h : Hides keep (moveBlocks redis archiver cleaner indexer) fromRedis) :
    Hides keep (moveBlocks redis archiver cleaner indexer) resolve := by
  have hvalidate : Hides keep (moveBlocks redis archiver cleaner indexer) validate := by
    rw [validate_eq]
    exact (defers_validateServer _ _ _ _).andThen h
  exact (defers_fillDefaults _ _ _ _).andThen hvalidate

theorem hides_server [TimeZone.Database] {rule : Rule Conf Unresolved} (hrule : rule ∈ fillRules)
    (h : rule.Tells (keep · = false)) : Hides keep rule.advance resolve := by
  have hsteady : Rule.Steady fillRules := by simp [Rule.Steady, fillRules, Rule.verdict?]
  have hfill : Hides keep rule.advance fillDefaults :=
    Rule.seen_run_advance hsteady precedable_fillRules orderly_fillRules.completes hrule h
  exact hfill.andThen validate

theorem hides_redis [TimeZone.Database] {rule : Rule Redis Block.Fault} (hrule : rule ∈ Redis.rules)
    (h : rule.Tells (keep · = false)) : Hides keep (redisPart.lift rule.advance) resolve := by
  have hstage : Hides keep (redisPart.lift rule.advance) resolveRedis :=
    redisPart.hides fun _ ↦ Rule.seen_run_advance Redis.steady_rules Redis.precedable_rules
      Redis.orderly_rules.completes hrule h
  rw [lift_redisPart] at hstage ⊢
  exact hides_resolve_of_fromRedis (hstage.andThen fromArchiver)

theorem hides_archiver [TimeZone.Database] {rule : Rule Archiver Block.Fault}
    (hrule : rule ∈ Archiver.rules) (h : rule.Tells (keep · = false)) :
    Hides keep (archiverPart.lift rule.advance) resolve := by
  have hstage : Hides keep (archiverPart.lift rule.advance) resolveArchiver :=
    archiverPart.hides fun _ ↦ Rule.seen_run_advance Archiver.steady_rules
      Archiver.precedable_rules Archiver.orderly_rules.completes hrule h
  rw [lift_archiverPart] at hstage ⊢
  exact hides_resolve_of_fromRedis
    ((defers_resolveRedis _ _ _).andThen (hstage.andThen fromCleaner))

/-- The rules of the cleaner are those under any interval of the archiver. -/
theorem hides_cleaner [TimeZone.Database] {rule : Rule Cleaner Block.Fault}
    (hrule : ∀ archiverIntervalSecs, rule ∈ Cleaner.rules archiverIntervalSecs)
    (h : rule.Tells (keep · = false)) : Hides keep (cleanerPart.lift rule.advance) resolve := by
  have hstage : Hides keep (cleanerPart.lift rule.advance) resolveCleaner :=
    cleanerPart.hides fun _ ↦ Rule.seen_run_advance (Cleaner.steady_rules _)
      (Cleaner.precedable_rules _) (Cleaner.orderly_rules _).completes (hrule _) h
  rw [lift_cleanerPart] at hstage ⊢
  exact hides_resolve_of_fromRedis ((defers_resolveRedis _ _ _).andThen
    ((defers_resolveArchiver _ _).andThen (hstage.andThen resolveIndexer)))

theorem hides_indexer [TimeZone.Database] {rule : Rule Indexer Block.Fault}
    (hrule : rule ∈ Indexer.rules) (h : rule.Tells (keep · = false)) :
    Hides keep (indexerPart.lift rule.advance) resolve := by
  have hstage : Hides keep (indexerPart.lift rule.advance) resolveIndexer :=
    indexerPart.hides fun _ ↦ Rule.seen_run_advance Indexer.steady_rules Indexer.precedable_rules
      Indexer.orderly_rules.completes hrule h
  rw [lift_indexerPart] at hstage ⊢
  exact hides_resolve_of_fromRedis ((defers_resolveRedis _ _ _).andThen
    ((defers_resolveArchiver _ _).andThen ((defers_resolveCleaner _).andThen hstage)))

end Conf

end ServiceBoot
