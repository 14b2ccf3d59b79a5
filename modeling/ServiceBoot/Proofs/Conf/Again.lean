import ServiceBoot.Proofs.Conf.Resolved
import ServiceBoot.Proofs.Pass.Again

/-!
# Resolving again

Filling, validating and resolving end in the same way when they are run again on what they left, and
write nothing then. This holds of each stage by itself, and no stage touches what an earlier one
looks at.
-/

namespace ServiceBoot.Conf

open Block (Redis Archiver Cleaner Indexer Fault)

/-! ## The blocks as parts -/

def redisPart : Part Conf Redis Fault where
  get := (·.redis)
  put conf block := { conf with redis := block }
  pass _ := Redis.resolve
  get_put _ _ := rfl
  put_get _ := rfl
  put_put _ _ _ := rfl
  pass_put _ _ := rfl

def archiverPart : Part Conf Archiver Fault where
  get := (·.archiver)
  put conf block := { conf with archiver := block }
  pass _ := Archiver.resolve
  get_put _ _ := rfl
  put_get _ := rfl
  put_put _ _ _ := rfl
  pass_put _ _ := rfl

/-- The pass over the cleaner's block looks at the archiver's too. -/
def cleanerPart : Part Conf Cleaner Fault where
  get := (·.cleaner)
  put conf block := { conf with cleaner := block }
  pass conf := Cleaner.resolve conf.archiver.checkIntervalSecs
  get_put _ _ := rfl
  put_get _ := rfl
  put_put _ _ _ := rfl
  pass_put _ _ := rfl

def indexerPart : Part Conf Indexer Fault where
  get := (·.indexer)
  put conf block := { conf with indexer := block }
  pass _ := Indexer.resolve
  get_put _ _ := rfl
  put_get _ := rfl
  put_put _ _ _ := rfl
  pass_put _ _ := rfl

theorem repeats_resolveRedis : Repeats resolveRedis :=
  redisPart.repeats fun _ ↦ Rule.run_again Redis.orderly_rules

theorem repeats_resolveArchiver : Repeats resolveArchiver :=
  archiverPart.repeats fun _ ↦ Rule.run_again Archiver.orderly_rules

theorem repeats_resolveCleaner : Repeats resolveCleaner :=
  cleanerPart.repeats fun _ ↦ Rule.run_again (Cleaner.orderly_rules _)

theorem repeats_resolveIndexer : Repeats resolveIndexer :=
  indexerPart.repeats fun _ ↦ Rule.run_again Indexer.orderly_rules

/-! ## The settings of the server -/

/-- A stage that changes nothing but blocks. -/
def ChangesBlocks (stage : Conf → Outcome Conf Unresolved) : Prop :=
  ∀ conf, ∃ redis archiver cleaner indexer, (stage conf).state =
    { conf with redis := redis, archiver := archiver, cleaner := cleaner, indexer := indexer }

theorem ChangesBlocks.andThen {first second : Conf → Outcome Conf Unresolved}
    (hfirst : ChangesBlocks first) (hsecond : ChangesBlocks second) :
    ChangesBlocks fun conf ↦ (first conf).andThen second := by
  intro conf
  cases hfault : (first conf).fault with
  | some fault =>
    simp only [Outcome.andThen_of_fault hfault]
    exact hfirst conf
  | none =>
    obtain ⟨redis, archiver, cleaner, indexer, hstate⟩ := hfirst conf
    simp only [Outcome.state_andThen hfault, hstate]
    exact hsecond _

theorem fillDefaults_eq_done_iff {conf : Conf} : fillDefaults conf = .done conf ↔
    conf.serverWriteTimeoutSecs ≠ 0 ∧ conf.publicUrl ≠ "" ∧ conf.timeZone ≠ "" := by
  rw [fillDefaults, Rule.run_eq_done_iff, settled_fillRules_iff]

theorem validateServer_eq_done_iff [TimeZone.Database] {conf : Conf} :
    validateServer conf = .done conf ↔
      TimeZone.isKnown conf.timeZone = true ∧ 0 < conf.serverWriteTimeoutSecs ∧
        0 ≤ conf.serverReadTimeoutSecs := by
  rw [validateServer, Rule.run_eq_done_iff, settled_serverRules_iff]

theorem rests_fillDefaults {later : Conf → Outcome Conf Unresolved} (h : ChangesBlocks later) :
    Rests fillDefaults later := by
  intro conf hdone
  obtain ⟨redis, archiver, cleaner, indexer, hstate⟩ := h conf
  rw [fillDefaults_eq_done_iff] at hdone ⊢
  rw [hstate]
  exact hdone

theorem rests_validateServer [TimeZone.Database] {later : Conf → Outcome Conf Unresolved}
    (h : ChangesBlocks later) : Rests validateServer later := by
  intro conf hdone
  obtain ⟨redis, archiver, cleaner, indexer, hstate⟩ := h conf
  rw [validateServer_eq_done_iff] at hdone ⊢
  rw [hstate]
  exact hdone

theorem changesBlocks_validateServer [TimeZone.Database] : ChangesBlocks validateServer := by
  intro conf
  rw [validateServer_state]
  exact ⟨_, _, _, _, rfl⟩

/-! ## All stages -/

/-- The stages from the one of a block on. -/
def fromCleaner (conf : Conf) : Outcome Conf Unresolved :=
  (resolveCleaner conf).andThen resolveIndexer

def fromArchiver (conf : Conf) : Outcome Conf Unresolved :=
  (resolveArchiver conf).andThen fromCleaner

def fromRedis (conf : Conf) : Outcome Conf Unresolved := (resolveRedis conf).andThen fromArchiver

theorem validate_eq [TimeZone.Database] :
    validate = fun conf ↦ (validateServer conf).andThen fromRedis := by
  funext conf
  exact validate_eq_andThen conf

/-- What the fills of all stages tell is all that resolving writes. -/
theorem writes_resolve [TimeZone.Database] {P : Log.Entry → Prop}
    (hserver : ∀ rule ∈ fillRules, rule.Tells P) (hredis : ∀ rule ∈ Redis.rules, rule.Tells P)
    (harchiver : ∀ rule ∈ Archiver.rules, rule.Tells P)
    (hcleaner : ∀ archiverIntervalSecs, ∀ rule ∈ Cleaner.rules archiverIntervalSecs, rule.Tells P)
    (hindexer : ∀ rule ∈ Indexer.rules, rule.Tells P) : Writes P resolve := by
  have hredis : Writes P resolveRedis := redisPart.writes fun _ ↦ Rule.writes_run hredis
  have harchiver : Writes P resolveArchiver := archiverPart.writes fun _ ↦ Rule.writes_run harchiver
  have hcleaner : Writes P resolveCleaner :=
    cleanerPart.writes fun _ ↦ Rule.writes_run (hcleaner _)
  have hindexer : Writes P resolveIndexer := indexerPart.writes fun _ ↦ Rule.writes_run hindexer
  have hblocks : Writes P fromRedis :=
    hredis.andThen (harchiver.andThen (hcleaner.andThen hindexer))
  have hchecks : Writes P validateServer := Rule.writes_run (by simp [serverRules, Rule.Tells])
  have hvalidate : Writes P validate := by
    rw [validate_eq]
    exact hchecks.andThen hblocks
  exact (Rule.writes_run hserver).andThen hvalidate

theorem changesBlocks_fromRedis : ChangesBlocks fromRedis := by
  have hredis : ChangesBlocks resolveRedis := fun _ ↦ ⟨_, _, _, _, rfl⟩
  have harchiver : ChangesBlocks resolveArchiver := fun _ ↦ ⟨_, _, _, _, rfl⟩
  have hcleaner : ChangesBlocks resolveCleaner := fun _ ↦ ⟨_, _, _, _, rfl⟩
  have hindexer : ChangesBlocks resolveIndexer := fun _ ↦ ⟨_, _, _, _, rfl⟩
  exact hredis.andThen (harchiver.andThen (hcleaner.andThen hindexer))

theorem repeats_fromCleaner : Repeats fromCleaner := by
  have hindexer : Rests resolveCleaner resolveIndexer :=
    cleanerPart.rests (fun _ ↦ rfl) fun _ ↦ rfl
  exact repeats_resolveCleaner.andThen repeats_resolveIndexer hindexer

theorem repeats_fromArchiver : Repeats fromArchiver := by
  have hcleaner : Rests resolveArchiver resolveCleaner :=
    archiverPart.rests (fun _ ↦ rfl) fun _ ↦ rfl
  have hindexer : Rests resolveArchiver resolveIndexer :=
    archiverPart.rests (fun _ ↦ rfl) fun _ ↦ rfl
  exact repeats_resolveArchiver.andThen repeats_fromCleaner (hcleaner.andThen hindexer)

theorem repeats_fromRedis : Repeats fromRedis := by
  have harchiver : Rests resolveRedis resolveArchiver := redisPart.rests (fun _ ↦ rfl) fun _ ↦ rfl
  have hcleaner : Rests resolveRedis resolveCleaner := redisPart.rests (fun _ ↦ rfl) fun _ ↦ rfl
  have hindexer : Rests resolveRedis resolveIndexer := redisPart.rests (fun _ ↦ rfl) fun _ ↦ rfl
  exact repeats_resolveRedis.andThen repeats_fromArchiver
    (harchiver.andThen (hcleaner.andThen hindexer))

theorem repeats_fillDefaults : Repeats fillDefaults := Rule.run_again orderly_fillRules

theorem repeats_validate [TimeZone.Database] : Repeats validate := by
  have hserver : Repeats validateServer := Rule.run_again orderly_serverRules
  rw [validate_eq]
  exact hserver.andThen repeats_fromRedis (rests_validateServer changesBlocks_fromRedis)

theorem changesBlocks_validate [TimeZone.Database] : ChangesBlocks validate := by
  rw [validate_eq]
  exact changesBlocks_validateServer.andThen changesBlocks_fromRedis

theorem repeats_resolve [TimeZone.Database] : Repeats resolve :=
  repeats_fillDefaults.andThen repeats_validate (rests_fillDefaults changesBlocks_validate)

/-- However often resolving, filling or validating is run again, each on what the run before left,
it ends as the first time, with the same fault if there was one; nothing changes any more, and
nothing is written. -/
theorem rerun_resolve_fillDefaults_validate [TimeZone.Database] (conf : Conf) (n : Nat) :
    rerun resolve (n + 1) conf = (resolve conf).silent ∧
      rerun fillDefaults (n + 1) conf = (fillDefaults conf).silent ∧
      rerun validate (n + 1) conf = (validate conf).silent :=
  ⟨repeats_resolve.rerun n conf, repeats_fillDefaults.rerun n conf, repeats_validate.rerun n conf⟩

end ServiceBoot.Conf
