import ServiceBoot.Proofs.Block.Frame
import ServiceBoot.Proofs.Conf.Again
import ServiceBoot.TimeZone.Table

/-!
# What resolving may change of a configuration

Resolving leaves each field of a configuration as it was, or fills it with its default if it was
zero or empty. The settings of the server are filled in every run. If a run fails in a stage, the
blocks of later stages are as they were given, and those of earlier stages have everything filled.
-/

namespace ServiceBoot

/-- The position of a block among the stages, of which the server's comes first. -/
def Subsystem.stage : Subsystem → Nat
  | .redis => 1
  | .archiver => 2
  | .cleaner => 3
  | .indexer => 4

/-- The stage that ends a run with a fault. -/
def Unresolved.stage : Unresolved → Nat
  | .invalid (.block subsystem _) => subsystem.stage
  | .invalid _ => 0
  | .unsearchable _ => 0

namespace Conf

/-- What may become of a configuration, whatever is wrong with it. -/
structure MayBecome (before after : Conf) : Prop where
  sourcePath : after.sourcePath = before.sourcePath
  listenAddress : after.listenAddress = before.listenAddress
  publicUrl : LeftOrFilled "" ("http://" ++ before.listenAddress) before.publicUrl after.publicUrl
  listenPort : after.listenPort = before.listenPort
  serverReadTimeoutSecs : after.serverReadTimeoutSecs = before.serverReadTimeoutSecs
  serverWriteTimeoutSecs :
    LeftOrFilled 0 30 before.serverWriteTimeoutSecs after.serverWriteTimeoutSecs
  corsAllowedOrigins : after.corsAllowedOrigins = before.corsAllowedOrigins
  timeZone : LeftOrFilled "" "Europe/Prague" before.timeZone after.timeZone
  authHeaderName : after.authHeaderName = before.authHeaderName
  authTokens : after.authTokens = before.authTokens
  logging : after.logging = before.logging
  redis : before.redis.MayBecome after.redis
  db : after.db = before.db
  archiver : before.archiver.MayBecome after.archiver
  indexer : before.indexer.MayBecome after.indexer
  cleaner : before.cleaner.MayBecome after.cleaner
  reporting : after.reporting = before.reporting

/-- Two configurations have the same block for a subsystem. -/
def SameBlock (conf other : Conf) : Subsystem → Prop
  | .redis => conf.redis = other.redis
  | .archiver => conf.archiver = other.archiver
  | .cleaner => conf.cleaner = other.cleaner
  | .indexer => conf.indexer = other.indexer

/-! ## The course of a run -/

/-- The settings of the server filled, with the blocks that a run has reached. -/
def withBlocks (conf : Conf) (redis : Block.Redis) (archiver : Block.Archiver)
    (cleaner : Block.Cleaner) (indexer : Block.Indexer) : Conf :=
  { conf.filledServer with
    redis := redis
    archiver := archiver
    cleaner := cleaner
    indexer := indexer }

theorem mayBecome_withBlocks {conf : Conf} {redis : Block.Redis} {archiver : Block.Archiver}
    {cleaner : Block.Cleaner} {indexer : Block.Indexer} (hredis : conf.redis.MayBecome redis)
    (harchiver : conf.archiver.MayBecome archiver) (hcleaner : conf.cleaner.MayBecome cleaner)
    (hindexer : conf.indexer.MayBecome indexer) :
    conf.MayBecome (conf.withBlocks redis archiver cleaner indexer) where
  sourcePath := rfl
  listenAddress := rfl
  publicUrl := leftOrFilled_fillText ..
  listenPort := rfl
  serverReadTimeoutSecs := rfl
  serverWriteTimeoutSecs := leftOrFilled_fillInt ..
  corsAllowedOrigins := rfl
  timeZone := leftOrFilled_fillText ..
  authHeaderName := rfl
  authTokens := rfl
  logging := rfl
  redis := hredis
  db := rfl
  archiver := harchiver
  indexer := hindexer
  cleaner := hcleaner
  reporting := rfl

/-- The pass over the cleaner's block in a run: the archiver's has been gone over by then. -/
def cleanerOutcome (conf : Conf) : Outcome Block.Cleaner Block.Fault :=
  conf.cleaner.resolve conf.archiver.resolve.state.checkIntervalSecs

/-- The ways that a run can go, with the state and the fault that it ends with: a stage finds a
fault after the ones before it found none, or the last stage is reached and decides. -/
inductive Course [TimeZone.Database] (conf : Conf) : Conf → Option Unresolved → Prop
  | server {reason : Unresolved} :
      (validateServer conf.filledServer).fault = some reason →
      Course conf (conf.withBlocks conf.redis conf.archiver conf.cleaner conf.indexer) (some reason)
  | redis {fault : Block.Fault} :
      conf.redis.resolve.fault = some fault →
      Course conf (conf.withBlocks conf.redis.resolve.state conf.archiver conf.cleaner conf.indexer)
        (some (.ofBlock .redis fault))
  | archiver {fault : Block.Fault} :
      conf.redis.resolve.fault = none →
      conf.archiver.resolve.fault = some fault →
      Course conf
        (conf.withBlocks conf.redis.resolve.state conf.archiver.resolve.state conf.cleaner
          conf.indexer)
        (some (.ofBlock .archiver fault))
  | cleaner {fault : Block.Fault} :
      conf.redis.resolve.fault = none →
      conf.archiver.resolve.fault = none →
      conf.cleanerOutcome.fault = some fault →
      Course conf
        (conf.withBlocks conf.redis.resolve.state conf.archiver.resolve.state
          conf.cleanerOutcome.state conf.indexer)
        (some (.ofBlock .cleaner fault))
  | indexer {fault : Option Block.Fault} :
      conf.redis.resolve.fault = none →
      conf.archiver.resolve.fault = none →
      conf.cleanerOutcome.fault = none →
      conf.indexer.resolve.fault = fault →
      Course conf
        (conf.withBlocks conf.redis.resolve.state conf.archiver.resolve.state
          conf.cleanerOutcome.state conf.indexer.resolve.state)
        (fault.map (.ofBlock .indexer))

theorem course_fromArchiver [TimeZone.Database] {conf : Conf}
    (hredis : conf.redis.resolve.fault = none) :
    let now := conf.withBlocks conf.redis.resolve.state conf.archiver conf.cleaner conf.indexer
    Course conf (fromArchiver now).state (fromArchiver now).fault := by
  intro now
  apply Outcome.ending_andThen
  case stop =>
    intro reason hstop
    obtain ⟨fault, harchiver, rfl⟩ := Option.map_eq_some_iff.mp hstop
    exact .archiver hredis harchiver
  intro hgo
  have harchiver : conf.archiver.resolve.fault = none := Option.map_eq_none_iff.mp hgo
  apply Outcome.ending_andThen
  case stop =>
    intro reason hstop
    obtain ⟨fault, hcleaner, rfl⟩ := Option.map_eq_some_iff.mp hstop
    exact .cleaner hredis harchiver hcleaner
  intro hgo
  have hcleaner : conf.cleanerOutcome.fault = none := Option.map_eq_none_iff.mp hgo
  exact .indexer hredis harchiver hcleaner rfl

/-- Each stage meets its block as it was given. -/
theorem course [TimeZone.Database] (conf : Conf) :
    Course conf (resolve conf).state (resolve conf).fault := by
  rw [resolve, Outcome.state_andThen (fillDefaults_fault conf), Outcome.fault_andThen,
    fillDefaults_fault, Option.none_or, fillDefaults_state, validate_eq]
  apply Outcome.ending_andThen
  case stop =>
    intro reason hserver
    rw [validateServer_state]
    exact .server hserver
  intro hserver
  rw [validateServer_state]
  apply Outcome.ending_andThen
  case stop =>
    intro reason hstop
    obtain ⟨fault, hredis, rfl⟩ := Option.map_eq_some_iff.mp hstop
    exact .redis hredis
  intro hgo
  exact course_fromArchiver (Option.map_eq_none_iff.mp hgo)

/-! ## What is left, and what is filled -/

theorem mayBecome_resolve [TimeZone.Database] (conf : Conf) :
    conf.MayBecome (resolve conf).state := by
  have hredis := Block.Redis.mayBecome_resolve conf.redis
  have harchiver := Block.Archiver.mayBecome_resolve conf.archiver
  have hcleaner : conf.cleaner.MayBecome conf.cleanerOutcome.state :=
    Block.Cleaner.mayBecome_resolve _ conf.cleaner
  have hindexer := Block.Indexer.mayBecome_resolve conf.indexer
  have hcourse := course conf
  generalize (resolve conf).state = state, (resolve conf).fault = fault at hcourse ⊢
  cases hcourse with
  | server => exact mayBecome_withBlocks (.refl _) (.refl _) (.refl _) (.refl _)
  | redis => exact mayBecome_withBlocks hredis (.refl _) (.refl _) (.refl _)
  | archiver => exact mayBecome_withBlocks hredis harchiver (.refl _) (.refl _)
  | cleaner => exact mayBecome_withBlocks hredis harchiver hcleaner (.refl _)
  | indexer => exact mayBecome_withBlocks hredis harchiver hcleaner hindexer

theorem server_resolve [TimeZone.Database] (conf : Conf) :
    (resolve conf).state.serverWriteTimeoutSecs = conf.filled.serverWriteTimeoutSecs ∧
      (resolve conf).state.publicUrl = conf.filled.publicUrl ∧
      (resolve conf).state.timeZone = conf.filled.timeZone := by
  have hcourse := course conf
  generalize (resolve conf).state = state, (resolve conf).fault = fault at hcourse ⊢
  cases hcourse <;> exact ⟨rfl, rfl, rfl⟩

theorem stage_ofTimeZone [TimeZone.Database] (name : String) :
    (Unresolved.ofTimeZone name).stage = 0 := by
  unfold Unresolved.ofTimeZone
  split <;> rfl

theorem stage_of_validateServer [TimeZone.Database] {conf : Conf} {reason : Unresolved}
    (h : (validateServer conf).fault = some reason) : reason.stage = 0 := by
  rw [validateServer_fault] at h
  obtain ⟨rule, hrule, hverdict⟩ := List.exists_of_findSome?_eq_some h
  simp only [serverRules, List.mem_cons, List.not_mem_nil, or_false] at hrule
  rcases hrule with rfl | rfl | rfl
  · obtain ⟨-, rfl⟩ := Rule.verdict?_need_eq_some.mp hverdict
    exact stage_ofTimeZone conf.timeZone
  · obtain ⟨-, rfl⟩ := Rule.verdict?_need_eq_some.mp hverdict
    rfl
  · obtain ⟨-, rfl⟩ := Rule.verdict?_need_eq_some.mp hverdict
    rfl

/-- A fault stops a run in its stage: the blocks behind it are not reached, and the passes over
those before it went through. -/
theorem sameBlock_resolve [TimeZone.Database] {conf : Conf} {reason : Unresolved}
    (h : (resolve conf).fault = some reason) (subsystem : Subsystem) :
    (reason.stage < subsystem.stage → (resolve conf).state.SameBlock conf subsystem) ∧
      (subsystem.stage < reason.stage → (resolve conf).state.SameBlock conf.filled subsystem) := by
  have hcourse := course conf
  generalize (resolve conf).state = state, (resolve conf).fault = fault at hcourse h ⊢
  cases hcourse with
  | server hserver =>
    cases h
    have hstage := stage_of_validateServer hserver
    cases subsystem <;> simp [SameBlock, withBlocks, hstage]
  | redis =>
    cases h
    cases subsystem <;>
      simp [SameBlock, withBlocks, Unresolved.stage, Unresolved.ofBlock, Subsystem.stage]
  | archiver hredis =>
    cases h
    have hredis := Block.Redis.resolve_state hredis
    cases subsystem <;>
      simp [SameBlock, withBlocks, Unresolved.stage, Unresolved.ofBlock, Subsystem.stage, filled,
        hredis]
  | cleaner hredis harchiver =>
    cases h
    have hredis := Block.Redis.resolve_state hredis
    have harchiver := Block.Archiver.resolve_state harchiver
    cases subsystem <;>
      simp [SameBlock, withBlocks, Unresolved.stage, Unresolved.ofBlock, Subsystem.stage, filled,
        hredis, harchiver]
  | indexer hredis harchiver hcleaner =>
    obtain ⟨fault, -, rfl⟩ := Option.map_eq_some_iff.mp h
    have hredis := Block.Redis.resolve_state hredis
    have harchiver := Block.Archiver.resolve_state harchiver
    have hcleaner : conf.cleanerOutcome.state = conf.cleaner.filled :=
      Block.Cleaner.resolve_state _ hcleaner
    cases subsystem <;>
      simp [SameBlock, withBlocks, Unresolved.stage, Unresolved.ofBlock, Subsystem.stage, filled,
        hredis, harchiver, hcleaner]

/-- However a run of resolving ends, each field is as it was given, or it was zero or empty and has
its default. The settings of the server are filled in every run. A run that fails in a stage leaves
the blocks of later stages as they were given and those of earlier ones filled, and a run that does
not fail leaves everything filled. -/
theorem resolve_frame [TimeZone.Database] (conf : Conf) :
    conf.MayBecome (resolve conf).state ∧
      ((resolve conf).state.serverWriteTimeoutSecs = conf.filled.serverWriteTimeoutSecs ∧
        (resolve conf).state.publicUrl = conf.filled.publicUrl ∧
        (resolve conf).state.timeZone = conf.filled.timeZone) ∧
      (∀ reason, (resolve conf).fault = some reason → ∀ subsystem,
        (reason.stage < Subsystem.stage subsystem →
            (resolve conf).state.SameBlock conf subsystem) ∧
          (Subsystem.stage subsystem < reason.stage →
            (resolve conf).state.SameBlock conf.filled subsystem)) ∧
      ((resolve conf).fault = none → (resolve conf).state = conf.filled) :=
  ⟨mayBecome_resolve conf, server_resolve conf, fun _ ↦ sameBlock_resolve, resolve_state⟩

open scoped Release

/-- Its cleaner is to run more often than the archiver's interval, once filled, allows. -/
def overcleaned : Conf where
  listenAddress := "127.0.0.1"
  listenPort := 8080
  timeZone := "Africa/Cairo"
  logging := {}
  redis := { queueKey := "records" }
  db := {}
  archiver := { ddStateFilePath := "/var/state" }
  indexer := {}
  cleaner := { checkIntervalSecs := 90 }
  reporting := {}

theorem overcleaned_frame :
    (resolve overcleaned).fault = some (.ofBlock .cleaner (.tooFrequent 90 60)) ∧
      (resolve overcleaned).state.archiver = overcleaned.filled.archiver ∧
      (resolve overcleaned).state.indexer = overcleaned.indexer := by
  have hfault : (resolve overcleaned).fault = some (.ofBlock .cleaner (.tooFrequent 90 60)) := by
    decide +kernel
  obtain ⟨-, -, hblocks, -⟩ := resolve_frame overcleaned
  have hblocks := hblocks _ hfault
  exact ⟨hfault, (hblocks .archiver).2 (by decide), (hblocks .indexer).1 (by decide)⟩

end Conf

end ServiceBoot
