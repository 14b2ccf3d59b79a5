import ServiceBoot.Conf.Resolve
import ServiceBoot.Proofs.Block.Filled

/-!
# Filled configurations

The configuration with everything filled that was left out, and what resolving does in terms of it:
the fault is that of the first stage which finds one in the filled configuration, and without a
fault the filled configuration is what is left.
-/

namespace ServiceBoot.Conf

/-- The settings of the server filled, and the blocks as they are. -/
def filledServer (conf : Conf) : Conf :=
  { conf with
    serverWriteTimeoutSecs := fillInt conf.serverWriteTimeoutSecs defaultWriteTimeoutSecs
    publicUrl := fillText conf.publicUrl (publicUrlOf conf.listenAddress)
    timeZone := fillText conf.timeZone defaultTimeZone }

def filled (conf : Conf) : Conf :=
  { conf.filledServer with
    redis := conf.redis.filled
    archiver := conf.archiver.filled
    cleaner := conf.cleaner.filled
    indexer := conf.indexer.filled }

/-! ## The stages of the server -/

theorem filled_fillRules (conf : Conf) : Rule.filled fillRules conf = conf.filledServer := by
  by_cases htimeout : conf.serverWriteTimeoutSecs = 0 <;> by_cases hurl : conf.publicUrl = "" <;>
    by_cases hzone : conf.timeZone = "" <;>
    simp [fillRules, Rule.advance, filledServer, fillInt, fillText, htimeout, hurl, hzone]

theorem fillDefaults_fault (conf : Conf) : (fillDefaults conf).fault = none := by
  have hsteady : Rule.Steady fillRules := by simp [Rule.Steady, fillRules, Rule.verdict?]
  unfold fillDefaults
  rw [Rule.run_fault hsteady]
  simp [fillRules, Rule.verdict?]

theorem fillDefaults_state (conf : Conf) : (fillDefaults conf).state = conf.filledServer := by
  calc
    _ = Rule.filled fillRules conf := Rule.run_state_of_fault_eq_none (fillDefaults_fault conf)
    _ = conf.filledServer := filled_fillRules conf

variable [TimeZone.Database]

theorem validateServer_state (conf : Conf) : (validateServer conf).state = conf := by
  apply Rule.run_state_keeps (P := (· = conf)) _ rfl
  simp [serverRules]

theorem validateServer_fault (conf : Conf) :
    (validateServer conf).fault = serverRules.findSome? (·.verdict? conf) := by
  have hsteady : Rule.Steady serverRules := by simp [Rule.Steady, serverRules]
  unfold validateServer
  rw [Rule.run_fault hsteady]
  rfl

/-! ## All stages -/

theorem validate_eq_andThen (conf : Conf) : validate conf =
    (validateServer conf).andThen fun conf ↦ (resolveRedis conf).andThen fun conf ↦
      (resolveArchiver conf).andThen fun conf ↦ (resolveCleaner conf).andThen resolveIndexer := by
  simp only [validate, Outcome.andThen_assoc]

/-- The blocks are still as they were given when it is their turn. -/
theorem resolve_fault_eq_or (conf : Conf) : (resolve conf).fault =
    (validateServer conf.filledServer).fault.or
      ((conf.redis.resolve.fault.map (.ofBlock .redis)).or
        ((conf.archiver.resolve.fault.map (.ofBlock .archiver)).or
          (((conf.cleaner.resolve conf.archiver.resolve.state.checkIntervalSecs).fault.map
              (.ofBlock .cleaner)).or
            (conf.indexer.resolve.fault.map (.ofBlock .indexer))))) := by
  simp only [resolve, Outcome.fault_andThen, fillDefaults_fault, fillDefaults_state,
    Option.none_or, validate_eq_andThen, validateServer_state, resolveRedis, resolveArchiver,
    resolveCleaner, resolveIndexer, Outcome.fault_within, Outcome.state_within]
  rfl

/-- The cleaner is checked against the archiver's interval as it is filled. -/
theorem resolve_fault (conf : Conf) : (resolve conf).fault =
    (validateServer conf.filledServer).fault.or
      ((conf.redis.resolve.fault.map (.ofBlock .redis)).or
        ((conf.archiver.resolve.fault.map (.ofBlock .archiver)).or
          (((conf.cleaner.resolve conf.archiver.filled.checkIntervalSecs).fault.map
              (.ofBlock .cleaner)).or
            (conf.indexer.resolve.fault.map (.ofBlock .indexer))))) := by
  rw [resolve_fault_eq_or]
  cases harchiver : conf.archiver.resolve.fault with
  | some fault => rfl
  | none => rw [Block.Archiver.resolve_state harchiver]

theorem resolve_fault_eq_none_iff (conf : Conf) : (resolve conf).fault = none ↔
    (validateServer conf.filledServer).fault = none ∧ conf.redis.resolve.fault = none ∧
      conf.archiver.resolve.fault = none ∧
      (conf.cleaner.resolve conf.archiver.filled.checkIntervalSecs).fault = none ∧
      conf.indexer.resolve.fault = none := by
  simp [resolve_fault]

theorem resolve_state {conf : Conf} (h : (resolve conf).fault = none) :
    (resolve conf).state = conf.filled := by
  obtain ⟨hserver, hredis, harchiver, hcleaner, hindexer⟩ := (resolve_fault_eq_none_iff conf).mp h
  have harchiver' := Block.Archiver.resolve_state harchiver
  have hvalidate : (resolve conf).state = (validate conf.filledServer).state := by
    rw [resolve, Outcome.state_andThen (fillDefaults_fault conf), fillDefaults_state]
  calc
    _ = (validate conf.filledServer).state := hvalidate
    _ = ((resolveRedis conf.filledServer).andThen fun conf ↦ (resolveArchiver conf).andThen
          fun conf ↦ (resolveCleaner conf).andThen resolveIndexer).state := by
      rw [validate_eq_andThen, Outcome.state_andThen hserver, validateServer_state]
    _ = { conf.filledServer with
          redis := conf.redis.resolve.state
          archiver := conf.archiver.resolve.state
          cleaner :=
            (conf.cleaner.resolve conf.archiver.resolve.state.checkIntervalSecs).state
          indexer := conf.indexer.resolve.state } := by
      rw [Outcome.state_andThen (congrArg (Option.map _) hredis),
        Outcome.state_andThen (congrArg (Option.map _) harchiver),
        Outcome.state_andThen (congrArg (Option.map _) (harchiver' ▸ hcleaner))]
      rfl
    _ = conf.filled := by
      rw [Block.Redis.resolve_state hredis, harchiver', Block.Cleaner.resolve_state _ hcleaner,
        Block.Indexer.resolve_state hindexer]
      rfl

end ServiceBoot.Conf
