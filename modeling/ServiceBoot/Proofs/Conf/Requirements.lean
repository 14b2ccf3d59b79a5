import ServiceBoot.Proofs.Conf.Filled
import ServiceBoot.TimeZone.Table

/-!
# Requirements of a configuration

What a configuration has to meet as it was given, in the order in which it is checked, and the report
if it does not. Resolving fills while it checks; it accepts just the configurations that meet every
requirement, and reports the first one that is violated.
-/

namespace ServiceBoot

/-- The report of an invalid configuration. -/
def Unresolved.report? : Unresolved → Option Report
  | .invalid reason => some reason.report
  | .unsearchable _ => none

namespace Conf

structure Requirement where
  holds : Conf → Bool
  report : Conf → Report

namespace Requirement

def ofField (field : String) (cause : Conf → String) (holds : Conf → Bool) : Requirement where
  holds := holds
  report conf := { cause := cause conf, field := field }

def ofBlock (subsystem : String) (cause : Conf → String) (holds : Conf → Bool) :
    Requirement where
  holds := holds
  report conf := { cause := cause conf, subsystem := subsystem }

def present (subsystem key : String) (value : Conf → String) : Requirement :=
  ofBlock subsystem (fun _ ↦ "missing " ++ key) (value · != "")

def nonnegative (subsystem key : String) (value : Conf → Int) : Requirement :=
  ofBlock subsystem (fun _ ↦ key ++ " must be a non-negative number") (0 ≤ value ·)

/-- The report of a requirement that does not hold. -/
def violation? (requirement : Requirement) (conf : Conf) : Option Report :=
  if requirement.holds conf then none else some (requirement.report conf)

end Requirement

open Requirement
open Text.Numeral (ofInt withIntegers)

def serverRequirements [TimeZone.Database] : List Requirement := [
  ofField "timeZone" (fun conf ↦ "unknown time zone '" ++ conf.filled.timeZone ++ "'")
    (TimeZone.isKnown ·.filled.timeZone),
  ofField "serverWriteTimeoutSecs" (fun _ ↦ "must be a positive number of seconds")
    (0 ≤ ·.serverWriteTimeoutSecs),
  ofField "serverReadTimeoutSecs" (fun _ ↦ "must be a non-negative number of seconds")
    (0 ≤ ·.serverReadTimeoutSecs)]

def redisRequirements : List Requirement := [
  ofBlock "redis"
    (fun conf ↦ withIntegers [conf.redis.port]
      ("port " ++ ofInt conf.redis.port ++ " out of range"))
    (fun conf ↦ 0 ≤ conf.redis.port ∧ conf.redis.port ≤ 65535),
  ofBlock "redis"
    (fun conf ↦ withIntegers [conf.redis.db]
      ("db must be a non-negative number, got " ++ ofInt conf.redis.db))
    (0 ≤ ·.redis.db),
  present "redis" "queueKey" (·.redis.queueKey)]

def archiverRequirements : List Requirement := [
  present "archiver" "ddStateFilePath" (·.archiver.ddStateFilePath),
  nonnegative "archiver" "checkIntervalSecs" (·.archiver.checkIntervalSecs),
  nonnegative "archiver" "checkIntervalChunk" (·.archiver.checkIntervalChunk),
  nonnegative "archiver" "preloadLastNItems" (·.archiver.preloadLastNItems)]

/-- The intervals are compared as they are filled. -/
def cleanerRequirements : List Requirement := [
  nonnegative "cleaner" "checkIntervalSecs" (·.cleaner.checkIntervalSecs),
  ofBlock "cleaner"
    (fun conf ↦ withIntegers
      [conf.filled.cleaner.checkIntervalSecs, conf.filled.archiver.checkIntervalSecs]
      ("checkIntervalSecs (" ++ ofInt conf.filled.cleaner.checkIntervalSecs ++
        ") must be at least 2x the archiver's checkIntervalSecs (" ++
        ofInt conf.filled.archiver.checkIntervalSecs ++ ")"))
    (fun conf ↦ 2 * conf.filled.archiver.checkIntervalSecs ≤
      conf.filled.cleaner.checkIntervalSecs),
  nonnegative "cleaner" "numProcessItemsPerTurn" (·.cleaner.numProcessItemsPerTurn),
  nonnegative "cleaner" "minAgeDaysUnvisited" (·.cleaner.minAgeDaysUnvisited)]

def indexerRequirements : List Requirement := [
  present "indexer" "indexDirPath" (·.indexer.indexDirPath),
  nonnegative "indexer" "queryHistoryNumPreserve" (·.indexer.queryHistoryNumPreserve)]

section

variable [TimeZone.Database]

def requirements : List Requirement :=
  serverRequirements ++ redisRequirements ++ archiverRequirements ++ cleanerRequirements ++
    indexerRequirements

def firstViolation? (conf : Conf) : Option Report := requirements.findSome? (·.violation? conf)

end

/-! ## Rules that mirror requirements -/

/-- The needs of rules find in a filled state what requirements find in the configuration, in the
same order. -/
inductive Mirrors {β δ : Type} (state : β) (conf : Conf) (report? : δ → Option Report) :
    List (Rule β δ) → List Requirement → Prop
  | nil : Mirrors state conf report? [] []
  | fill {isMissing : β → Bool} {complete : β → β} {entry : β → Log.Entry}
      {rules : List (Rule β δ)} {requirements : List Requirement} :
      Mirrors state conf report? rules requirements →
      Mirrors state conf report? (.fill isMissing complete entry :: rules) requirements
  | need {holds : β → Bool} {fault : β → δ} {rules : List (Rule β δ)}
      {requirement : Requirement} {requirements : List Requirement} :
      holds state = requirement.holds conf →
      (holds state = false → report? (fault state) = some (requirement.report conf)) →
      Mirrors state conf report? rules requirements →
      Mirrors state conf report? (.need holds fault :: rules) (requirement :: requirements)

theorem Mirrors.report {β δ : Type} {state : β} {conf : Conf} {report? : δ → Option Report}
    {rules : List (Rule β δ)} {requirements : List Requirement}
    (h : Mirrors state conf report? rules requirements) :
    (rules.findSome? (·.verdict? state)).map report? =
      (requirements.findSome? (·.violation? conf)).map some := by
  induction h with
  | nil => rfl
  | fill _ ih => simpa [Rule.verdict?] using ih
  | @need holds fault rules requirement requirements hholds hreport _ ih =>
    cases hs : holds state with
    | true =>
      have hr : requirement.holds conf = true := hholds ▸ hs
      simpa [List.findSome?_cons, Rule.verdict?, violation?, hs, hr] using ih
    | false =>
      have hr : requirement.holds conf = false := hholds ▸ hs
      simpa [List.findSome?_cons, Rule.verdict?, violation?, hs, hr] using hreport hs

theorem decide_fillInt_nonneg {n default : Int} (h : 0 ≤ default) :
    decide (0 ≤ fillInt n default) = decide (0 ≤ n) := by
  rw [decide_eq_decide]
  unfold fillInt
  split <;> omega

theorem fillInt_of_ne {n default : Int} (h : n ≠ 0) : fillInt n default = n := if_neg h

/-! ## The blocks -/

theorem redis_mirrors (conf : Conf) :
    Mirrors conf.redis.filled conf (fun fault ↦ (Unresolved.ofBlock .redis fault).report?)
      Block.Redis.rules redisRequirements := by
  have hport : decide (0 < conf.redis.filled.port ∧ conf.redis.filled.port < 65536) =
      decide (0 ≤ conf.redis.port ∧ conf.redis.port ≤ 65535) := by
    rw [decide_eq_decide]
    simp only [Block.Redis.filled, fillInt, Block.Redis.defaultPort]
    split <;> omega
  apply Mirrors.fill
  apply Mirrors.fill
  apply Mirrors.need hport
  · intro h
    have hne : conf.redis.port ≠ 0 := by
      intro h0
      simp [Block.Redis.filled, fillInt, Block.Redis.defaultPort, h0] at h
    simp [Block.Redis.filled, fillInt_of_ne hne]
    rfl
  · refine .need rfl (fun _ ↦ rfl) ?_
    exact .need rfl (fun _ ↦ rfl) (.fill (.fill .nil))

theorem archiver_mirrors (conf : Conf) :
    Mirrors conf.archiver.filled conf (fun fault ↦ (Unresolved.ofBlock .archiver fault).report?)
      Block.Archiver.rules archiverRequirements := by
  refine .need rfl (fun _ ↦ rfl) ?_
  refine .need (decide_fillInt_nonneg (by decide)) (fun _ ↦ rfl) (.fill ?_)
  refine .need (decide_fillInt_nonneg (by decide)) (fun _ ↦ rfl) (.fill ?_)
  exact .need rfl (fun _ ↦ rfl) .nil

theorem tooFrequent_message (cleaner archiver : Int) :
    (Block.Fault.tooFrequent cleaner archiver).message =
      withIntegers [cleaner, archiver] ("checkIntervalSecs (" ++ ofInt cleaner ++
        ") must be at least 2x the archiver's checkIntervalSecs (" ++ ofInt archiver ++ ")") := by
  have hturns : ") must be at least " ++ Text.Numeral.ofNat Block.turnsPerCleaning ++
      "x the archiver's checkIntervalSecs (" =
        ") must be at least 2x the archiver's checkIntervalSecs (" := by
    decide +kernel
  unfold Block.Fault.message
  rw [← hturns]
  simp only [String.append_assoc]

theorem cleaner_mirrors (conf : Conf) :
    Mirrors conf.cleaner.filled conf (fun fault ↦ (Unresolved.ofBlock .cleaner fault).report?)
      (Block.Cleaner.rules conf.archiver.filled.checkIntervalSecs) cleanerRequirements := by
  refine .need (decide_fillInt_nonneg (by decide)) (fun _ ↦ rfl) (.fill ?_)
  refine .need rfl ?_ ?_
  · intro _
    exact congrArg (fun cause ↦ some (⟨cause, none, some "cleaner"⟩ : Report))
      (tooFrequent_message _ _)
  · refine .need (decide_fillInt_nonneg (by decide)) (fun _ ↦ rfl) (.fill ?_)
    refine .need (decide_fillInt_nonneg (by decide)) (fun _ ↦ rfl) (.fill ?_)
    exact .fill .nil

theorem indexer_mirrors (conf : Conf) :
    Mirrors conf.indexer.filled conf (fun fault ↦ (Unresolved.ofBlock .indexer fault).report?)
      Block.Indexer.rules indexerRequirements := by
  refine .need rfl (fun _ ↦ rfl) (.fill ?_)
  exact .need (decide_fillInt_nonneg (by decide)) (fun _ ↦ rfl) (.fill .nil)

section

variable [TimeZone.Database]

theorem server_mirrors {conf : Conf} (h : TimeZone.obstacle? conf.filled.timeZone = none) :
    Mirrors conf.filledServer conf Unresolved.report? serverRules serverRequirements := by
  have hzone : conf.filledServer.timeZone = conf.filled.timeZone := rfl
  apply Mirrors.need
  · simp only [ofField, hzone]
  · intro _
    simp only [Unresolved.ofTimeZone, hzone, h]
    rfl
  · refine .need ?_ (fun _ ↦ rfl) (.need rfl (fun _ ↦ rfl) .nil)
    rw [ofField, decide_eq_decide]
    simp only [filledServer, fillInt, defaultWriteTimeoutSecs]
    split <;> omega

/-! ## Acceptance and the first violation -/

theorem firstViolation?_eq_or (conf : Conf) : firstViolation? conf =
    (serverRequirements.findSome? (·.violation? conf)).or
      ((redisRequirements.findSome? (·.violation? conf)).or
        ((archiverRequirements.findSome? (·.violation? conf)).or
          ((cleanerRequirements.findSome? (·.violation? conf)).or
            (indexerRequirements.findSome? (·.violation? conf))))) := by
  simp only [firstViolation?, requirements, List.findSome?_append, Option.or_assoc]

theorem firstViolation?_eq_none_iff (conf : Conf) : firstViolation? conf = none ↔
    ∀ requirement ∈ requirements, requirement.holds conf = true := by
  simp [firstViolation?, List.findSome?_eq_none_iff, violation?]

/-- The fault of resolving is reported as the first violation. -/
theorem resolve_report {conf : Conf} (h : TimeZone.obstacle? conf.filled.timeZone = none) :
    (resolve conf).fault.map Unresolved.report? = (firstViolation? conf).map some := by
  have hserver := (server_mirrors h).report
  have hredis := (redis_mirrors conf).report
  have harchiver := (archiver_mirrors conf).report
  have hcleaner := (cleaner_mirrors conf).report
  have hindexer := (indexer_mirrors conf).report
  simp only [resolve_fault, firstViolation?_eq_or, validateServer_fault,
    Block.Redis.resolve_fault, Block.Archiver.resolve_fault, Block.Cleaner.resolve_fault,
    Block.Indexer.resolve_fault, Option.map_or, Option.map_map, Function.comp_def, hserver,
    hredis, harchiver, hcleaner, hindexer]

theorem resolve_unsearchable {conf : Conf} {obstacle : TimeZone.Obstacle}
    (h : TimeZone.obstacle? conf.filled.timeZone = some obstacle) :
    (resolve conf).fault = some (.unsearchable obstacle) := by
  have hzone : conf.filledServer.timeZone = conf.filled.timeZone := rfl
  have hserver : (validateServer conf.filledServer).fault = some (.unsearchable obstacle) := by
    simp [validateServer_fault, serverRules, Rule.verdict?, hzone, TimeZone.isKnown_of_obstacle h,
      Unresolved.ofTimeZone, h]
  rw [resolve_fault, hserver]
  rfl

theorem resolve_fault_eq_none_iff_holds (conf : Conf) : (resolve conf).fault = none ↔
    ∀ requirement ∈ requirements, requirement.holds conf = true := by
  cases hobstacle : TimeZone.obstacle? conf.filled.timeZone with
  | none =>
    rw [← firstViolation?_eq_none_iff, ← Option.map_eq_none_iff (f := Unresolved.report?),
      resolve_report hobstacle, Option.map_eq_none_iff]
  | some obstacle =>
    have hknown := TimeZone.isKnown_of_obstacle hobstacle
    constructor
    · intro h
      rw [resolve_unsearchable hobstacle] at h
      cases h
    · intro h
      have hzone := h _ (List.mem_append_left _ (List.mem_append_left _ (List.mem_append_left _
        (List.mem_append_left _ (List.mem_cons_self ..)))))
      exact absurd hzone (by simpa [ofField] using hknown)

end

/-! ## What no requirement looks at -/

/-- The configuration with every field that no requirement looks at taken from another one. -/
def withUnchecked (conf other : Conf) : Conf :=
  { other with
    serverReadTimeoutSecs := conf.serverReadTimeoutSecs
    serverWriteTimeoutSecs := conf.serverWriteTimeoutSecs
    timeZone := conf.timeZone
    redis := { other.redis with
      port := conf.redis.port
      db := conf.redis.db
      queueKey := conf.redis.queueKey }
    archiver := conf.archiver
    indexer := { other.indexer with
      indexDirPath := conf.indexer.indexDirPath
      queryHistoryNumPreserve := conf.indexer.queryHistoryNumPreserve }
    cleaner := { conf.cleaner with statusKey := other.cleaner.statusKey } }

section

variable [TimeZone.Database]

theorem resolve_withUnchecked (conf other : Conf) :
    (resolve (conf.withUnchecked other)).fault = (resolve conf).fault := by
  have hserver : (validateServer (conf.withUnchecked other).filledServer).fault =
      (validateServer conf.filledServer).fault := by
    simp [validateServer_fault, serverRules, List.findSome?_cons, Rule.verdict?, filledServer,
      withUnchecked]
  have hredis : (conf.withUnchecked other).redis.resolve.fault = conf.redis.resolve.fault := by
    simp [Block.Redis.resolve_fault, Block.Redis.rules, List.findSome?_cons, Rule.verdict?,
      Block.Redis.filled, withUnchecked]
  have hcleaner (interval : Int) : ((conf.withUnchecked other).cleaner.resolve interval).fault =
      (conf.cleaner.resolve interval).fault := by
    simp [Block.Cleaner.resolve_fault, Block.Cleaner.rules, List.findSome?_cons, Rule.verdict?,
      Block.Cleaner.filled, withUnchecked]
  have hindexer : (conf.withUnchecked other).indexer.resolve.fault =
      conf.indexer.resolve.fault := by
    simp [Block.Indexer.resolve_fault, Block.Indexer.rules, List.findSome?_cons, Rule.verdict?,
      Block.Indexer.filled, withUnchecked]
  have harchiver : (conf.withUnchecked other).archiver = conf.archiver := rfl
  rw [resolve_fault, resolve_fault, hserver, hredis, harchiver, hcleaner, hindexer]

/-! ## The verdict of resolving -/

/-- A configuration is accepted if it meets every requirement, whatever its other fields are. If not,
the first violation is reported, except where the search for the time zone breaks off: then the time
zone is not reported as unknown, and what broke the search off is the fault. -/
theorem resolve_verdict (conf : Conf) :
    ((resolve conf).fault = none ↔
        ∀ requirement ∈ requirements, requirement.holds conf = true) ∧
      ((resolve conf).fault.map Unresolved.report? = (firstViolation? conf).map some ↔
        TimeZone.obstacle? conf.filled.timeZone = none) ∧
      (∀ obstacle, TimeZone.obstacle? conf.filled.timeZone = some obstacle →
        (resolve conf).fault = some (.unsearchable obstacle)) ∧
      ∀ other, (resolve (conf.withUnchecked other)).fault = (resolve conf).fault := by
  have hreport : (resolve conf).fault.map Unresolved.report? = (firstViolation? conf).map some →
      TimeZone.obstacle? conf.filled.timeZone = none := by
    intro h
    cases hobstacle : TimeZone.obstacle? conf.filled.timeZone with
    | none => rfl
    | some obstacle =>
      rw [resolve_unsearchable hobstacle] at h
      cases hviolation : firstViolation? conf <;> simp [hviolation, Unresolved.report?] at h
  exact ⟨resolve_fault_eq_none_iff_holds conf, ⟨hreport, resolve_report⟩,
    fun obstacle ↦ resolve_unsearchable, resolve_withUnchecked conf⟩

end

open scoped Release

def zoned (timeZone : String) : Conf where
  listenAddress := "127.0.0.1"
  listenPort := 8080
  timeZone := timeZone
  logging := {}
  redis := default
  db := default
  archiver := default
  indexer := default
  reporting := default

/-- Its zone is looked for under the index of a folder. -/
def underIndex : Conf := zoned "Africa/__init__/Cairo"

theorem obstacle?_underIndex :
    TimeZone.obstacle? underIndex.filled.timeZone = some (.under ⟨["Africa".toList]⟩) := by
  decide +kernel

theorem timeZone_filled {conf : Conf} (h : conf.timeZone ≠ "") :
    conf.filled.timeZone = conf.timeZone := if_neg h

/-- A zone in more folders than a search can lead through. -/
def deepZone : String := String.ofList (['/'].intercalate (List.replicate 260 ['a']))

theorem parts_deepZone : TimeZone.parts deepZone = List.replicate 260 ['a'] := by
  rw [TimeZone.parts, deepZone, String.toList_ofList]
  decide +kernel

theorem obstacle?_deepZone : TimeZone.obstacle? (zoned deepZone).filled.timeZone =
    some (.tooDeep "maximum recursion depth exceeded") := by
  have hne : (zoned deepZone).timeZone ≠ "" := by
    intro h
    have hparts := parts_deepZone
    rw [show deepZone = "" from h] at hparts
    revert hparts
    decide +kernel
  rw [timeZone_filled hne, show (zoned deepZone).timeZone = deepZone from rfl,
    TimeZone.obstacle?, TimeZone.leadsDown, TimeZone.folders, parts_deepZone]
  decide +kernel

theorem underIndex_fault :
    TimeZone.obstacle? underIndex.filled.timeZone = some (.under ⟨["Africa".toList]⟩) ∧
      (resolve underIndex).fault = some (.unsearchable (.under ⟨["Africa".toList]⟩)) ∧
      (resolve (zoned deepZone)).fault =
        some (.unsearchable (.tooDeep "maximum recursion depth exceeded")) :=
  ⟨obstacle?_underIndex, (resolve_verdict underIndex).2.2.1 _ obstacle?_underIndex,
    (resolve_verdict (zoned deepZone)).2.2.1 _ obstacle?_deepZone⟩

theorem underIndex_not_reported :
    firstViolation? underIndex = some
        { cause := "unknown time zone 'Africa/__init__/Cairo'", field := "timeZone" } ∧
      (resolve underIndex).fault.map Unresolved.report? ≠ (firstViolation? underIndex).map some := by
  have hviolation : firstViolation? underIndex = some
      { cause := "unknown time zone 'Africa/__init__/Cairo'", field := "timeZone" } := by
    decide +kernel
  refine ⟨hviolation, ?_⟩
  rw [resolve_unsearchable obstacle?_underIndex, hviolation]
  simp [Unresolved.report?]

end Conf

end ServiceBoot
