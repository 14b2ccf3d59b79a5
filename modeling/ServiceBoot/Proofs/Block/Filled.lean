import ServiceBoot.Block.Archiver
import ServiceBoot.Block.Cleaner
import ServiceBoot.Block.Indexer
import ServiceBoot.Block.Redis
import ServiceBoot.Proofs.Pass

/-!
# Filled blocks

Each block with everything filled that was left out. A pass without a fault leaves this state, and
the fault of a pass is the first that is found in it, since no need looks at what is filled after it
in another way.
-/

namespace ServiceBoot

def fillInt (n default : Int) : Int := if n = 0 then default else n

def fillText (text default : String) : String := if text = "" then default else text

namespace Block

/-! ## Redis -/

namespace Redis

def filled (block : Redis) : Redis :=
  { block with
    host := fillText block.host defaultHost
    port := fillInt block.port defaultPort
    failedQueueKey := fillText block.failedQueueKey (failedQueueOf block.queueKey)
    failedRecordsKey := fillText block.failedRecordsKey (failedRecordsOf block.queueKey) }

theorem filled_rules (block : Redis) : Rule.filled rules block = block.filled := by
  by_cases hhost : block.host = "" <;> by_cases hport : block.port = 0 <;>
    by_cases hfailed : block.failedQueueKey = "" <;>
    by_cases hrecords : block.failedRecordsKey = "" <;>
    simp [rules, Rule.advance, filled, fillText, fillInt, hhost, hport, hfailed, hrecords]

theorem steady_rules : Rule.Steady rules := by
  simp [Rule.Steady, rules, Rule.verdict?]

theorem resolve_state {block : Redis} (h : block.resolve.fault = none) :
    block.resolve.state = block.filled := by
  calc
    _ = Rule.filled rules block := Rule.run_state_of_fault_eq_none h
    _ = block.filled := filled_rules block

theorem resolve_fault (block : Redis) :
    block.resolve.fault = rules.findSome? (·.verdict? block.filled) := by
  rw [← filled_rules]
  exact Rule.run_fault steady_rules block

end Redis

/-! ## Archiver -/

namespace Archiver

def filled (block : Archiver) : Archiver :=
  { block with
    checkIntervalSecs := fillInt block.checkIntervalSecs defaultIntervalSecs
    checkIntervalChunk := fillInt block.checkIntervalChunk defaultIntervalChunk }

theorem filled_rules (block : Archiver) : Rule.filled rules block = block.filled := by
  by_cases hsecs : block.checkIntervalSecs = 0 <;>
    by_cases hchunk : block.checkIntervalChunk = 0 <;>
    simp [rules, Rule.advance, filled, fillInt, hsecs, hchunk]

theorem steady_rules : Rule.Steady rules := by
  simp +contextual [Rule.Steady, rules, Rule.verdict?, defaultIntervalSecs, defaultIntervalChunk]

theorem resolve_state {block : Archiver} (h : block.resolve.fault = none) :
    block.resolve.state = block.filled := by
  calc
    _ = Rule.filled rules block := Rule.run_state_of_fault_eq_none h
    _ = block.filled := filled_rules block

theorem resolve_fault (block : Archiver) :
    block.resolve.fault = rules.findSome? (·.verdict? block.filled) := by
  rw [← filled_rules]
  exact Rule.run_fault steady_rules block

end Archiver

/-! ## Cleaner -/

namespace Cleaner

def filled (block : Cleaner) : Cleaner where
  checkIntervalSecs := fillInt block.checkIntervalSecs defaultIntervalSecs
  numProcessItemsPerTurn := fillInt block.numProcessItemsPerTurn defaultItemsPerTurn
  minAgeDaysUnvisited := fillInt block.minAgeDaysUnvisited defaultMinAgeDays
  statusKey := fillText block.statusKey defaultStatusKey

variable (archiverIntervalSecs : Int)

theorem filled_rules (block : Cleaner) :
    Rule.filled (rules archiverIntervalSecs) block = block.filled := by
  by_cases hsecs : block.checkIntervalSecs = 0 <;>
    by_cases hitems : block.numProcessItemsPerTurn = 0 <;>
    by_cases hage : block.minAgeDaysUnvisited = 0 <;> by_cases hkey : block.statusKey = "" <;>
    simp [rules, Rule.advance, filled, fillInt, fillText, hsecs, hitems, hage, hkey]

theorem steady_rules : Rule.Steady (rules archiverIntervalSecs) := by
  simp +contextual [Rule.Steady, rules, Rule.verdict?, defaultIntervalSecs, defaultItemsPerTurn,
    defaultMinAgeDays]

theorem resolve_state {block : Cleaner}
    (h : (block.resolve archiverIntervalSecs).fault = none) :
    (block.resolve archiverIntervalSecs).state = block.filled := by
  calc
    _ = Rule.filled (rules archiverIntervalSecs) block := Rule.run_state_of_fault_eq_none h
    _ = block.filled := filled_rules archiverIntervalSecs block

theorem resolve_fault (block : Cleaner) : (block.resolve archiverIntervalSecs).fault =
    (rules archiverIntervalSecs).findSome? (·.verdict? block.filled) := by
  rw [← filled_rules archiverIntervalSecs]
  exact Rule.run_fault (steady_rules archiverIntervalSecs) block

end Cleaner

/-! ## Indexer -/

namespace Indexer

def filled (block : Indexer) : Indexer :=
  { block with
    docRemoveChannel := fillText block.docRemoveChannel defaultChannel
    queryHistoryNumPreserve := fillInt block.queryHistoryNumPreserve defaultNumPreserve }

theorem filled_rules (block : Indexer) : Rule.filled rules block = block.filled := by
  by_cases hchannel : block.docRemoveChannel = "" <;>
    by_cases hpreserve : block.queryHistoryNumPreserve = 0 <;>
    simp [rules, Rule.advance, filled, fillInt, fillText, hchannel, hpreserve]

theorem steady_rules : Rule.Steady rules := by
  simp +contextual [Rule.Steady, rules, Rule.verdict?, defaultNumPreserve]

theorem resolve_state {block : Indexer} (h : block.resolve.fault = none) :
    block.resolve.state = block.filled := by
  calc
    _ = Rule.filled rules block := Rule.run_state_of_fault_eq_none h
    _ = block.filled := filled_rules block

theorem resolve_fault (block : Indexer) :
    block.resolve.fault = rules.findSome? (·.verdict? block.filled) := by
  rw [← filled_rules]
  exact Rule.run_fault steady_rules block

end Indexer

end Block

end ServiceBoot
