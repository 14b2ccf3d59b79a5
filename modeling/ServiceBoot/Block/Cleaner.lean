import ServiceBoot.Block.Fault
import ServiceBoot.Document.Field
import ServiceBoot.Pass

/-!
# The cleaner block

The schedule of the removal of stale records. The cleaner works on what the archiver writes, so its
interval is checked against the archiver's.
-/

namespace ServiceBoot.Block

open Document Json

structure Cleaner where
  checkIntervalSecs : Int := 0
  numProcessItemsPerTurn : Int := 0
  minAgeDaysUnvisited : Int := 0
  statusKey : String := ""
  deriving DecidableEq, Inhabited, Repr

namespace Cleaner

def check (members : Members) : Checked Cleaner :=
  mk <$> defaulted members "checkIntervalSecs" 0 integer
    <*> defaulted members "numProcessItemsPerTurn" 0 integer
    <*> defaulted members "minAgeDaysUnvisited" 0 integer
    <*> defaulted members "statusKey" "" text

def toMembers (block : Cleaner) : Members := [
  ("checkIntervalSecs", .int block.checkIntervalSecs),
  ("numProcessItemsPerTurn", .int block.numProcessItemsPerTurn),
  ("minAgeDaysUnvisited", .int block.minAgeDaysUnvisited),
  ("statusKey", .str block.statusKey)]

def defaultIntervalSecs : Int := 3600

def defaultItemsPerTurn : Int := 50

def defaultMinAgeDays : Int := 365

def defaultStatusKey : String := "camus_cleanup_status"

def warning (event : String) (value : Value) : Log.Entry :=
  .warning event [("subsystem", .str "cleaner"), ("value", value)]

/-- The rules under the archiver's interval, which has to be filled already. -/
def rules (archiverIntervalSecs : Int) : List (Rule Cleaner Fault) := [
  .need (0 ≤ ·.checkIntervalSecs) fun _ ↦ .negative "checkIntervalSecs",
  .fill (·.checkIntervalSecs == 0)
    (fun block ↦ { block with checkIntervalSecs := defaultIntervalSecs })
    fun block ↦ warning "checkIntervalSecs not specified, using default"
      (.int block.checkIntervalSecs),
  .need (turnsPerCleaning * archiverIntervalSecs ≤ ·.checkIntervalSecs)
    fun block ↦ .tooFrequent block.checkIntervalSecs archiverIntervalSecs,
  .need (0 ≤ ·.numProcessItemsPerTurn) fun _ ↦ .negative "numProcessItemsPerTurn",
  .fill (·.numProcessItemsPerTurn == 0)
    (fun block ↦ { block with numProcessItemsPerTurn := defaultItemsPerTurn })
    fun block ↦ warning "numProcessItemsPerTurn not specified, using default"
      (.int block.numProcessItemsPerTurn),
  .need (0 ≤ ·.minAgeDaysUnvisited) fun _ ↦ .negative "minAgeDaysUnvisited",
  .fill (·.minAgeDaysUnvisited == 0)
    (fun block ↦ { block with minAgeDaysUnvisited := defaultMinAgeDays })
    fun block ↦ warning "minAgeDaysUnvisited not specified, using default"
      (.int block.minAgeDaysUnvisited),
  .fill (·.statusKey == "") (fun block ↦ { block with statusKey := defaultStatusKey })
    fun block ↦ warning "statusKey not specified, using default" (.str block.statusKey)]

def resolve (archiverIntervalSecs : Int) : Cleaner → Outcome Cleaner Fault :=
  Rule.run (rules archiverIntervalSecs)

end Cleaner

end ServiceBoot.Block
