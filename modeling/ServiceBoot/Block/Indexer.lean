import ServiceBoot.Block.Fault
import ServiceBoot.Document.Field
import ServiceBoot.Pass

/-!
# The indexer block

The full-text index of the archived records.
-/

namespace ServiceBoot.Block

open Document Json

structure Indexer where
  indexDirPath : String := ""
  docRemoveChannel : String := ""
  queryHistoryNumPreserve : Int := 0
  deriving DecidableEq, Inhabited, Repr

namespace Indexer

def check (members : Members) : Checked Indexer :=
  mk <$> defaulted members "indexDirPath" "" text
    <*> defaulted members "docRemoveChannel" "" text
    <*> defaulted members "queryHistoryNumPreserve" 0 integer

def toMembers (block : Indexer) : Members := [
  ("indexDirPath", .str block.indexDirPath),
  ("docRemoveChannel", .str block.docRemoveChannel),
  ("queryHistoryNumPreserve", .int block.queryHistoryNumPreserve)]

def defaultChannel : String := "camus_doc_remove"

def defaultNumPreserve : Int := 10000

def warning (event : String) (value : Value) : Log.Entry :=
  .warning event [("subsystem", .str "indexer"), ("value", value)]

def rules : List (Rule Indexer Fault) := [
  .need (·.indexDirPath != "") fun _ ↦ .missing "indexDirPath",
  .fill (·.docRemoveChannel == "") (fun block ↦ { block with docRemoveChannel := defaultChannel })
    fun block ↦ warning "docRemoveChannel not specified, using default"
      (.str block.docRemoveChannel),
  .need (0 ≤ ·.queryHistoryNumPreserve) fun _ ↦ .negative "queryHistoryNumPreserve",
  .fill (·.queryHistoryNumPreserve == 0)
    (fun block ↦ { block with queryHistoryNumPreserve := defaultNumPreserve })
    fun block ↦ warning "queryHistoryNumPreserve not specified, using default"
      (.int block.queryHistoryNumPreserve)]

def resolve : Indexer → Outcome Indexer Fault := Rule.run rules

end Indexer

end ServiceBoot.Block
