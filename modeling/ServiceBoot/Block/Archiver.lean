import ServiceBoot.Block.Fault
import ServiceBoot.Document.Field
import ServiceBoot.Pass

/-!
# The archiver block

The schedule and the state of the loop that archives queued records.
-/

namespace ServiceBoot.Block

open Document Json

structure Archiver where
  ddStateFilePath : String := ""
  checkIntervalSecs : Int := 0
  checkIntervalChunk : Int := 0
  preloadLastNItems : Int := 0
  deriving DecidableEq, Inhabited, Repr

namespace Archiver

def check (members : Members) : Checked Archiver :=
  mk <$> defaulted members "ddStateFilePath" "" text
    <*> defaulted members "checkIntervalSecs" 0 integer
    <*> defaulted members "checkIntervalChunk" 0 integer
    <*> defaulted members "preloadLastNItems" 0 integer

def toMembers (block : Archiver) : Members := [
  ("ddStateFilePath", .str block.ddStateFilePath),
  ("checkIntervalSecs", .int block.checkIntervalSecs),
  ("checkIntervalChunk", .int block.checkIntervalChunk),
  ("preloadLastNItems", .int block.preloadLastNItems)]

def defaultIntervalSecs : Int := 60

def defaultIntervalChunk : Int := 100

def warning (event : String) (value : Value) : Log.Entry :=
  .warning event [("subsystem", .str "archiver"), ("value", value)]

def rules : List (Rule Archiver Fault) := [
  .need (·.ddStateFilePath != "") fun _ ↦ .missing "ddStateFilePath",
  .need (0 ≤ ·.checkIntervalSecs) fun _ ↦ .negative "checkIntervalSecs",
  .fill (·.checkIntervalSecs == 0)
    (fun block ↦ { block with checkIntervalSecs := defaultIntervalSecs })
    fun block ↦ warning "checkIntervalSecs not specified, using default"
      (.int block.checkIntervalSecs),
  .need (0 ≤ ·.checkIntervalChunk) fun _ ↦ .negative "checkIntervalChunk",
  .fill (·.checkIntervalChunk == 0)
    (fun block ↦ { block with checkIntervalChunk := defaultIntervalChunk })
    fun block ↦ warning "checkIntervalChunk not specified, using default"
      (.int block.checkIntervalChunk),
  .need (0 ≤ ·.preloadLastNItems) fun _ ↦ .negative "preloadLastNItems"]

def resolve : Archiver → Outcome Archiver Fault := Rule.run rules

end Archiver

end ServiceBoot.Block
