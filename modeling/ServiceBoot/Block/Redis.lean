import ServiceBoot.Block.Fault
import ServiceBoot.Document.Field
import ServiceBoot.Pass

/-!
# The redis block

The connection to the store of the record queues, and the keys of the queues. The keys for failed
records are derived from the key of the queue if they are left out.
-/

namespace ServiceBoot.Block

open Document Json

structure Redis where
  host : String := ""
  port : Int := 0
  db : Int := 0
  password : String := ""
  queueKey : String := ""
  failedQueueKey : String := ""
  failedRecordsKey : String := ""
  deriving DecidableEq, Inhabited, Repr

namespace Redis

def check (members : Members) : Checked Redis :=
  mk <$> defaulted members "host" "" text
    <*> defaulted members "port" 0 integer
    <*> defaulted members "db" 0 integer
    <*> defaulted members "password" "" text
    <*> defaulted members "queueKey" "" text
    <*> defaulted members "failedQueueKey" "" text
    <*> defaulted members "failedRecordsKey" "" text

def toMembers (block : Redis) : Members := [
  ("host", .str block.host),
  ("port", .int block.port),
  ("db", .int block.db),
  ("password", .str block.password),
  ("queueKey", .str block.queueKey),
  ("failedQueueKey", .str block.failedQueueKey),
  ("failedRecordsKey", .str block.failedRecordsKey)]

def address (block : Redis) : String := block.host ++ ":" ++ Text.Numeral.ofInt block.port

def defaultHost : String := "localhost"

def defaultPort : Int := 6379

def failedQueueOf (queueKey : String) : String := queueKey ++ "_failed"

def failedRecordsOf (queueKey : String) : String := queueKey ++ "_failed_records"

/-- The archiver speaks for the queues that it consumes. -/
def warning (event key : String) (value : Value) : Log.Entry :=
  .warning event [("subsystem", .str "archiver"), (key, value)]

def rules : List (Rule Redis Fault) := [
  .fill (·.host == "") (fun block ↦ { block with host := defaultHost })
    fun block ↦ warning "redis host not specified, using default" "host" (.str block.host),
  .fill (·.port == 0) (fun block ↦ { block with port := defaultPort })
    fun block ↦ warning "redis port not specified, using default" "port" (.int block.port),
  .need (fun block ↦ 0 < block.port ∧ block.port < 65536) fun block ↦ .portOutOfRange block.port,
  .need (0 ≤ ·.db) fun block ↦ .databaseNegative block.db,
  .need (·.queueKey != "") fun _ ↦ .missing "queueKey",
  .fill (·.failedQueueKey == "")
    (fun block ↦ { block with failedQueueKey := failedQueueOf block.queueKey })
    fun block ↦ warning "failedQueueKey not specified, using default" "failedQueueKey"
      (.str block.failedQueueKey),
  .fill (·.failedRecordsKey == "")
    (fun block ↦ { block with failedRecordsKey := failedRecordsOf block.queueKey })
    fun block ↦ warning "failedRecordsKey not specified, using default" "failedRecordsKey"
      (.str block.failedRecordsKey)]

def resolve : Redis → Outcome Redis Fault := Rule.run rules

end Redis

end ServiceBoot.Block
