import ServiceBoot.Conf
import ServiceBoot.Conf.Invalid

/-!
# Resolving a configuration

Resolving fills what was left out and checks what is there, in stages: the settings of the server,
then the blocks of redis, archiver, cleaner and indexer. A block is filled while it is checked, so
the cleaner's meets the archiver's with its interval filled. The first fault ends resolving, and
what was filled before it stays filled.
-/

namespace ServiceBoot

variable [TimeZone.Database]

/-- The name of a time zone, unless there is none of that name. -/
def TimeZone.find (name : String) : Except Unresolved String :=
  if isKnown name then .ok name else .error (.ofTimeZone name)

namespace Conf

def defaultWriteTimeoutSecs : Int := 30

def defaultTimeZone : String := "Europe/Prague"

def publicUrlOf (listenAddress : String) : String := "http://" ++ listenAddress

def fillRules : List (Rule Conf Unresolved) := [
  .fill (·.serverWriteTimeoutSecs == 0)
    (fun conf ↦ { conf with serverWriteTimeoutSecs := defaultWriteTimeoutSecs })
    fun conf ↦ .warning "serverWriteTimeoutSecs not specified, using default"
      [("value", .int conf.serverWriteTimeoutSecs)],
  .fill (·.publicUrl == "")
    (fun conf ↦ { conf with publicUrl := publicUrlOf conf.listenAddress })
    fun conf ↦ .warning "publicUrl not set, using listenAddress"
      [("address", .str conf.publicUrl)],
  .fill (·.timeZone == "") (fun conf ↦ { conf with timeZone := defaultTimeZone })
    fun conf ↦ .warning "time zone not specified, using default"
      [("timeZone", .str conf.timeZone)]]

/-- Fills the settings of the server. -/
def fillDefaults : Conf → Outcome Conf Unresolved := Rule.run fillRules

def serverRules : List (Rule Conf Unresolved) := [
  .need (TimeZone.isKnown ·.timeZone) fun conf ↦ .ofTimeZone conf.timeZone,
  .need (0 < ·.serverWriteTimeoutSecs) fun _ ↦ .invalid .writeTimeoutNotPositive,
  .need (0 ≤ ·.serverReadTimeoutSecs) fun _ ↦ .invalid .readTimeoutNegative]

def validateServer : Conf → Outcome Conf Unresolved := Rule.run serverRules

def resolveRedis (conf : Conf) : Outcome Conf Unresolved :=
  conf.redis.resolve.within (fun block ↦ { conf with redis := block }) (.ofBlock .redis)

def resolveArchiver (conf : Conf) : Outcome Conf Unresolved :=
  conf.archiver.resolve.within (fun block ↦ { conf with archiver := block }) (.ofBlock .archiver)

def resolveCleaner (conf : Conf) : Outcome Conf Unresolved :=
  (conf.cleaner.resolve conf.archiver.checkIntervalSecs).within
    (fun block ↦ { conf with cleaner := block }) (.ofBlock .cleaner)

def resolveIndexer (conf : Conf) : Outcome Conf Unresolved :=
  conf.indexer.resolve.within (fun block ↦ { conf with indexer := block }) (.ofBlock .indexer)

/-- Checks the settings of the server as they are, and fills and checks the blocks. -/
def validate (conf : Conf) : Outcome Conf Unresolved :=
  (validateServer conf).andThen resolveRedis |>.andThen resolveArchiver
    |>.andThen resolveCleaner |>.andThen resolveIndexer

def resolve (conf : Conf) : Outcome Conf Unresolved := (fillDefaults conf).andThen validate

/-- The time zone, which a configuration that was not validated may fail to name. -/
def timeZone? (conf : Conf) : Except Unresolved String := TimeZone.find conf.timeZone

end Conf

end ServiceBoot
