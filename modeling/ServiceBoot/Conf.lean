import ServiceBoot.Block.Archiver
import ServiceBoot.Block.Cleaner
import ServiceBoot.Block.Database
import ServiceBoot.Block.Indexer
import ServiceBoot.Block.Logging
import ServiceBoot.Block.Redis
import ServiceBoot.Block.Reporting
import ServiceBoot.Document.Rejection
import ServiceBoot.Json.Writer

/-!
# Configurations

The configuration of the service: the settings of the server and one block for each subsystem. A
document may leave out what has a zero value, and the whole cleaner block.
-/

namespace ServiceBoot

open Document Json

/-- The source path tells where a configuration was read from; it is no part of the document. -/
structure Conf where
  sourcePath : String := ""
  listenAddress : String
  publicUrl : String := ""
  listenPort : Int
  serverReadTimeoutSecs : Int := 0
  serverWriteTimeoutSecs : Int := 0
  corsAllowedOrigins : List String := []
  timeZone : String := ""
  authHeaderName : String := ""
  authTokens : List String := []
  logging : Block.Logging
  redis : Block.Redis
  db : Block.Database
  archiver : Block.Archiver
  indexer : Block.Indexer
  cleaner : Block.Cleaner := {}
  reporting : Block.Reporting
  deriving DecidableEq, Inhabited, Repr

namespace Conf

def check (members : Members) : Checked Conf :=
  mk "" <$> mandatory members "listenAddress" text
    <*> defaulted members "publicUrl" "" text
    <*> mandatory members "listenPort" integer
    <*> defaulted members "serverReadTimeoutSecs" 0 integer
    <*> defaulted members "serverWriteTimeoutSecs" 0 integer
    <*> defaulted members "corsAllowedOrigins" [] texts
    <*> defaulted members "timeZone" "" text
    <*> defaulted members "authHeaderName" "" text
    <*> defaulted members "authTokens" [] texts
    <*> mandatory members "logging" (block Block.Logging.check)
    <*> mandatory members "redis" (block Block.Redis.check)
    <*> mandatory members "db" (block Block.Database.check)
    <*> mandatory members "archiver" (block Block.Archiver.check)
    <*> mandatory members "indexer" (block Block.Indexer.check)
    <*> defaulted members "cleaner" {} (block Block.Cleaner.check)
    <*> mandatory members "reporting" (block Block.Reporting.check)

/-- The configuration in a document, which was read from the given path. -/
def parse [Json.Limits] (bytes : Bytes) (source : String) : Except Rejection Conf :=
  (read (block check) bytes).map fun conf ↦ { conf with sourcePath := source }

def textList (texts : List String) : Value := .list (texts.map .str)

def toMembers (conf : Conf) : Members := [
  ("listenAddress", .str conf.listenAddress),
  ("publicUrl", .str conf.publicUrl),
  ("listenPort", .int conf.listenPort),
  ("serverReadTimeoutSecs", .int conf.serverReadTimeoutSecs),
  ("serverWriteTimeoutSecs", .int conf.serverWriteTimeoutSecs),
  ("corsAllowedOrigins", textList conf.corsAllowedOrigins),
  ("timeZone", .str conf.timeZone),
  ("authHeaderName", .str conf.authHeaderName),
  ("authTokens", textList conf.authTokens),
  ("logging", .object conf.logging.toMembers),
  ("redis", .object conf.redis.toMembers),
  ("db", .object conf.db.toMembers),
  ("archiver", .object conf.archiver.toMembers),
  ("indexer", .object conf.indexer.toMembers),
  ("cleaner", .object conf.cleaner.toMembers),
  ("reporting", .object conf.reporting.toMembers)]

/-- The document that holds the configuration, with every field written out. -/
def toJson (conf : Conf) : String := (Value.object conf.toMembers).pretty

end Conf

end ServiceBoot
