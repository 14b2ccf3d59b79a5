import ServiceBoot.DatabaseUrl
import ServiceBoot.Document.Field

/-!
# The reporting block

The database that reports are written to.
-/

namespace ServiceBoot.Block

open Document Json

def Reporting.defaultPort : Int := 5432

structure Reporting where
  host : String := ""
  port : Int := Reporting.defaultPort
  user : String := ""
  passwd : String := ""
  db : String := ""
  sslMode : String := ""
  deriving DecidableEq, Inhabited, Repr

namespace Reporting

def check (members : Members) : Checked Reporting :=
  mk <$> defaulted members "host" "" text
    <*> defaulted members "port" defaultPort integer
    <*> defaulted members "user" "" text
    <*> defaulted members "passwd" "" text
    <*> defaulted members "db" "" text
    <*> defaulted members "sslMode" "" text

def toMembers (block : Reporting) : Members := [
  ("host", .str block.host),
  ("port", .int block.port),
  ("user", .str block.user),
  ("passwd", .str block.passwd),
  ("db", .str block.db),
  ("sslMode", .str block.sslMode)]

def defaultDriver : String := "postgresql+psycopg"

/-- The port is written even if it is the usual one. -/
def url (block : Reporting) (driver : String) : DatabaseUrl where
  driver
  username := nonempty? block.user
  password := nonempty? block.passwd
  host := nonempty? block.host
  port := some block.port
  database := nonempty? block.db
  options := if block.sslMode = "" then [] else [("sslmode", block.sslMode)]

end Reporting

end ServiceBoot.Block
