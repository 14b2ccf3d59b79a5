import ServiceBoot.DatabaseUrl
import ServiceBoot.Document.Field

/-!
# The db block

The relational store. Its host may carry a port.
-/

namespace ServiceBoot.Block

open Document Json

structure Database where
  host : String := ""
  user : String := ""
  passwd : String := ""
  name : String := ""
  poolSize : Int := 0
  deriving DecidableEq, Inhabited, Repr

namespace Database

def check (members : Members) : Checked Database :=
  mk <$> defaulted members "host" "" endpointText
    <*> defaulted members "user" "" text
    <*> defaulted members "passwd" "" text
    <*> defaulted members "name" "" text
    <*> defaulted members "poolSize" 0 integer

def toMembers (block : Database) : Members := [
  ("host", .str block.host),
  ("user", .str block.user),
  ("passwd", .str block.passwd),
  ("name", .str block.name),
  ("poolSize", .int block.poolSize)]

def endpoint (block : Database) : Except Endpoint.Fault Endpoint := Endpoint.ofText block.host

def defaultDriver : String := "mysql+pymysql"

def url (block : Database) (driver : String) : Except Endpoint.Fault DatabaseUrl :=
  block.endpoint.map fun endpoint ↦ {
    driver
    username := nonempty? block.user
    password := nonempty? block.passwd
    host := nonempty? endpoint.host
    port := endpoint.port.map (↑·)
    database := nonempty? block.name }

end Database

end ServiceBoot.Block
