import ServiceBoot.Conf

/-!
# Server options

What the server is started with. It waits for the next request of an idle connection as long as it
usually does, unless a read timeout is given.
-/

namespace ServiceBoot

structure ServerOptions where
  host : String
  port : Int
  keepAliveSecs : Option Int
  deriving DecidableEq, Repr

def Conf.serverOptions (conf : Conf) : ServerOptions where
  host := conf.listenAddress
  port := conf.listenPort
  keepAliveSecs :=
    if 0 < conf.serverReadTimeoutSecs then some conf.serverReadTimeoutSecs else none

/-- The options by name. The server leaves logging to the journal. -/
def ServerOptions.toMembers (options : ServerOptions) : Json.Members :=
  [("host", .str options.host), ("port", .int options.port), ("log_config", .null)] ++
    match options.keepAliveSecs with
    | some secs => [("timeout_keep_alive", .int secs)]
    | none => []

end ServiceBoot
