import ServiceBoot.Api.Deployment
import ServiceBoot.Api.Token
import ServiceBoot.Conf.Resolve

/-!
# Routes

The paths that the service answers, and the methods by which each of them is read. Health is shown
to everyone, information about the service to those with a token.
-/

namespace ServiceBoot.Api

/-- What is in force when a request comes in. -/
structure Circumstances where
  deployment : Option Deployment
  now : String

structure Route where
  path : String
  methods : List String := ["GET"]
  run : Circumstances → Http.Request → Attempt Http.Response

namespace Route

/-- A line break at the end of a path does not matter. -/
def matches? (route : Route) (path : String) : Bool :=
  path == route.path || path == route.path ++ "\n"

def health : Route where
  path := "/health"
  run _ _ := .done (.json 200 (.object [("status", .str "healthy"), ("service", .str "camus")]))

def unauthorizedEntry (conf : Conf) (request : Http.Request) : Log.Entry :=
  .warning "Unauthorized request"
    [("path", .str request.addressPath), ("header", .str conf.authHeaderName)]

/-- Runs what needs a token. -/
def protect (conf : Conf) (request : Http.Request)
    (inner : Attempt Http.Response) : Attempt Http.Response :=
  match Token.authorizes conf request with
  | .error fault => .failed fault
  | .ok false => { entries := [unauthorizedEntry conf request], ending := .ok .unauthorized }
  | .ok true => inner

/-- The public part of the configuration, with the time in its time zone. -/
def information [TimeZone.Database] (conf : Conf) (now : String) : Except Fault Http.Response :=
  match conf.timeZone? with
  | .error reason => .error (.unresolved reason)
  | .ok zone => .ok (.json 200 (.object
      [("publicUrl", .str conf.publicUrl), ("timeZone", .str zone), ("serverTime", .str now)]))

def info [TimeZone.Database] : Route where
  path := "/info"
  run circumstances request :=
    match circumstances.deployment with
    | none => .failed .noConfiguration
    | some deployment =>
      protect deployment.conf request (.ofExcept (information deployment.conf circumstances.now))

end Route

end ServiceBoot.Api
