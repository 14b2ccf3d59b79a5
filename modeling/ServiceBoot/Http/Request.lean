import ServiceBoot.Http.Host
import ServiceBoot.Text.Lowercase
import ServiceBoot.Text.Percent

/-!
# Requests

A request as the server hands it over: the path decoded, the names of the headers in small letters,
and headers of one name in the order in which they were sent.
-/

namespace ServiceBoot.Http

abbrev Headers := List (String × String)

structure Request where
  method : String
  path : String
  query : String := ""
  headers : Headers := []
  deriving DecidableEq, Repr

namespace Request

/-- A request with the headers as they were sent. -/
def ofSent (method path query : String) (headers : Headers) : Request where
  method := method
  path := path
  query := query
  headers := headers.map fun header ↦ (Text.lowercase header.1, header.2)

/-- The value of the first header of a name in small letters. -/
def header? (request : Request) (name : String) : Option String :=
  List.lookup name request.headers

def hasHeader (request : Request) (name : String) : Bool := (request.header? name).isSome

/-- What the server is called where a request does not say. -/
def defaultHost : String := "testserver"

/-- What the client calls the server, if that is a host at all. -/
def host (request : Request) : String :=
  match request.header? "host" with
  | some host => if Host.isWellFormed host then host else defaultHost
  | none => defaultHost

/-- The address of another path on the same host, with the query kept. -/
def address (request : Request) (path : String) : String :=
  "http://" ++ request.host ++ path ++ if request.query = "" then "" else "?" ++ request.query

/-- The marks that a path cannot hold as they are. -/
def isForeign (c : Char) : Bool := c == '?' || c == '#' || c == '\\'

/-- Tabs and line breaks are no part of an address. -/
def isDropped (c : Char) : Bool := c == '\t' || c == '\n' || c == '\r'

/-- A path that is not empty, with a slash at its start. -/
def rooted : List Char → List Char
  | [] => []
  | '/' :: rest => '/' :: rest
  | path => '/' :: path

/-- The path as it stands in the address of the request. -/
def addressPath (request : Request) : String :=
  String.ofList ((Text.Percent.chars (!isForeign ·) (rooted request.path.toList)).filter
    (!isDropped ·))

end Request

/-- What stays as it is in an address that a client is sent to. -/
def staysInLocation (c : Char) : Bool :=
  Text.Percent.isUnreserved c || ":/%#?=@[]!$&'()*+,;".toList.contains c

end ServiceBoot.Http
