import ServiceBoot.Http.Request
import ServiceBoot.Json.Value

/-!
# Responses

A response with its status, its headers and its body. The names of headers are in small letters.
-/

namespace ServiceBoot.Http

inductive Body where
  | json (value : Json.Value)
  | text (text : String)
  deriving Repr

structure Response where
  status : Nat
  headers : Headers
  body : Body
  deriving Repr

namespace Response

def json (status : Nat) (value : Json.Value) : Response :=
  ⟨status, [("content-type", "application/json")], .json value⟩

def html (text : String) : Response :=
  ⟨200, [("content-type", "text/html; charset=utf-8")], .text text⟩

def withHeaders (response : Response) (more : Headers) : Response :=
  { response with headers := response.headers ++ more }

/-- The value of the first header of a name. -/
def header? (response : Response) (name : String) : Option String :=
  List.lookup name response.headers

/-- A failure with one sentence about it. -/
def failure (status : Nat) (detail : String) : Response :=
  json status (.object [("detail", .str detail)])

def notFound : Response := failure 404 "Not Found"

def methodNotAllowed (allowed : String) : Response :=
  (failure 405 "Method Not Allowed").withHeaders [("allow", allowed)]

def unauthorized : Response := failure 401 "Unauthorized"

def internalError : Response := failure 500 "Internal server error"

def timedOut : Response := failure 504 "Request timed out"

/-- Sends the client to another address, where it is to repeat the request. -/
def redirect (address : String) : Response :=
  ⟨307, [("location", Text.Percent.encode staysInLocation address)], .text ""⟩

def plain (status : Nat) (text : String) (headers : Headers) : Response :=
  ⟨status, ("content-type", "text/plain; charset=utf-8") :: headers, .text text⟩

end Response

end ServiceBoot.Http
