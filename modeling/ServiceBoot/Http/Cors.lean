import ServiceBoot.Http.Response

/-!
# Cross-origin requests

Which origins may read the answers. A browser asks beforehand with a preflight request, which is
answered for every path; every other answer is marked with the origin that may read it.
-/

namespace ServiceBoot.Http

structure Cors where
  origins : List String
  deriving DecidableEq, Repr

namespace Cors

/-- An origin is allowed by its exact text; a star allows every origin. -/
def allows (cors : Cors) (origin : String) : Bool :=
  cors.origins.contains "*" || cors.origins.contains origin

theorem allows_iff {cors : Cors} {origin : String} :
    cors.allows origin = true ↔ "*" ∈ cors.origins ∨ origin ∈ cors.origins := by
  simp [allows]

def methods : List String :=
  ["DELETE", "GET", "HEAD", "OPTIONS", "PATCH", "POST", "PUT", "QUERY"]

def originHeaders (cors : Cors) (origin : String) : Headers :=
  if cors.allows origin then [("access-control-allow-origin", origin)] else []

/-- What a preflight request asks for. -/
structure Preflight where
  origin : String
  method : String
  headers : Option String
  privateNetwork : Bool
  deriving DecidableEq, Repr

def preflight? (request : Request) : Option Preflight :=
  if request.method = "OPTIONS" then do
    let origin ← request.header? "origin"
    let method ← request.header? "access-control-request-method"
    pure {
      origin := origin
      method := method
      headers := request.header? "access-control-request-headers"
      privateNetwork := request.hasHeader "access-control-request-private-network" }
  else none

/-- What a preflight request asks for in vain. -/
def refusals (cors : Cors) (preflight : Preflight) : List String :=
  (if cors.allows preflight.origin then [] else ["origin"]) ++
    (if methods.contains preflight.method then [] else ["method"]) ++
    if preflight.privateNetwork then ["private-network"] else []

def preflightHeaders (cors : Cors) (preflight : Preflight) : Headers :=
  [("vary", "Origin, Access-Control-Request-Method, Access-Control-Request-Headers, " ++
      "Access-Control-Request-Private-Network"),
    ("access-control-allow-methods", String.intercalate ", " methods),
    ("access-control-max-age", "600"),
    ("access-control-allow-credentials", "true")] ++
    cors.originHeaders preflight.origin ++
    match preflight.headers with
    | some names => [("access-control-allow-headers", names)]
    | none => []

def preflightResponse (cors : Cors) (preflight : Preflight) : Response :=
  let refused := cors.refusals preflight
  let headers := cors.preflightHeaders preflight
  if refused.isEmpty then .plain 200 "OK" headers
  else .plain 400 ("Disallowed CORS " ++ String.intercalate ", " refused) headers

/-- The headers of an answer to a request that is no preflight. -/
def answerHeaders (cors : Cors) (request : Request) : Headers :=
  match request.header? "origin" with
  | some origin =>
    [("access-control-allow-credentials", "true"), ("vary", "Origin")] ++ cors.originHeaders origin
  | none => [("vary", "Origin")]

def mark (cors : Cors) (request : Request) (response : Response) : Response :=
  response.withHeaders (cors.answerHeaders request)

end Cors

end ServiceBoot.Http
