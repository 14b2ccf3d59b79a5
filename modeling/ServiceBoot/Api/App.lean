import ServiceBoot.Api.Documentation
import ServiceBoot.Http.Cors

/-!
# The app

A request goes through the layers of the app from the outside in: faults become an answer, the
deadline is kept, cross-origin requests are dealt with, and a route is found. What an outer layer
answers by itself bears no mark of the layers within.
-/

namespace ServiceBoot.Api

open Http (Cors Request Response)

structure App where
  cors : Cors
  deadline : Seconds
  routes : List Route

/-- An answer with what was logged on the way, and the fault behind it if there was one. -/
structure Answer where
  response : Response
  entries : List Log.Entry
  fault : Option Fault

namespace App

def ofDeployment [TimeZone.Database] [Documentation] (deployment : Deployment) : App where
  cors := ⟨deployment.conf.corsAllowedOrigins⟩
  deadline := deployment.deadline
  routes := Route.documentation {} ++ [.health, .info]

def extend (app : App) (routes : List Route) : App := { app with routes := app.routes ++ routes }

def route? (app : App) (path : String) : Option Route := app.routes.find? (·.matches? path)

/-- A path without the slashes at its end. -/
def withoutSlashes (path : String) : String :=
  String.ofList (path.toList.reverse.dropWhile (· = '/')).reverse

/-- Finds the route of a request. A path that is known but for slashes at its end is pointed out. -/
def dispatch (app : App) (circumstances : Circumstances) (request : Request) :
    Attempt Response :=
  match app.route? request.path with
  | some route =>
    if request.method ∈ route.methods then route.run circumstances request
    else .done (.methodNotAllowed (String.intercalate ", " route.methods))
  | none =>
    let shorter := withoutSlashes request.path
    match app.route? shorter with
    | some _ => .done (.redirect (request.address shorter))
    | none => .done .notFound

/-- Answers preflight requests, and marks every other answer. -/
def shared (app : App) (circumstances : Circumstances) (request : Request) : Attempt Response :=
  match Cors.preflight? request with
  | some preflight => .done (app.cors.preflightResponse preflight)
  | none => (app.dispatch circumstances request).map (app.cors.mark request)

def timed (app : App) (circumstances : Circumstances) (request : Request) : Attempt Response :=
  (app.shared circumstances request).before app.deadline request

def faultEntry (fault : Fault) (request : Request) : Log.Entry where
  level := .error
  event := .str "Unhandled exception"
  fields := [("path", .str request.addressPath), ("method", .str request.method),
    ("error", .str fault.message), ("exc_info", .bool true)]

def answer (app : App) (circumstances : Circumstances) (request : Request) : Answer :=
  let attempt := app.timed circumstances request
  match attempt.ending with
  | .ok response => ⟨response, attempt.entries, none⟩
  | .error fault =>
    ⟨.internalError, attempt.entries ++ [faultEntry fault request], some fault⟩

end App

end ServiceBoot.Api
