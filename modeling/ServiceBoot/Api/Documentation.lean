import ServiceBoot.Api.Route

/-!
# Documentation

The service says about itself what it is, and its routes are described in a schema, which pages show
to people. The pages and what the schema says about the routes are made by others. Everyone may read
them, with a token or without one.
-/

namespace ServiceBoot.Api

/-- What the service says about itself, and where its pages are. -/
structure Profile where
  title : String := "Camus"
  version : String := "0.1.0"
  description : String := "Query history archiving and indexing service."
  docs : String := "/docs"
  reference : String := "/redoc"

/-- What is made of the routes for people and programs to read. -/
class Documentation where
  docs : String
  /-- The page that the one above is called back on. -/
  callback : String
  reference : String
  /-- The version of the format that the schema is in. -/
  format : String
  paths : Json.Value
  components : Json.Value
  /-- The methods by which all of this is read, in the order in which they are told. -/
  methods : List String
  methods_perm : methods.Perm ["GET", "HEAD"]

namespace Route

variable [Documentation]

/-- Shows the same to everyone. -/
def unguarded (path : String) (response : Http.Response) : Route where
  path := path
  methods := Documentation.methods
  run _ _ := .done response

def schemaOf (profile : Profile) : Json.Value := .object [
  ("openapi", .str Documentation.format),
  ("info", .object [("title", .str profile.title), ("description", .str profile.description),
    ("version", .str profile.version)]),
  ("paths", Documentation.paths),
  ("components", Documentation.components)]

def documentation (profile : Profile) : List Route := [
  unguarded "/openapi.json" (.json 200 (schemaOf profile)),
  unguarded profile.docs (.html Documentation.docs),
  unguarded "/docs/oauth2-redirect" (.html Documentation.callback),
  unguarded profile.reference (.html Documentation.reference)]

end Route

end ServiceBoot.Api

namespace ServiceBoot.Release

/-- The pages in short. -/
scoped instance documentation : Api.Documentation where
  docs := "<!DOCTYPE html><html><head><title>Camus - Swagger UI</title></head></html>"
  callback := "<!doctype html><html><head><title>Swagger UI: OAuth2 Redirect</title></head></html>"
  reference := "<!DOCTYPE html><html><head><title>Camus - ReDoc</title></head></html>"
  format := "3.1.0"
  paths := .object [("/health", .object []), ("/info", .object [])]
  components := .object [("schemas", .object [("ServiceInfoResponse", .object [])])]
  methods := ["GET", "HEAD"]
  methods_perm := .refl _

end ServiceBoot.Release
