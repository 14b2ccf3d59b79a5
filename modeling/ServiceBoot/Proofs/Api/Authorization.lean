import ServiceBoot.Proofs.Api.Layers
import ServiceBoot.TimeZone.Table

/-!
# What a request without a token learns

A request is admitted by a token in the header that the configuration names. The information about
the service is shown to admitted requests only, and the answer to any other request, with all that
is logged about it, is the same whatever that information is.
-/

namespace ServiceBoot

open Http (Body Headers Request Response)

/-- The value of the first header of a name, as the headers were sent. -/
def sentHeader? (headers : Headers) (name : String) : Option String :=
  (headers.find? fun header ↦ Text.lowercase header.1 == Text.lowercase name).map (·.2)

namespace Conf

/-- The headers carry one of the tokens under the name that is configured. -/
structure Admits (conf : Conf) (headers : Headers) : Prop where
  name_ne : conf.authHeaderName ≠ ""
  token : ∃ token, sentHeader? headers conf.authHeaderName = some token ∧ token ≠ "" ∧
    token ∈ conf.authTokens

end Conf

theorem header?_ofSent (method path query : String) (headers : Headers) (name : String) :
    (Request.ofSent method path query headers).header? (Text.lowercase name) =
      sentHeader? headers name := by
  unfold Request.ofSent Request.header? sentHeader?
  induction headers with
  | nil => rfl
  | cons header headers ih =>
    rw [List.map_cons, List.lookup_cons, List.find?_cons]
    by_cases h : Text.lowercase header.1 = Text.lowercase name
    · simp [h]
    · have hlookup : (Text.lowercase name == Text.lowercase header.1) = false := by
        simpa using Ne.symm h
      have hfind : (Text.lowercase header.1 == Text.lowercase name) = false := by simpa using h
      simp only [hlookup, hfind]
      exact ih

namespace Api

/-! ## The token -/

theorem mem_of_isAmong {given : String} {known : List String}
    (h : Token.isAmong given known = .ok true) : given ∈ known := by
  induction known with
  | nil => cases h
  | cons token others ih =>
    unfold Token.isAmong Token.areEqual at h
    split at h
    · by_cases heq : given = token
      · exact heq ▸ List.mem_cons_self ..
      · have hne : (given == token) = false := by simpa using heq
        simp only [hne, bind, Except.bind] at h
        exact List.mem_cons_of_mem _ (ih h)
    · cases h

/-- A request is authorized only if its headers are admitted. -/
theorem admits_of_authorizes {conf : Conf} {method path query : String} {headers : Headers}
    (h : Token.authorizes conf (Request.ofSent method path query headers) = .ok true) :
    conf.Admits headers := by
  unfold Token.authorizes Token.given? at h
  split at h
  · cases h
  · rename_i hname
    refine ⟨hname, ?_⟩
    simp only [header?_ofSent] at h
    cases hunsendable : Token.unsendable? (Text.lowercase conf.authHeaderName) with
    | some characters =>
      rw [hunsendable] at h
      cases h
    | none =>
      simp only [hunsendable, bind, Except.bind] at h
      cases hsent : sentHeader? headers conf.authHeaderName with
      | none =>
        rw [hsent] at h
        cases h
      | some token =>
        rw [hsent] at h
        by_cases hempty : token = ""
        · subst hempty
          cases h
        · exact ⟨token, rfl, hempty, mem_of_isAmong (by simpa using h)⟩

/-! ## What a body shows -/

/-- The keys of the information about the service. -/
def informationKeys : List String := ["publicUrl", "timeZone", "serverTime"]

def shows : Body → Bool
  | .json (.object members) => members.any fun member ↦ informationKeys.contains member.1
  | _ => false

/-- Whatever the attempt ends in, it does not show the information. -/
def Hides (attempt : Attempt Response) : Prop :=
  ∀ response, attempt.ending = .ok response → shows response.body = false

theorem shows_failure (status : Nat) (detail : String) :
    shows (Response.failure status detail).body = false := by
  simp [Response.failure, Response.json, shows, informationKeys]

theorem hides_iff_ends {attempt : Attempt Response} :
    Hides attempt ↔ attempt.Ends fun response ↦ shows response.body = false :=
  .rfl

/-! ## Routes -/

theorem protect_of_not_authorized {conf : Conf} {request : Request}
    (h : Token.authorizes conf request ≠ .ok true) (inner other : Attempt Response) :
    Route.protect conf request inner = Route.protect conf request other := by
  unfold Route.protect
  split
  · rfl
  · rfl
  · rename_i hauthorized
    exact absurd hauthorized h

theorem hides_protect {conf : Conf} {request : Request}
    (h : Token.authorizes conf request ≠ .ok true) (inner : Attempt Response) :
    Hides (Route.protect conf request inner) := by
  rw [hides_iff_ends]
  apply Route.ends_protect
  · exact shows_failure 401 "Unauthorized"
  · intro hauthorized
    exact absurd hauthorized h

theorem hides_documentation [Documentation] (profile : Profile) (circumstances : Circumstances)
    (request : Request) :
    ∀ route ∈ Route.documentation profile, Hides (route.run circumstances request) := by
  simp only [hides_iff_ends]
  apply Route.ends_documentation
  · simp [Response.json, Route.schemaOf, shows, informationKeys]
  · intro text
    rfl

theorem hides_health (circumstances : Circumstances) (request : Request) :
    Hides (Route.health.run circumstances request) := by
  rw [hides_iff_ends]
  apply Attempt.ends_done
  simp [Response.json, shows, informationKeys]

/-! ## Layers -/

namespace App

variable {app : App} {circumstances other : Circumstances} {request : Request}

theorem hides_shared (h : ∀ route ∈ app.routes, Hides (route.run circumstances request)) :
    Hides (app.shared circumstances request) := by
  rw [hides_iff_ends]
  apply ends_shared
  · intro preflight _
    unfold Http.Cors.preflightResponse
    simp only
    split <;> rfl
  · apply ends_dispatch h
    · intro allowed
      exact shows_failure 405 "Method Not Allowed"
    · intro address
      rfl
    · exact shows_failure 404 "Not Found"

theorem answer_hides (h : ∀ route ∈ app.routes, Hides (route.run circumstances request)) :
    shows (app.answer circumstances request).response.body = false := by
  have hbefore : Hides ((app.shared circumstances request).before app.deadline request) :=
    Attempt.Ends.before (hides_shared h) (shows_failure 504 "Request timed out")
  rw [answer_eq_answerTo]
  exact answerTo_response (fun response ↦ shows response.body = false) hbefore
    (shows_failure 500 "Internal server error")

/-- An answer depends on the circumstances through the route that the request reaches. -/
theorem answer_congr_of_reached (h : ∀ route ∈ app.routes, request.method ∈ route.methods →
      route.matches? request.path = true →
      route.run circumstances request = route.run other request) :
    app.answer circumstances request = app.answer other request := by
  have hdispatch : app.dispatch circumstances request = app.dispatch other request := by
    unfold dispatch
    split
    · rename_i route hroute
      have hmatches := List.find?_some hroute
      split
      · exact h route (List.mem_of_find?_eq_some hroute) ‹_› hmatches
      · rfl
    · rfl
  simp only [answer, timed, shared, hdispatch]

theorem answer_congr (h : ∀ route ∈ app.routes,
      route.run circumstances request = route.run other request) :
    app.answer circumstances request = app.answer other request :=
  answer_congr_of_reached fun route hroute _ _ ↦ h route hroute

end App

end Api

/-! ## The service -/

namespace Conf

open Api (App Answer shows)

section

variable [TimeZone.Database] [Api.Documentation]

/-- The answer of a service that runs on the configuration. -/
def answer (conf : Conf) (now : String) (request : Request) : Answer :=
  (App.ofDeployment { conf }).answer ⟨some { conf }, now⟩ request

variable {conf : Conf} {method path query : String} {headers : Headers}

theorem hides_of_not_admits (h : ¬conf.Admits headers) (now : String) :
    ∀ route ∈ (App.ofDeployment { conf }).routes, Api.Hides
      (route.run ⟨some { conf }, now⟩ (Request.ofSent method path query headers)) := by
  intro route hroute
  rcases App.mem_routes_ofDeployment.mp hroute with hdocumentation | rfl | rfl
  · exact Api.hides_documentation {} _ _ route hdocumentation
  · exact Api.hides_health _ _
  · exact Api.hides_protect (mt Api.admits_of_authorizes h) _

/-- Routes take from the configuration what they show and what they ask for, and an unauthorized
request sees nothing of the former. -/
theorem run_of_not_admits (h : ¬conf.Admits headers) (publicUrl timeZone now later : String) :
    ∀ route ∈ (App.ofDeployment { conf }).routes,
      route.run ⟨some { conf := { conf with publicUrl := publicUrl, timeZone := timeZone } }, later⟩
          (Request.ofSent method path query headers) =
        route.run ⟨some { conf }, now⟩ (Request.ofSent method path query headers) := by
  intro route hroute
  rcases App.mem_routes_ofDeployment.mp hroute with hdocumentation | rfl | rfl
  · exact Api.Route.run_documentation hdocumentation _
  · rfl
  · exact Api.protect_of_not_authorized (mt Api.admits_of_authorizes h) _ _

/-- The information about the service is shown to admitted requests only. Any other request gets an
answer that does not depend on it, and neither does what is logged. A token that is empty or is sent
under another name admits nobody, and neither does a configuration without tokens or without the
name of a header. -/
theorem answer_without_token (conf : Conf) (method path query : String) (headers : Headers) :
    (∀ now,
        shows (conf.answer now (Request.ofSent method path query headers)).response.body = true →
        conf.Admits headers) ∧
      (¬conf.Admits headers → ∀ publicUrl timeZone now later,
        ({ conf with publicUrl := publicUrl, timeZone := timeZone } : Conf).answer later
            (Request.ofSent method path query headers) =
          conf.answer now (Request.ofSent method path query headers)) ∧
      (conf.authHeaderName = "" ∨ (∀ token ∈ conf.authTokens, token = "") ∨
          sentHeader? headers conf.authHeaderName = none ∨
          sentHeader? headers conf.authHeaderName = some "" →
        ¬conf.Admits headers) := by
  refine ⟨?_, ?_, ?_⟩
  · intro now hshows
    apply Classical.byContradiction
    intro h
    have hhides : shows
        (conf.answer now (Request.ofSent method path query headers)).response.body = false :=
      App.answer_hides (hides_of_not_admits h now)
    exact Bool.false_ne_true (hhides.symm.trans hshows)
  · intro h publicUrl timeZone now later
    apply App.answer_congr
    exact run_of_not_admits h publicUrl timeZone now later
  · rintro hcase ⟨hname, token, hsent, hne, hmem⟩
    rcases hcase with hnone | htokens | hmissing | hempty
    · exact hname hnone
    · exact hne (htokens token hmem)
    · rw [hmissing] at hsent
      cases hsent
    · rw [hempty] at hsent
      exact hne (Option.some.inj hsent).symm

end

open scoped Release

def guarded : Conf where
  listenAddress := "127.0.0.1"
  listenPort := 8080
  timeZone := "Africa/Cairo"
  authHeaderName := "X-Token"
  authTokens := ["", "secret"]
  logging := {}
  redis := {}
  db := {}
  archiver := {}
  indexer := {}
  reporting := {}

/-- The first header of the name counts, here in the one request and there in the other. -/
theorem guarded_answer_without_token :
    guarded.Admits [("X-TOKEN", "secret"), ("x-token", "")] ∧
      ¬guarded.Admits [("x-token", ""), ("X-TOKEN", "secret")] ∧
      ({ guarded with publicUrl := "http://other", timeZone := "Africa/Accra" } : Conf).answer "1"
          (Request.ofSent "GET" "/info" "" [("x-token", ""), ("X-TOKEN", "secret")]) =
        guarded.answer "0"
          (Request.ofSent "GET" "/info" "" [("x-token", ""), ("X-TOKEN", "secret")]) := by
  have hshows : shows (guarded.answer "0" (Request.ofSent "GET" "/info" ""
      [("X-TOKEN", "secret"), ("x-token", "")])).response.body = true := by
    decide +kernel
  have hempty : sentHeader? [("x-token", ""), ("X-TOKEN", "secret")] "X-Token" = some "" := by
    decide +kernel
  obtain ⟨hadmits, -, -⟩ := answer_without_token guarded "GET" "/info" ""
    [("X-TOKEN", "secret"), ("x-token", "")]
  obtain ⟨-, hsame, hnot⟩ := answer_without_token guarded "GET" "/info" ""
    [("x-token", ""), ("X-TOKEN", "secret")]
  have hnot := hnot (.inr (.inr (.inr hempty)))
  exact ⟨hadmits "0" hshows, hnot, hsame hnot "http://other" "Africa/Accra" "0" "1"⟩

end Conf

end ServiceBoot
