import ServiceBoot.Proofs.Api.Authorization
import ServiceBoot.Proofs.Conf.RoundTrip

/-!
# With whom an answer is shared

A browser lets the page of an origin read an answer that names the origin. The answers of the inner
layers name the origin of their request just if it is allowed, be they answers of a route, refusals
or answers to a preflight request. What the outer layers answer on their own, after a fault or past
the deadline, names no origin at all.
-/

namespace ServiceBoot

open Http (Cors Headers Request Response)

/-! ## Headers -/

namespace Http.Cors

/-- The origins that the headers of an answer name. -/
def sharedWith (headers : Headers) : List String :=
  (headers.filter (·.1 == "access-control-allow-origin")).map (·.2)

@[simp] theorem sharedWith_nil : sharedWith [] = [] := rfl

@[simp] theorem sharedWith_append (headers more : Headers) :
    sharedWith (headers ++ more) = sharedWith headers ++ sharedWith more := by
  simp [sharedWith]

theorem sharedWith_cons_of_ne {name : String} (h : name ≠ "access-control-allow-origin")
    (value : String) (headers : Headers) :
    sharedWith ((name, value) :: headers) = sharedWith headers := by
  simp [sharedWith, h]

/-- The origin alone is named, if it is among those allowed, and no other one if it is not. -/
def Shares (origins : List String) (origin : String) (headers : Headers) : Prop :=
  sharedWith headers = if origin ∈ origins then [origin] else []

instance (origins : List String) (origin : String) (headers : Headers) :
    Decidable (Shares origins origin headers) :=
  inferInstanceAs (Decidable (sharedWith headers = _))

variable {cors : Cors} {origin : String} {request : Request}

theorem shares_originHeaders (hstar : "*" ∉ cors.origins) (origin : String) :
    Shares cors.origins origin (cors.originHeaders origin) := by
  unfold Shares originHeaders
  by_cases h : origin ∈ cors.origins
  · have hallows : cors.allows origin = true := allows_iff.mpr (.inr h)
    simp [hallows, h, sharedWith]
  · have hallows : ¬cors.allows origin = true := by
      rw [allows_iff]
      exact not_or.mpr ⟨hstar, h⟩
    simp [hallows, h]

theorem shares_answerHeaders (hstar : "*" ∉ cors.origins)
    (horigin : request.header? "origin" = some origin) :
    Shares cors.origins origin (cors.answerHeaders request) := by
  calc sharedWith (cors.answerHeaders request)
      _ = sharedWith (cors.originHeaders origin) := by
        simp [answerHeaders, horigin, sharedWith_cons_of_ne]
      _ = _ := shares_originHeaders hstar origin

theorem shares_preflightHeaders (hstar : "*" ∉ cors.origins) (preflight : Preflight) :
    Shares cors.origins preflight.origin (cors.preflightHeaders preflight) := by
  calc sharedWith (cors.preflightHeaders preflight)
      _ = sharedWith (cors.originHeaders preflight.origin) := by
        cases hheaders : preflight.headers <;>
          simp [preflightHeaders, hheaders, sharedWith_cons_of_ne]
      _ = _ := shares_originHeaders hstar preflight.origin

theorem origin_of_preflight? {preflight : Preflight} (h : preflight? request = some preflight) :
    request.header? "origin" = some preflight.origin := by
  unfold preflight? at h
  split at h
  · obtain ⟨origin, horigin, h⟩ := Option.bind_eq_some_iff.mp h
    obtain ⟨method, -, h⟩ := Option.bind_eq_some_iff.mp h
    cases h
    exact horigin
  · cases h

end Http.Cors

/-! ## The inner layers -/

namespace Api

/-- The statuses of the answers that the outer layers make on their own. -/
def outerStatuses : List Nat := [500, 504]

/-- An answer before it is marked names no origin, and it is none of the outer layers. -/
structure Unmarked (response : Response) : Prop where
  status : response.status ∉ outerStatuses
  origins : Cors.sharedWith response.headers = []

/-- An answer of the inner layers names the origin of its request as it should. -/
structure Marked (origins : List String) (origin : String) (response : Response) : Prop where
  status : response.status ∉ outerStatuses
  shares : Cors.Shares origins origin response.headers

theorem Marked.status_ne {origins : List String} {origin : String} {response : Response}
    (h : Marked origins origin response) : response.status ≠ 500 ∧ response.status ≠ 504 := by
  simpa [outerStatuses] using h.status

theorem unmarked_json {status : Nat} (h : status ∉ outerStatuses) (value : Json.Value) :
    Unmarked (.json status value) :=
  ⟨h, Cors.sharedWith_cons_of_ne (by decide) _ _⟩

theorem unmarked_html (text : String) : Unmarked (.html text) :=
  ⟨(by decide : 200 ∉ outerStatuses), Cors.sharedWith_cons_of_ne (by decide) _ _⟩

theorem unmarked_redirect (address : String) : Unmarked (.redirect address) :=
  ⟨(by decide : 307 ∉ outerStatuses), Cors.sharedWith_cons_of_ne (by decide) _ _⟩

theorem unmarked_methodNotAllowed (allowed : String) : Unmarked (.methodNotAllowed allowed) := by
  refine ⟨(by decide : 405 ∉ outerStatuses), ?_⟩
  simp [Response.methodNotAllowed, Response.withHeaders, Response.failure, Response.json,
    Cors.sharedWith_cons_of_ne]

variable {circumstances : Circumstances} {request : Request}

theorem unmarked_info [TimeZone.Database] :
    (Route.info.run circumstances request).Ends Unmarked := by
  unfold Route.info
  simp only
  split
  · exact Attempt.ends_failed _
  · apply Route.ends_protect (unmarked_json (by decide) _)
    intro _ response hresponse
    simp only [Attempt.ofExcept, Route.information] at hresponse
    split at hresponse
    · cases hresponse
    · cases hresponse
      exact unmarked_json (by decide) _

theorem unmarked_routes [TimeZone.Database] [Documentation] (deployment : Deployment) :
    ∀ route ∈ (App.ofDeployment deployment).routes,
      (route.run circumstances request).Ends Unmarked := by
  intro route hroute
  rcases App.mem_routes_ofDeployment.mp hroute with hdocumentation | rfl | rfl
  · exact Route.ends_documentation (unmarked_json (by decide) _) unmarked_html route hdocumentation
  · exact Attempt.ends_done (unmarked_json (by decide) _)
  · exact unmarked_info

variable {cors : Cors} {origin : String}

theorem Unmarked.mark {response : Response} (h : Unmarked response) (hstar : "*" ∉ cors.origins)
    (horigin : request.header? "origin" = some origin) :
    Marked cors.origins origin (cors.mark request response) := by
  refine ⟨h.status, ?_⟩
  calc Cors.sharedWith (response.headers ++ cors.answerHeaders request)
      _ = Cors.sharedWith (cors.answerHeaders request) := by
        rw [Cors.sharedWith_append, h.origins, List.nil_append]
      _ = _ := Cors.shares_answerHeaders hstar horigin

theorem marked_preflightResponse (hstar : "*" ∉ cors.origins) (preflight : Cors.Preflight) :
    Marked cors.origins preflight.origin (cors.preflightResponse preflight) := by
  have hplain (status : Nat) (text : String) (hstatus : status ∉ outerStatuses) :
      Marked cors.origins preflight.origin
        (.plain status text (cors.preflightHeaders preflight)) := by
    refine ⟨hstatus, ?_⟩
    calc Cors.sharedWith (_ :: cors.preflightHeaders preflight)
        _ = Cors.sharedWith (cors.preflightHeaders preflight) :=
          Cors.sharedWith_cons_of_ne (by decide) _ _
        _ = _ := Cors.shares_preflightHeaders hstar preflight
  unfold Cors.preflightResponse
  simp only
  split
  · exact hplain 200 "OK" (by decide)
  · exact hplain 400 _ (by decide)

namespace App

variable {app : App}

/-- Whatever the inner layers answer is marked for the origin of the request. -/
theorem marked_shared (hstar : "*" ∉ app.cors.origins)
    (hroutes : ∀ route ∈ app.routes, (route.run circumstances request).Ends Unmarked)
    (horigin : request.header? "origin" = some origin) :
    (app.shared circumstances request).Ends (Marked app.cors.origins origin) := by
  apply ends_shared
  · intro preflight hpreflight
    have hsame := Cors.origin_of_preflight? hpreflight
    rw [horigin, Option.some.injEq] at hsame
    subst hsame
    exact marked_preflightResponse hstar preflight
  · have hdispatch : (app.dispatch circumstances request).Ends Unmarked := by
      apply ends_dispatch hroutes
      · exact unmarked_methodNotAllowed
      · exact unmarked_redirect
      · exact unmarked_json (by decide) _
    intro response hresponse
    exact (hdispatch response hresponse).mark hstar horigin

end App

/-! ## The outer layers -/

namespace App.Deals

variable {app : App} {inner : Attempt Response} {origins : List String} {answer : Answer}
  (h : app.Deals request inner answer) (hmarked : inner.Ends (Marked origins origin))
include h hmarked

/-- What the outer layers answer on their own names no origin; all else is marked. -/
theorem marked_or : Marked origins origin answer.response ∨
    answer.response.status ∈ outerStatuses ∧ Cors.sharedWith answer.response.headers = [] := by
  cases h with
  | passed hending hpassed => exact .inl (hmarked _ hending)
  | late hlate => exact .inr ⟨(by decide : 504 ∈ outerStatuses), rfl⟩
  | failed hpassed => exact .inr ⟨(by decide : 500 ∈ outerStatuses), rfl⟩

theorem status_eq_timedOut_iff :
    answer.response.status = 504 ↔ app.IsLate inner.millis := by
  cases h with
  | passed hending hpassed => exact iff_of_false (hmarked _ hending).status_ne.2 hpassed
  | late hlate => exact iff_of_true rfl hlate
  | failed hpassed => exact iff_of_false (by decide : 500 ≠ 504) hpassed

theorem status_eq_internalError_iff :
    answer.response.status = 500 ↔ ∃ fault, answer.fault = some fault := by
  cases h with
  | passed hending hpassed => exact iff_of_false (hmarked _ hending).status_ne.1 (by simp)
  | late hlate => exact iff_of_false (by decide : 504 ≠ 500) (by simp)
  | failed hpassed => exact iff_of_true rfl ⟨_, rfl⟩

theorem sharedWith_eq_nil (houter : answer.response.status ∈ outerStatuses) :
    Cors.sharedWith answer.response.headers = [] := by
  rcases h.marked_or hmarked with hinner | ⟨-, hnone⟩
  · exact absurd houter hinner.status
  · exact hnone

theorem shares_iff :
    Cors.Shares origins origin answer.response.headers ↔
      (origin ∈ origins → answer.response.status ∉ outerStatuses) := by
  rcases h.marked_or hmarked with ⟨hstatus, hshares⟩ | ⟨hstatus, hnone⟩
  · exact iff_of_true hshares fun _ ↦ hstatus
  · calc Cors.Shares origins origin answer.response.headers
        _ ↔ origin ∉ origins := by simp [Cors.Shares, hnone]
        _ ↔ (origin ∈ origins → answer.response.status ∉ outerStatuses) :=
          imp_congr_right fun _ ↦ iff_of_false id (not_not_intro hstatus)

end App.Deals

namespace App

variable {app : App}

/-- The answer of the app if its inner layers take the given time. -/
def answerAfter (app : App) (millis : Nat) (circumstances : Circumstances) (request : Request) :
    Answer :=
  app.answerTo request { app.shared circumstances request with millis := millis }

theorem answer_eq_answerAfter : app.answer circumstances request =
    app.answerAfter (app.shared circumstances request).millis circumstances request := rfl

theorem deals_answerAfter (app : App) (millis : Nat) (circumstances : Circumstances)
    (request : Request) :
    app.Deals request { app.shared circumstances request with millis := millis }
      (app.answerAfter millis circumstances request) := deals_answerTo

end App

/-- The answer to a request from an origin names the origin just if it is allowed, however long the
inner layers take, unless the answer is made by the outer layers: past the deadline or after a
fault. Then it names no origin, not even one that is allowed. -/
theorem answer_shares_iff [TimeZone.Database] [Documentation] (deployment : Deployment)
    {headers : Headers} (hstar : "*" ∉ deployment.conf.corsAllowedOrigins)
    (hsent : sentHeader? headers "origin" = some origin)
    (circumstances : Circumstances) (method path query : String) (millis : Nat) :
    let answer := (App.ofDeployment deployment).answerAfter millis circumstances
      (Request.ofSent method path query headers)
    (Cors.Shares deployment.conf.corsAllowedOrigins origin answer.response.headers ↔
        (origin ∈ deployment.conf.corsAllowedOrigins → answer.response.status ∉ outerStatuses)) ∧
      (answer.response.status ∈ outerStatuses →
        Cors.sharedWith answer.response.headers = []) ∧
      (answer.response.status = 504 ↔ (App.ofDeployment deployment).IsLate millis) ∧
      (answer.response.status = 500 ↔ ∃ fault, answer.fault = some fault) := by
  intro answer
  have horigin : (Request.ofSent method path query headers).header? "origin" = some origin := by
    have hname : Text.lowercase "origin" = "origin" := by decide +kernel
    rw [← hsent, ← header?_ofSent method path query headers "origin", hname]
  have hmarked : ((App.ofDeployment deployment).shared circumstances
      (Request.ofSent method path query headers)).Ends
        (Marked deployment.conf.corsAllowedOrigins origin) :=
    App.marked_shared hstar (unmarked_routes deployment) horigin
  have hdeals := App.deals_answerAfter (App.ofDeployment deployment) millis circumstances
    (Request.ofSent method path query headers)
  exact ⟨hdeals.shares_iff hmarked, hdeals.sharedWith_eq_nil hmarked,
    hdeals.status_eq_timedOut_iff hmarked, hdeals.status_eq_internalError_iff hmarked⟩

/-! ## An origin that is allowed -/

open scoped Release

def sampleDeployment : Deployment := { conf := (Conf.resolve Conf.sample).state }

def sampleHeaders : Headers := [("Origin", "https://example.org")]

/-- The answer about the health of the service after a time. -/
def sampleAnswer (millis : Nat) : Answer :=
  (App.ofDeployment sampleDeployment).answerAfter millis ⟨some sampleDeployment, "0"⟩
    (Request.ofSent "GET" "/health" "" sampleHeaders)

/-- The page of the origin may read it, at once and as long as it is in time. -/
theorem sampleAnswer_shares :
    "*" ∉ sampleDeployment.conf.corsAllowedOrigins ∧
      sentHeader? sampleHeaders "origin" = some "https://example.org" ∧
      Cors.Shares sampleDeployment.conf.corsAllowedOrigins "https://example.org"
        ((App.ofDeployment sampleDeployment).answer ⟨some sampleDeployment, "0"⟩
          (Request.ofSent "GET" "/health" "" sampleHeaders)).response.headers ∧
      Cors.Shares sampleDeployment.conf.corsAllowedOrigins "https://example.org"
        (sampleAnswer 29999).response.headers := by
  have hstar : "*" ∉ sampleDeployment.conf.corsAllowedOrigins := by decide +kernel
  have hsent : sentHeader? sampleHeaders "origin" = some "https://example.org" := by
    decide +kernel
  refine ⟨hstar, hsent, ?_, ?_⟩
  · rw [App.answer_eq_answerAfter]
    obtain ⟨hshares, -⟩ := answer_shares_iff sampleDeployment hstar hsent
      ⟨some sampleDeployment, "0"⟩ "GET" "/health" ""
      ((App.ofDeployment sampleDeployment).shared ⟨some sampleDeployment, "0"⟩
        (Request.ofSent "GET" "/health" "" sampleHeaders)).millis
    exact hshares.mpr fun _ ↦ by decide +kernel
  · obtain ⟨hshares, -⟩ := answer_shares_iff sampleDeployment hstar hsent
      ⟨some sampleDeployment, "0"⟩ "GET" "/health" "" 29999
    have hstatus : (sampleAnswer 29999).response.status ∉ outerStatuses := by decide +kernel
    rw [sampleAnswer] at hstatus ⊢
    exact hshares.mpr fun _ ↦ hstatus

/-- Past the deadline, the page may not even read that it is late. -/
theorem sampleAnswer_not_shares :
    (Conf.resolve Conf.sample).fault = none ∧
      "*" ∉ sampleDeployment.conf.corsAllowedOrigins ∧
      sentHeader? sampleHeaders "origin" = some "https://example.org" ∧
      "https://example.org" ∈ sampleDeployment.conf.corsAllowedOrigins ∧
      (sampleAnswer 30001).response.status = 504 ∧
      ¬Cors.Shares sampleDeployment.conf.corsAllowedOrigins "https://example.org"
        (sampleAnswer 30001).response.headers := by
  refine ⟨Conf.resolve_sample_fault, ?_⟩
  decide +kernel

end Api

end ServiceBoot
