import ServiceBoot.Api.App

/-!
# The layers of the app

What the inner layers end in has a property if it is had by what each route ends in and by what the
layers answer on their own. The outer layers deal with every attempt alike, by the time that it took
and by the way that it ended.
-/

namespace ServiceBoot.Api

open Http (Cors Request Response)

/-! ## What an attempt ends in -/

namespace Attempt

/-- If the attempt ends in an answer at all, the answer has the property. -/
def Ends (P : Response → Prop) (attempt : Attempt Response) : Prop :=
  ∀ response, attempt.ending = .ok response → P response

variable {P : Response → Prop}

theorem ends_done {response : Response} (h : P response) : Ends P (.done response) := by
  rintro _ ⟨⟩
  exact h

theorem ends_failed (fault : Fault) : Ends P (.failed fault) := by
  rintro _ ⟨⟩

theorem Ends.map {f : Response → Response} {attempt : Attempt Response}
    (h : Ends (fun response ↦ P (f response)) attempt) : Ends P (attempt.map f) := by
  intro response hresponse
  simp only [Attempt.map] at hresponse
  cases hending : attempt.ending with
  | error fault => simp [hending, Except.map] at hresponse
  | ok inner =>
    simp only [hending, Except.map, Except.ok.injEq] at hresponse
    subst hresponse
    exact h inner hending

end Attempt

open Attempt (Ends ends_done ends_failed)

/-! ## The inner layers -/

section

variable {P : Response → Prop} {circumstances : Circumstances} {request : Request}

theorem Route.ends_protect {conf : Conf} {inner : Attempt Response} (hrefused : P .unauthorized)
    (hinner : Token.authorizes conf request = .ok true → Ends P inner) :
    Ends P (Route.protect conf request inner) := by
  unfold Route.protect
  split
  · exact ends_failed _
  · exact ends_done hrefused
  · rename_i hauthorized
    exact hinner hauthorized

section

variable [Documentation] {profile : Profile}

/-- The documentation is a schema and pages. -/
theorem Route.ends_documentation (hschema : P (.json 200 (schemaOf profile)))
    (hpage : ∀ text, P (.html text)) :
    ∀ route ∈ documentation profile, Ends P (route.run circumstances request) := by
  intro route hroute
  simp only [documentation, List.mem_cons, List.not_mem_nil, or_false] at hroute
  rcases hroute with rfl | rfl | rfl | rfl
  · exact ends_done hschema
  · exact ends_done (hpage _)
  · exact ends_done (hpage _)
  · exact ends_done (hpage _)

/-- The documentation is the same whatever is in force. -/
theorem Route.run_documentation {route : Route} (h : route ∈ documentation profile)
    (other : Circumstances) : route.run circumstances request = route.run other request := by
  simp only [documentation, List.mem_cons, List.not_mem_nil, or_false] at h
  rcases h with rfl | rfl | rfl | rfl <;> rfl

end

namespace App

variable {app : App}

theorem mem_routes_ofDeployment [TimeZone.Database] [Documentation] {deployment : Deployment}
    {route : Route} : route ∈ (ofDeployment deployment).routes ↔
      route ∈ Route.documentation {} ∨ route = .health ∨ route = .info := by
  simp [ofDeployment]

theorem ends_dispatch (hroutes : ∀ route ∈ app.routes, Ends P (route.run circumstances request))
    (hmethod : ∀ allowed, P (.methodNotAllowed allowed))
    (hredirect : ∀ address, P (.redirect address)) (hmissing : P .notFound) :
    Ends P (app.dispatch circumstances request) := by
  unfold dispatch
  split
  · rename_i route hroute
    split
    · exact hroutes route (List.mem_of_find?_eq_some hroute)
    · exact ends_done (hmethod _)
  · simp only
    split
    · exact ends_done (hredirect _)
    · exact ends_done hmissing

theorem ends_shared
    (hpreflight : ∀ preflight, Cors.preflight? request = some preflight →
      P (app.cors.preflightResponse preflight))
    (hdispatch : Ends (fun response ↦ P (app.cors.mark request response))
      (app.dispatch circumstances request)) : Ends P (app.shared circumstances request) := by
  unfold shared
  split
  · rename_i preflight hsome
    exact ends_done (hpreflight preflight hsome)
  · exact hdispatch.map

end App

end

/-! ## The deadline -/

namespace Attempt

variable {deadline : Seconds} {request : Request} {attempt : Attempt Response}

theorem before_of_isTooLong (hpositive : 0 < deadline.millis) (hlong : deadline.isTooLong = true) :
    attempt.before deadline request = .failed .deadlineTooLong := by
  rw [before, if_neg (by omega), if_pos hlong]

theorem before_of_late (hpositive : 0 < deadline.millis) (hset : deadline.isTooLong = false)
    (hlate : deadline.millis < attempt.millis) :
    attempt.before deadline request =
      { entries := attempt.entries ++ [lateEntry deadline request]
        millis := deadline.millis.toNat
        ending := .ok .timedOut } := by
  rw [before, if_neg (by omega), if_neg (by simp [hset]), if_pos hlate]

theorem before_of_inTime (hset : deadline.isTooLong = false)
    (htime : (attempt.millis : Int) ≤ deadline.millis) :
    attempt.before deadline request = attempt := by
  unfold before
  split
  · rfl
  · rw [if_neg (by simp [hset]), if_neg (by omega)]

/-- A deadline lets an answer pass, or it makes one of its own. -/
theorem Ends.before {P : Response → Prop} (h : Ends P attempt) (hlate : P .timedOut) :
    Ends P (attempt.before deadline request) := by
  unfold Attempt.before
  split
  · exact h
  · split
    · exact ends_failed _
    · split
      · exact ends_done hlate
      · exact h

end Attempt

/-! ## The outer layers -/

namespace App

variable {app : App} {request : Request} {inner : Attempt Response}

/-- The answer that the outer layers make of an attempt of the inner ones. -/
def answerTo (app : App) (request : Request) (inner : Attempt Response) : Answer :=
  let attempt := inner.before app.deadline request
  match attempt.ending with
  | .ok response => ⟨response, attempt.entries, none⟩
  | .error fault => ⟨.internalError, attempt.entries ++ [faultEntry fault request], some fault⟩

theorem answer_eq_answerTo (circumstances : Circumstances) :
    app.answer circumstances request = app.answerTo request (app.shared circumstances request) :=
  rfl

theorem answerTo_of_isTooLong (hpositive : 0 < app.deadline.millis)
    (hlong : app.deadline.isTooLong = true) :
    app.answerTo request inner =
      ⟨.internalError, [faultEntry .deadlineTooLong request], some .deadlineTooLong⟩ := by
  rw [answerTo, Attempt.before_of_isTooLong hpositive hlong]
  rfl

theorem answerTo_of_late (hpositive : 0 < app.deadline.millis)
    (hset : app.deadline.isTooLong = false) (hlate : app.deadline.millis < inner.millis) :
    app.answerTo request inner =
      ⟨.timedOut, inner.entries ++ [lateEntry app.deadline request], none⟩ := by
  rw [answerTo, Attempt.before_of_late hpositive hset hlate]

theorem answerTo_of_answered {response : Response} (hset : app.deadline.isTooLong = false)
    (htime : (inner.millis : Int) ≤ app.deadline.millis) (hending : inner.ending = .ok response) :
    app.answerTo request inner = ⟨response, inner.entries, none⟩ := by
  simp only [answerTo, Attempt.before_of_inTime hset htime, hending]

theorem answerTo_of_failed {fault : Fault} (hset : app.deadline.isTooLong = false)
    (htime : (inner.millis : Int) ≤ app.deadline.millis) (hending : inner.ending = .error fault) :
    app.answerTo request inner =
      ⟨.internalError, inner.entries ++ [faultEntry fault request], some fault⟩ := by
  simp only [answerTo, Attempt.before_of_inTime hset htime, hending]

/-- The deadline is in force and the clock can hold it, and the inner layers take longer. -/
structure IsLate (app : App) (millis : Nat) : Prop where
  positive : 0 < app.deadline.millis
  set : app.deadline.isTooLong = false
  late : app.deadline.millis < millis

/-- The ways that the outer layers deal with an attempt. -/
inductive Deals (app : App) (request : Request) (inner : Attempt Response) : Answer → Prop
  | passed {response : Response} :
      inner.ending = .ok response →
      ¬app.IsLate inner.millis →
      Deals app request inner ⟨response, inner.entries, none⟩
  | late :
      app.IsLate inner.millis →
      Deals app request inner
        ⟨.timedOut, inner.entries ++ [lateEntry app.deadline request], none⟩
  | failed {entries : List Log.Entry} {fault : Fault} :
      ¬app.IsLate inner.millis →
      Deals app request inner ⟨.internalError, entries ++ [faultEntry fault request], some fault⟩

theorem deals_answerTo : Deals app request inner (app.answerTo request inner) := by
  by_cases hlate : app.IsLate inner.millis
  · rw [answerTo_of_late hlate.positive hlate.set hlate.late]
    exact .late hlate
  by_cases hpassed : app.deadline.millis ≤ 0 ∨ app.deadline.isTooLong = false
  · -- A deadline that is not in force, or one that is met.
    have hbefore : inner.before app.deadline request = inner := by
      rcases hpassed with hnone | hset
      · exact if_pos hnone
      · by_cases hnone : app.deadline.millis ≤ 0
        · exact if_pos hnone
        · apply Attempt.before_of_inTime hset
          apply Int.not_lt.mp
          exact fun htime ↦ hlate ⟨Int.not_le.mp hnone, hset, htime⟩
    cases hending : inner.ending with
    | ok response =>
      simp only [answerTo, hbefore, hending]
      exact .passed hending hlate
    | error fault =>
      simp only [answerTo, hbefore, hending]
      exact .failed hlate
  · obtain ⟨hpositive, hlong⟩ := not_or.mp hpassed
    rw [answerTo_of_isTooLong (Int.not_le.mp hpositive) (by simpa using hlong)]
    exact @Deals.failed app request inner [] _ hlate

/-- An answer is one that the attempt under the deadline ends in, or the one after a fault. -/
theorem answerTo_response (P : Response → Prop)
    (h : Ends P (inner.before app.deadline request)) (hfault : P .internalError) :
    P (app.answerTo request inner).response := by
  unfold answerTo
  simp only
  split
  · rename_i response hresponse
    exact h response hresponse
  · exact hfault

end App

end ServiceBoot.Api
