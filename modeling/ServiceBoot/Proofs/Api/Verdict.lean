import Mathlib.Data.List.TakeWhile
import ServiceBoot.Proofs.Api.Authorization
import ServiceBoot.Proofs.Conf.Loaded

/-!
# The verdict on a request

A request for the information about the service is due one of two answers, by whether its headers
are admitted. It gets that answer if the check of its token comes to an end, and then the place of
the token among the known ones does not matter. The check can break down on two things only: the
name of the header cannot be sent, or the token is compared with one that is not ASCII before it is
found.
-/

namespace ServiceBoot

open Http (Headers Request Response)

namespace Api

/-! ## The token -/

namespace Token

/-- All comparisons that are made work, from the first known token to the one that is given. -/
def Comparable (given : String) (known : List String) : Prop :=
  known = [] ∨ isAscii given = true ∧ ∀ token ∈ known.takeWhile (· ≠ given), isAscii token = true

theorem comparable_cons {given token : String} {others : List String} :
    Comparable given (token :: others) ↔
      isAscii given = true ∧ isAscii token = true ∧ (given = token ∨ Comparable given others) := by
  by_cases h : given = token
  · subst h
    simp [Comparable]
  · have htake : (token :: others).takeWhile (· ≠ given) =
        token :: others.takeWhile (· ≠ given) := by
      simp [Ne.symm h]
    constructor
    · rintro (hnil | ⟨hgiven, hascii⟩)
      · cases hnil
      · rw [htake, List.forall_mem_cons] at hascii
        exact ⟨hgiven, hascii.1, .inr (.inr ⟨hgiven, hascii.2⟩)⟩
    · rintro ⟨hgiven, htoken, hcase⟩
      refine .inr ⟨hgiven, ?_⟩
      rw [htake, List.forall_mem_cons]
      obtain rfl | ⟨-, hothers⟩ := hcase.resolve_left h
      · exact ⟨htoken, by simp⟩
      · exact ⟨htoken, hothers⟩

/-- One comparison, and the search among the others unless it settles the matter. -/
theorem isAmong_cons (given token : String) (others : List String) :
    isAmong given (token :: others) =
      if isAscii given = true ∧ isAscii token = true then
        if given = token then .ok true else isAmong given others
      else .error .tokensNotComparable := by
  by_cases hascii : isAscii given = true ∧ isAscii token = true
  · by_cases h : given = token <;>
      simp [isAmong, areEqual, hascii, h, bind, Except.bind, pure, Except.pure]
  · have hnot : (isAscii given && isAscii token) = false := by
      simpa [Bool.and_eq_false_iff] using hascii
    simp [isAmong, areEqual, hascii, hnot, bind, Except.bind]

theorem isAmong_of_comparable {given : String} {known : List String} (h : Comparable given known) :
    isAmong given known = .ok (known.contains given) := by
  induction known with
  | nil => rfl
  | cons token others ih =>
    obtain ⟨hgiven, htoken, hcase⟩ := comparable_cons.mp h
    rw [isAmong_cons, if_pos ⟨hgiven, htoken⟩]
    by_cases heq : given = token
    · simp [heq]
    · rw [if_neg heq, ih (hcase.resolve_left heq)]
      simp [heq]

theorem isAmong_of_not_comparable {given : String} {known : List String}
    (h : ¬Comparable given known) : isAmong given known = .error .tokensNotComparable := by
  induction known with
  | nil => exact absurd (.inl rfl) h
  | cons token others ih =>
    rw [isAmong_cons]
    split
    · rename_i hascii
      rw [comparable_cons] at h
      have hne : ¬given = token := fun heq ↦ h ⟨hascii.1, hascii.2, .inl heq⟩
      rw [if_neg hne]
      exact ih fun hothers ↦ h ⟨hascii.1, hascii.2, .inr hothers⟩
    · rfl

theorem unsendable?_eq_none_iff {text : String} :
    unsendable? text = none ↔ ∀ c ∈ text.toList, isSendable c = true := by
  simp [unsendable?, List.dropWhile_eq_nil_iff]

end Token

end Api

namespace Conf

open Api

/-! ## The check -/

/-- The check of the headers comes to an end. -/
structure Decides (conf : Conf) (headers : Headers) : Prop where
  name : ∀ c ∈ (Text.lowercase conf.authHeaderName).toList, Token.isSendable c = true
  token : conf.authHeaderName ≠ "" → ∀ token, sentHeader? headers conf.authHeaderName = some token →
    token ≠ "" → Token.Comparable token conf.authTokens

variable {conf : Conf} {method path query now : String} {headers : Headers} {request : Request}

theorem admits_iff (hname : conf.authHeaderName ≠ "") :
    conf.Admits headers ↔ ∃ token, sentHeader? headers conf.authHeaderName = some token ∧
      token ≠ "" ∧ token ∈ conf.authTokens :=
  ⟨fun h ↦ h.token, fun h ↦ ⟨hname, h⟩⟩

theorem authorizes_of_name_eq (h : conf.authHeaderName = "") :
    Token.authorizes conf request = .ok false := by
  simp [Token.authorizes, Token.given?, h, bind, Except.bind, pure, Except.pure]

/-- Under a name that can be sent, the check is a search for the token that the headers carry. -/
theorem authorizes_of_sendable (hname : conf.authHeaderName ≠ "")
    (hsendable : Token.unsendable? (Text.lowercase conf.authHeaderName) = none) :
    Token.authorizes conf (Request.ofSent method path query headers) =
      match sentHeader? headers conf.authHeaderName with
      | none | some "" => .ok false
      | some token => Token.isAmong token conf.authTokens := by
  simp only [Token.authorizes, Token.given?, hname, hsendable, if_false, header?_ofSent,
    bind, Except.bind]
  rfl

theorem authorizes_of_unsendable {characters : Unsendable} (hname : conf.authHeaderName ≠ "")
    (hsendable : Token.unsendable? (Text.lowercase conf.authHeaderName) = some characters) :
    Token.authorizes conf request = .error (.unsendableHeaderName characters) := by
  simp [Token.authorizes, Token.given?, hname, hsendable, bind, Except.bind]

/-- A check that comes to an end admits the right requests. -/
theorem authorizes_of_decides (h : conf.Decides headers) :
    Token.authorizes conf (Request.ofSent method path query headers) = .ok true ∧
        conf.Admits headers ∨
      Token.authorizes conf (Request.ofSent method path query headers) = .ok false ∧
        ¬conf.Admits headers := by
  by_cases hname : conf.authHeaderName = ""
  · exact .inr ⟨authorizes_of_name_eq hname, fun hadmits ↦ hadmits.name_ne hname⟩
  rw [authorizes_of_sendable hname (Token.unsendable?_eq_none_iff.mpr h.name), admits_iff hname]
  cases hsent : sentHeader? headers conf.authHeaderName with
  | none => simp
  | some token =>
    by_cases hempty : token = ""
    · subst hempty
      simp
    · have hsearch := Token.isAmong_of_comparable (h.token hname token hsent hempty)
      by_cases hmem : token ∈ conf.authTokens <;> simp [hsearch, hempty, hmem]

/-- A check that comes to no end breaks down on the name of the header or on a comparison. -/
theorem authorizes_of_not_decides (h : ¬conf.Decides headers) :
    ∃ fault, Token.authorizes conf (Request.ofSent method path query headers) = .error fault ∧
      (fault = .tokensNotComparable ∨ ∃ characters, fault = .unsendableHeaderName characters) := by
  -- Without a name, no header is looked up and no comparison is made.
  have hname : conf.authHeaderName ≠ "" := by
    intro hname
    refine h ⟨?_, fun hne ↦ absurd hname hne⟩
    rw [hname]
    simp [Text.lowercase, Text.Lowercase.chars, Text.Lowercase.following]
  cases hsendable : Token.unsendable? (Text.lowercase conf.authHeaderName) with
  | some characters => exact ⟨_, authorizes_of_unsendable hname hsendable, .inr ⟨characters, rfl⟩⟩
  | none =>
    have hnot : ¬∀ token, sentHeader? headers conf.authHeaderName = some token → token ≠ "" →
        Token.Comparable token conf.authTokens :=
      fun hall ↦ h ⟨Token.unsendable?_eq_none_iff.mp hsendable, fun _ ↦ hall⟩
    simp only [Classical.not_forall] at hnot
    obtain ⟨token, hsent, hne, hnot⟩ := hnot
    refine ⟨.tokensNotComparable, ?_, .inl rfl⟩
    simp only [authorizes_of_sendable hname hsendable, hsent,
      Token.isAmong_of_not_comparable hnot]

/-! ## The answer -/

/-- The answer that shows the information. -/
def shown (conf : Conf) (now : String) (request : Request) : Answer where
  response := Http.Cors.mark ⟨conf.corsAllowedOrigins⟩ request (.json 200 (.object
    [("publicUrl", .str conf.publicUrl), ("timeZone", .str conf.timeZone),
      ("serverTime", .str now)]))
  entries := []
  fault := none

/-- The answer that refuses it. -/
def refused (conf : Conf) (request : Request) : Answer where
  response := Http.Cors.mark ⟨conf.corsAllowedOrigins⟩ request .unauthorized
  entries := [Route.unauthorizedEntry conf request]
  fault := none

/-- The answer after a fault. -/
def brokenDown (fault : Fault) (request : Request) : Answer where
  response := .internalError
  entries := [App.faultEntry fault request]
  fault := some fault

/-- What the check of a request ends in decides on the answer. -/
def concluded (conf : Conf) (now : String) (request : Request) : Except Fault Bool → Answer
  | .ok true => conf.shown now request
  | .ok false => conf.refused request
  | .error fault => brokenDown fault request

theorem millis_protect {inner : Attempt Response} :
    (Route.protect conf request inner).millis ≤ inner.millis := by
  unfold Route.protect
  split
  · exact Nat.zero_le _
  · exact Nat.zero_le _
  · exact Nat.le_refl _

/-- The answer is the one that the headers call for. -/
structure IsDue (conf : Conf) (now : String) (headers : Headers) (request : Request)
    (answer : Answer) : Prop where
  admitted : conf.Admits headers → answer = conf.shown now request
  refused : ¬conf.Admits headers → answer = conf.refused request

theorem IsDue.fault_eq_none {answer : Answer} (h : conf.IsDue now headers request answer) :
    answer.fault = none := by
  by_cases hadmits : conf.Admits headers
  · rw [h.admitted hadmits]
    rfl
  · rw [h.refused hadmits]
    rfl

theorem not_isDue_brokenDown {fault : Fault} :
    ¬conf.IsDue now headers request (brokenDown fault request) := by
  intro h
  cases h.fault_eq_none

theorem isDue_concluded (h : conf.Decides headers) :
    conf.IsDue now headers (Request.ofSent method path query headers)
      (conf.concluded now (Request.ofSent method path query headers)
        (Token.authorizes conf (Request.ofSent method path query headers))) := by
  rcases authorizes_of_decides h with ⟨hverdict, hadmits⟩ | ⟨hverdict, hadmits⟩
  · rw [hverdict]
    exact ⟨fun _ ↦ rfl, fun hnot ↦ absurd hadmits hnot⟩
  · rw [hverdict]
    exact ⟨fun hyes ↦ absurd hyes hadmits, fun _ ↦ rfl⟩

/-! ## The way to the answer -/

section

variable [TimeZone.Database]

theorem IsResolved.deadline_pos (h : conf.IsResolved) :
    0 < (Seconds.whole conf.serverWriteTimeoutSecs).millis := by
  have hpositive := h.serverWriteTimeoutSecs_pos
  simp only [Seconds.millis]
  omega

variable [Documentation]

theorem route?_info (hpath : Route.info.matches? request.path = true) :
    (App.ofDeployment { conf }).route? request.path = some .info := by
  have hapart : (["/openapi.json", "/docs", "/docs/oauth2-redirect", "/redoc", "/health"].all
      fun known ↦ ["/info", "/info" ++ "\n"].all
        fun path ↦ !(path == known || path == known ++ "\n")) = true := by decide +kernel
  have hothers : ∀ route ∈ Route.documentation {} ++ [.health],
      ¬route.matches? request.path = true := by
    intro route hroute
    have hknown : route.path ∈
        ["/openapi.json", "/docs", "/docs/oauth2-redirect", "/redoc", "/health"] :=
      List.mem_map_of_mem (f := Route.path) hroute
    simp only [Route.matches?, Bool.or_eq_true, beq_iff_eq] at hpath
    have hmem : request.path ∈ ["/info", "/info" ++ "\n"] := List.mem_pair.mpr hpath
    have hno := List.all_eq_true.mp (List.all_eq_true.mp hapart _ hknown) _ hmem
    simpa [Route.matches?] using hno
  have hroutes : (App.ofDeployment { conf }).routes =
      (Route.documentation {} ++ [.health]) ++ [.info] := by simp [App.ofDeployment]
  rw [App.route?, hroutes, List.find?_append, List.find?_eq_none.mpr hothers]
  simp [hpath]

theorem dispatch_info (hmethod : request.method = "GET")
    (hpath : Route.info.matches? request.path = true) :
    (App.ofDeployment { conf }).dispatch ⟨some { conf }, now⟩ request =
      Route.protect conf request (.ofExcept (Route.information conf now)) := by
  have hallowed : request.method ∈ Route.info.methods := by simp [hmethod, Route.info]
  simp only [App.dispatch, route?_info hpath, if_pos hallowed]
  rfl

theorem shared_info (hmethod : request.method = "GET")
    (hpath : Route.info.matches? request.path = true) :
    (App.ofDeployment { conf }).shared ⟨some { conf }, now⟩ request =
      (Route.protect conf request (.ofExcept (Route.information conf now))).map
        (Http.Cors.mark ⟨conf.corsAllowedOrigins⟩ request) := by
  have hpreflight : Http.Cors.preflight? request = none := by
    simp [Http.Cors.preflight?, hmethod]
  simp only [App.shared, hpreflight, dispatch_info hmethod hpath]
  rfl

/-- The check decides on the answer, if the deadline can be set. -/
theorem answer_info (h : conf.IsResolved) (hmethod : request.method = "GET")
    (hpath : Route.info.matches? request.path = true)
    (hset : (Seconds.whole conf.serverWriteTimeoutSecs).isTooLong = false) :
    conf.answer now request = conf.concluded now request (Token.authorizes conf request) := by
  have htimed : (App.ofDeployment { conf }).timed ⟨some { conf }, now⟩ request =
      (Route.protect conf request (.ofExcept (Route.information conf now))).map
        (Http.Cors.mark ⟨conf.corsAllowedOrigins⟩ request) := by
    rw [App.timed, shared_info hmethod hpath]
    apply Attempt.before_of_inTime hset
    have hinstant : (Route.protect conf request
        (.ofExcept (Route.information conf now))).millis ≤ 0 := millis_protect
    have hpositive := h.deadline_pos
    show ((Route.protect conf request _).millis : Int) ≤ _
    omega
  have hinformation : Route.information conf now = .ok (.json 200 (.object
      [("publicUrl", .str conf.publicUrl), ("timeZone", .str conf.timeZone),
        ("serverTime", .str now)])) := by
    simp only [Route.information, h.timeZone?]
  rw [answer, App.answer, htimed, hinformation, Route.protect]
  cases Token.authorizes conf request with
  | error fault => rfl
  | ok admitted => cases admitted <;> rfl

/-- A deadline that cannot be set keeps the request from its route. -/
theorem answer_of_isTooLong (h : conf.IsResolved)
    (hlong : (Seconds.whole conf.serverWriteTimeoutSecs).isTooLong = true) :
    conf.answer now request = brokenDown .deadlineTooLong request := by
  rw [answer, App.answer_eq_answerTo]
  exact App.answerTo_of_isTooLong h.deadline_pos hlong

/-- A request for the information is given its due if and only if the check of its headers comes to
an end and the deadline can be set. Otherwise there is a fault: the deadline, or else what the check
broke down on. -/
theorem answer_isDue_iff (h : conf.IsResolved) (hpath : Route.info.matches? path = true)
    (query now : String) (headers : Headers) :
    (conf.IsDue now headers (Request.ofSent "GET" path query headers)
          (conf.answer now (Request.ofSent "GET" path query headers)) ↔
        conf.Decides headers ∧
          (Seconds.whole conf.serverWriteTimeoutSecs).isTooLong = false) ∧
      (conf.Decides headers →
        Token.authorizes conf (Request.ofSent "GET" path query headers) = .ok true ∧
            conf.Admits headers ∨
          Token.authorizes conf (Request.ofSent "GET" path query headers) = .ok false ∧
            ¬conf.Admits headers) ∧
      (¬conf.Decides headers →
        ∃ fault, (fault = .tokensNotComparable ∨
            ∃ characters, fault = .unsendableHeaderName characters) ∧
          Token.authorizes conf (Request.ofSent "GET" path query headers) = .error fault ∧
          ((Seconds.whole conf.serverWriteTimeoutSecs).isTooLong = false →
            conf.answer now (Request.ofSent "GET" path query headers) =
              brokenDown fault (Request.ofSent "GET" path query headers))) ∧
      ((Seconds.whole conf.serverWriteTimeoutSecs).isTooLong = true →
        conf.answer now (Request.ofSent "GET" path query headers) =
          brokenDown .deadlineTooLong (Request.ofSent "GET" path query headers)) := by
  refine ⟨⟨?_, ?_⟩, authorizes_of_decides, ?_, answer_of_isTooLong h⟩
  · intro hdue
    -- What follows a fault is neither of the answers that can be due.
    cases hset : (Seconds.whole conf.serverWriteTimeoutSecs).isTooLong with
    | true =>
      rw [answer_of_isTooLong h hset] at hdue
      exact absurd hdue not_isDue_brokenDown
    | false =>
      refine ⟨Classical.byContradiction fun hnot ↦ ?_, rfl⟩
      obtain ⟨fault, hfault, -⟩ := authorizes_of_not_decides hnot
      rw [answer_info h rfl hpath hset, hfault] at hdue
      exact not_isDue_brokenDown hdue
  · rintro ⟨hdecides, hset⟩
    rw [answer_info h rfl hpath hset]
    exact isDue_concluded hdecides
  · intro hnot
    obtain ⟨fault, hfault, hkind⟩ := authorizes_of_not_decides hnot
    refine ⟨fault, hkind, hfault, fun hset ↦ ?_⟩
    rw [answer_info h rfl hpath hset, hfault]
    rfl

end

open scoped Release

/-- The sample with tokens. -/
def keyed (tokens : List String) : Conf :=
  { sample with authHeaderName := "X-Token", authTokens := tokens }

theorem wellFormed_keyed (tokens : List String) : (keyed tokens).WellFormed :=
  ⟨⟨wellFormed_sample.level, wellFormed_sample.endpoint⟩, wellFormed_sample.integers⟩

/-- A token that is not ASCII does no harm behind the one that is found. -/
theorem keyed_answer_isDue :
    (resolve (keyed ["secret", "č"])).fault = none ∧
      (resolve (keyed ["secret", "č"])).state.IsDue "0" [("x-token", "secret")]
        (Request.ofSent "GET" "/info" "" [("x-token", "secret")])
        ((resolve (keyed ["secret", "č"])).state.answer "0"
          (Request.ofSent "GET" "/info" "" [("x-token", "secret")])) := by
  have hfault : (resolve (keyed ["secret", "č"])).fault = none := by decide +kernel
  have hname : (resolve (keyed ["secret", "č"])).state.authHeaderName = "X-Token" := by
    rw [resolve_state hfault]
    rfl
  have hsent : sentHeader? [("x-token", "secret")] "X-Token" = some "secret" := by decide +kernel
  have hdecides : (resolve (keyed ["secret", "č"])).state.Decides [("x-token", "secret")] := by
    constructor
    · rw [hname]
      exact List.all_eq_true.mp (by decide +kernel)
    · intro _ token htoken _
      rw [hname, hsent] at htoken
      cases htoken
      exact .inr ⟨by decide +kernel, by decide +kernel⟩
  refine ⟨hfault, (answer_isDue_iff (isResolved_resolve hfault) (by decide +kernel) "" "0"
    [("x-token", "secret")]).1.mpr ⟨hdecides, by decide +kernel⟩⟩

/-- Before the one that would be found, it breaks the check down. -/
theorem keyed_answer_not_isDue :
    parse (Text.Utf8.encode (keyed ["č", "secret"]).toJson.toList) "camus.json" =
        .ok (keyed ["č", "secret"]) ∧
      (resolve (keyed ["č", "secret"])).fault = none ∧
      (resolve (keyed ["č", "secret"])).state.Admits [("X-Token", "secret")] ∧
      ((resolve (keyed ["č", "secret"])).state.answer "0"
        (Request.ofSent "GET" "/info" "" [("X-Token", "secret")])).response.status = 500 ∧
      ((resolve (keyed ["č", "secret"])).state.answer "0"
        (Request.ofSent "GET" "/info" "" [("X-Token", "secret")])).fault =
          some .tokensNotComparable := by
  refine ⟨parse_toJson (wellFormed_keyed _) "camus.json", by decide +kernel, ?_, by decide +kernel,
    by decide +kernel⟩
  exact ⟨by decide +kernel, "secret", by decide +kernel, by decide +kernel, by decide +kernel⟩

end Conf

end ServiceBoot
