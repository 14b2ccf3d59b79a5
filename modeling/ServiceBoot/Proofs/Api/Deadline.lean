import ServiceBoot.Proofs.Api.Verdict

/-!
# What the deadline does

A resolved configuration puts every request under a deadline. The deadline does not show in what is
answered in time, and a request that is late gets one answer and one warning, as long as the clock
can hold the deadline. If it cannot, no request gets as far as the inner layers, and each ends in a
fault.
-/

namespace ServiceBoot.Conf

open Api
open Http (Request Response)

/-! ## An answer under a deadline -/

/-- The answer to a request is the one that the inner layers made in time, or the one for those that
are late; the deadline is never the cause of a fault. -/
structure KeepsDeadline (conf : Conf) (request : Request) (inner : Attempt Response)
    (answer : Answer) : Prop where
  answered : ∀ response, inner.ending = .ok response →
    inner.millis < conf.serverWriteTimeoutSecs * 1000 → answer = ⟨response, inner.entries, none⟩
  failed : ∀ fault, inner.ending = .error fault →
    inner.millis < conf.serverWriteTimeoutSecs * 1000 →
    answer = ⟨.internalError, inner.entries ++ [App.faultEntry fault request], some fault⟩
  late : conf.serverWriteTimeoutSecs * 1000 < inner.millis →
    answer =
      ⟨.json 504 (.object [("detail", .str "Request timed out")]),
        inner.entries ++ [.warning "Request exceeded write timeout"
          [("path", .str request.addressPath), ("method", .str request.method),
            ("timeout_secs", .int conf.serverWriteTimeoutSecs)]],
        none⟩
  fault : ∀ fault, answer.fault = some fault → inner.ending = .error fault

variable {conf : Conf} {request : Request} {inner : Attempt Response}

/-- A fault of the deadline is not one of the inner layers, unless they have the same one. -/
theorem not_keepsDeadline_brokenDown (hending : inner.ending ≠ .error .deadlineTooLong) :
    ¬conf.KeepsDeadline request inner (brokenDown .deadlineTooLong request) :=
  fun h ↦ hending (h.fault .deadlineTooLong rfl)

theorem isTooLong_eq_false_iff : (Seconds.whole conf.serverWriteTimeoutSecs).isTooLong = false ↔
    conf.serverWriteTimeoutSecs < Seconds.clockLimit := by
  simp [Seconds.isTooLong]

theorem isTooLong_eq_true_iff : (Seconds.whole conf.serverWriteTimeoutSecs).isTooLong = true ↔
    Seconds.clockLimit ≤ conf.serverWriteTimeoutSecs := by
  simp [Seconds.isTooLong]

section

variable [TimeZone.Database] [Documentation]

theorem answerTo_of_isTooLong (h : conf.IsResolved)
    (hlong : Seconds.clockLimit ≤ conf.serverWriteTimeoutSecs) :
    (App.ofDeployment { conf }).answerTo request inner = brokenDown .deadlineTooLong request :=
  App.answerTo_of_isTooLong h.deadline_pos (isTooLong_eq_true_iff.mpr hlong)

/-- The clock can hold the deadline, so what is in time passes and what is late is cut off. -/
theorem keepsDeadline_answerTo (hresolved : conf.IsResolved)
    (hclock : conf.serverWriteTimeoutSecs < Seconds.clockLimit) :
    conf.KeepsDeadline request inner ((App.ofDeployment { conf }).answerTo request inner) := by
  have hset := isTooLong_eq_false_iff.mpr hclock
  have htime (h : inner.millis ≤ conf.serverWriteTimeoutSecs * 1000) :
      (inner.millis : Int) ≤ (App.ofDeployment { conf }).deadline.millis := h
  have hlate (h : conf.serverWriteTimeoutSecs * 1000 < inner.millis) :
      (App.ofDeployment { conf }).answerTo request inner =
        ⟨.timedOut, inner.entries ++ [lateEntry (.whole conf.serverWriteTimeoutSecs) request],
          none⟩ := App.answerTo_of_late hresolved.deadline_pos hset h
  constructor
  case answered =>
    intro response hending hbefore
    exact App.answerTo_of_answered hset (htime (by omega)) hending
  case failed =>
    intro fault hending hbefore
    exact App.answerTo_of_failed hset (htime (by omega)) hending
  case late => exact hlate
  case fault =>
    intro fault hfault
    by_cases hbefore : (inner.millis : Int) ≤ conf.serverWriteTimeoutSecs * 1000
    · cases hending : inner.ending with
      | ok response =>
        rw [App.answerTo_of_answered hset (htime hbefore) hending] at hfault
        cases hfault
      | error cause =>
        rw [App.answerTo_of_failed hset (htime hbefore) hending] at hfault
        cases hfault
        rfl
    · rw [hlate (by omega)] at hfault
      cases hfault

/-! ## The deadline of a resolved configuration -/

/-- Resolving leaves a deadline that is in force for every request, and it is kept, whatever the
inner layers do, just if the clock can hold it. Otherwise every request ends in the same fault. -/
theorem keepsDeadline_iff {given : Conf} (h : (resolve given).fault = none)
    (hconf : (resolve given).state = conf) :
    0 < (App.ofDeployment { conf }).deadline.millis ∧
      (∀ circumstances request, (App.ofDeployment { conf }).answer circumstances request =
        (App.ofDeployment { conf }).answerTo request
          ((App.ofDeployment { conf }).shared circumstances request)) ∧
      ((∀ request inner, conf.KeepsDeadline request inner
          ((App.ofDeployment { conf }).answerTo request inner)) ↔
        conf.serverWriteTimeoutSecs < Seconds.clockLimit) ∧
      (Seconds.clockLimit ≤ conf.serverWriteTimeoutSecs → ∀ request inner,
        (App.ofDeployment { conf }).answerTo request inner =
          brokenDown .deadlineTooLong request) := by
  have hresolved : conf.IsResolved := hconf ▸ isResolved_resolve h
  refine ⟨hresolved.deadline_pos, fun circumstances request ↦ App.answer_eq_answerTo circumstances,
    ⟨?held, fun hclock request inner ↦ keepsDeadline_answerTo hresolved hclock⟩,
    fun hlong request inner ↦ answerTo_of_isTooLong hresolved hlong⟩
  intro hkeeps
  apply Classical.byContradiction
  intro hclock
  -- An answer that takes no time is in time under every deadline.
  have hanswer := hkeeps ⟨"GET", "/health", "", []⟩ (.done .notFound)
  rw [answerTo_of_isTooLong hresolved (by omega)] at hanswer
  refine not_keepsDeadline_brokenDown ?_ hanswer
  rintro ⟨⟩

end

open scoped Release

/-- The default deadline, and an answer shortly before it and shortly after. -/
theorem sample_keepsDeadline :
    (resolve sample).fault = none ∧ (resolve sample).state.serverWriteTimeoutSecs = 30 ∧
      ((App.ofDeployment { conf := (resolve sample).state }).answerTo ⟨"GET", "/", "", []⟩
        { millis := 29999, ending := .ok .notFound }) = ⟨.notFound, [], none⟩ ∧
      ((App.ofDeployment { conf := (resolve sample).state }).answerTo ⟨"GET", "/", "", []⟩
        { millis := 30001, ending := .ok .notFound }) =
          ⟨.json 504 (.object [("detail", .str "Request timed out")]),
            [.warning "Request exceeded write timeout"
              [("path", .str "/"), ("method", .str "GET"), ("timeout_secs", .int 30)]],
            none⟩ := by
  have hsecs : (resolve sample).state.serverWriteTimeoutSecs = 30 := by decide +kernel
  have hpath : Request.addressPath ⟨"GET", "/", "", []⟩ = "/" := by decide +kernel
  have hclock : (resolve sample).state.serverWriteTimeoutSecs < Seconds.clockLimit := by
    decide +kernel
  obtain ⟨-, -, hkeeps, -⟩ := keepsDeadline_iff resolve_sample_fault rfl
  have hsoon := hkeeps.mpr hclock ⟨"GET", "/", "", []⟩ { millis := 29999, ending := .ok .notFound }
  have hlate := hkeeps.mpr hclock ⟨"GET", "/", "", []⟩ { millis := 30001, ending := .ok .notFound }
  refine ⟨resolve_sample_fault, hsecs, hsoon.answered _ rfl ?_, ?_⟩
  · rw [hsecs]
    decide
  · have hanswer := hlate.late (by rw [hsecs]; decide)
    rwa [hsecs, hpath] at hanswer

/-- The sample with the shortest deadline that the clock cannot hold. -/
def patient : Conf := { sample with serverWriteTimeoutSecs := Seconds.clockLimit }

theorem wellFormed_patient : patient.WellFormed :=
  ⟨⟨wellFormed_sample.level, wellFormed_sample.endpoint⟩, by decide +kernel⟩

/-- It is parsed and resolved, and not even the health of the service is told. -/
theorem patient_not_keepsDeadline :
    parse (Text.Utf8.encode patient.toJson.toList) "camus.json" = .ok patient ∧
      (resolve patient).fault = none ∧
      ((resolve patient).state.answer "0" ⟨"GET", "/health", "", []⟩).response.status = 500 ∧
      ((App.ofDeployment { conf := (resolve patient).state }).shared
        ⟨some { conf := (resolve patient).state }, "0"⟩ ⟨"GET", "/health", "", []⟩).millis = 0 ∧
      ¬(resolve patient).state.KeepsDeadline ⟨"GET", "/health", "", []⟩
        ((App.ofDeployment { conf := (resolve patient).state }).shared
          ⟨some { conf := (resolve patient).state }, "0"⟩ ⟨"GET", "/health", "", []⟩)
        ((resolve patient).state.answer "0" ⟨"GET", "/health", "", []⟩) := by
  have hfault : (resolve patient).fault = none := by decide +kernel
  have hlong : Seconds.clockLimit ≤ (resolve patient).state.serverWriteTimeoutSecs := by
    decide +kernel
  have hanswer : (resolve patient).state.answer "0" ⟨"GET", "/health", "", []⟩ =
      brokenDown .deadlineTooLong ⟨"GET", "/health", "", []⟩ :=
    answer_of_isTooLong (isResolved_resolve hfault) (isTooLong_eq_true_iff.mpr hlong)
  refine ⟨parse_toJson wellFormed_patient "camus.json", hfault, ?_, by decide +kernel, ?_⟩
  · rw [hanswer]
    rfl
  · rw [hanswer]
    apply not_keepsDeadline_brokenDown
    have hok : ((App.ofDeployment { conf := (resolve patient).state }).shared
        ⟨some { conf := (resolve patient).state }, "0"⟩
        ⟨"GET", "/health", "", []⟩).ending.isOk = true := by decide +kernel
    intro hending
    rw [hending] at hok
    cases hok

end ServiceBoot.Conf
