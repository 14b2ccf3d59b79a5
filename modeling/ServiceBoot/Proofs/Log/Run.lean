import ServiceBoot.Proofs.Log.Line
import ServiceBoot.Proofs.Log.Outputs

/-!
# Runs of the journal

The journal is set up again and again, with entries logged in between. What one step preserves is
preserved by a run of any length: the only file that is open is the one that the journal is set up
to, which is what was last asked for with success, and every destination keeps what it has and gets
the lines that are written to it, in order.
-/

namespace ServiceBoot.Log

namespace Logger

/-- An entry with the context of the logger that it goes through. -/
def full (logger : Logger) (entry : Entry) : Entry :=
  { entry with fields := logger.context.putAll entry.fields }

@[simp]
theorem level_full (logger : Logger) (entry : Entry) :
    (logger.full entry).level = entry.level := rfl

end Logger

namespace Journal

variable {journal next : Journal} {stamp : String} {logger : Logger} {entry : Entry}

/-! ## Logging an entry -/

/-- What becomes of an entry that is logged without an exception. -/
inductive Logged (journal : Journal) (stamp : String) (logger : Logger) (entry : Entry) :
    Journal → Prop
  | held (hsetup : logger.setup journal = none) :
    Logged journal stamp logger entry (journal.hold (logger.full entry))
  | dropped (setup : Setup) (hsetup : logger.setup journal = some setup)
    (hadmits : setup.admits entry.level = false) : Logged journal stamp logger entry journal
  | written (setup : Setup) (destination : Destination) (line : String)
    (hsetup : logger.setup journal = some setup) (hadmits : setup.admits entry.level = true)
    (hclash : Call.assemble.clash? entry.fields = none)
    (hdestination : journal.destination? setup.output = some destination)
    (hline : setup.format.line stamp journal.shared (logger.full entry) = .ok line) :
    Logged journal stamp logger entry (journal.extended destination (lineBytes line))

theorem ownNames_subset_of_mem_logCalls {call : Call} {setup : Option Setup} {level : Level}
    (h : call ∈ logCalls setup level) : call.ownNames ⊆ Call.assemble.ownNames := by
  have hcalls : call ∈ [Call.accept, .assemble, .ignore] := by
    unfold logCalls at h
    split at h
    · exact List.mem_append_left [.ignore] h
    · exact List.mem_append_right [.accept, .assemble] h
  have hnames : ∀ call ∈ [Call.accept, .assemble, .ignore],
      call.ownNames ⊆ Call.assemble.ownNames := by
    decide
  exact hnames call hcalls

theorem findSome?_logCalls_of_free (h : Call.assemble.clash? entry.fields = none)
    (setup : Option Setup) :
    (logCalls setup entry.level).findSome? (·.clash? entry.fields) = none := by
  rw [List.findSome?_eq_none_iff]
  intro call hcall
  exact Call.clash?_eq_none_of_assemble (ownNames_subset_of_mem_logCalls hcall) h

theorem free_of_findSome?_logCalls {setup : Option Setup}
    (hadmits : setup.all (·.admits entry.level) = true)
    (h : (logCalls setup entry.level).findSome? (·.clash? entry.fields) = none) :
    Call.assemble.clash? entry.fields = none := by
  rw [logCalls, if_pos hadmits, List.findSome?_eq_none_iff] at h
  exact h .assemble (List.mem_cons_of_mem _ (List.mem_cons_self ..))

theorem log_eq (journal : Journal) (stamp : String) (logger : Logger) (entry : Entry) :
    journal.log stamp logger entry =
      match (logCalls (logger.setup journal) entry.level).findSome? (·.clash? entry.fields) with
      | some clash => .error (.clash clash)
      | none => journal.record stamp (logger.setup journal) (logger.full entry) := rfl

theorem log_of_free (h : Call.assemble.clash? entry.fields = none) :
    journal.log stamp logger entry =
      journal.record stamp (logger.setup journal) (logger.full entry) := by
  rw [log_eq, findSome?_logCalls_of_free h]

theorem log_of_clash (stamp : String) {clash : Clash}
    (hadmits : (logger.setup journal).all (·.admits entry.level))
    (h : Call.assemble.clash? entry.fields = some clash) :
    ∃ clash, journal.log stamp logger entry = .error (.clash clash) := by
  rw [log_eq]
  cases hcalls : (logCalls (logger.setup journal) entry.level).findSome?
      (·.clash? entry.fields) with
  | some clash => exact ⟨clash, rfl⟩
  | none => simp [free_of_findSome?_logCalls hadmits hcalls] at h

theorem record_of_admits {setup : Setup} {line : String}
    (hadmits : setup.admits entry.level = true)
    (hline : setup.format.line stamp journal.shared entry = .ok line) :
    journal.record stamp (some setup) entry = journal.write setup.output line := by
  simp only [record, hadmits, if_true, hline]

theorem log_written {setup : Setup} {destination : Destination} {line : String}
    (hsetup : logger.setup journal = some setup) (hadmits : setup.admits entry.level = true)
    (hclash : Call.assemble.clash? entry.fields = none)
    (hdestination : journal.destination? setup.output = some destination)
    (hline : setup.format.line stamp journal.shared (logger.full entry) = .ok line) :
    journal.log stamp logger entry = .ok (journal.extended destination (lineBytes line)) := by
  have hadmits' : setup.admits (logger.full entry).level = true := hadmits
  rw [log_of_free hclash, hsetup, record_of_admits hadmits' hline, write_eq, hdestination]

theorem logged_of_log (h : journal.log stamp logger entry = .ok next) :
    Logged journal stamp logger entry next := by
  rw [log_eq] at h
  split at h
  · cases h
  next hcalls =>
    unfold record at h
    split at h
    next hsetup =>
      cases h
      exact .held hsetup
    next setup hsetup =>
      split at h
      next hadmits =>
        split at h
        · cases h
        next line hline =>
          rw [write_eq] at h
          split at h
          next destination hdestination =>
            cases h
            have hall : (logger.setup journal).all (·.admits entry.level) = true := by
              simpa [hsetup] using hadmits
            exact .written setup destination line hsetup hadmits
              (free_of_findSome?_logCalls hall hcalls) hdestination hline
          · cases h
      next hadmits =>
        cases h
        exact .dropped setup hsetup (by simpa using hadmits)

/-! ## What logging keeps -/

theorem Sound.of_streams (hsound : journal.Sound) (hstreams : next.streams = journal.streams)
    (hlatest : next.latest = journal.latest) (hsetup : next.setup = journal.setup)
    (hstays : ∀ destination, journal.IsThere destination → next.IsThere destination) :
    next.Sound := by
  have hdestination (output : Output) : next.destination? output = journal.destination? output := by
    cases output with
    | standard => rfl
    | file serial => simp only [destination?, hstreams]
  have hisOpen (output : Output) : next.isOpen output = journal.isOpen output := by
    cases output with
    | standard => rfl
    | file serial => simp only [Journal.isOpen, hstreams]
  constructor
  · simpa only [hlatest, hsetup] using hsound.latest
  · simpa only [hisOpen, hsetup] using hsound.current
  · simpa only [hisOpen, hsetup] using hsound.isOpen
  · intro output destination h
    rw [hdestination] at h
    exact hstays destination (hsound.isThere output destination h)
  · simpa only [hsetup] using hsound.coloured

theorem isThere_extended {destination other : Destination} (h : journal.IsThere other)
    (bytes : Bytes) : (journal.extended destination bytes).IsThere other := by
  cases destination with
  | printed => cases other <;> exact h
  | file place =>
    cases other with
    | printed => trivial
    | file other => exact Files.HasFile.append h place bytes

/-- Logging an entry leaves the setup and the outputs as they are. -/
structure Kept (journal next : Journal) : Prop where
  setup : next.setup = journal.setup
  streams : next.streams = journal.streams
  latest : next.latest = journal.latest
  shared : next.shared = journal.shared
  isThere : ∀ destination, journal.IsThere destination → next.IsThere destination

theorem Kept.sound (hkept : Kept journal next) (hsound : journal.Sound) : next.Sound :=
  hsound.of_streams hkept.streams hkept.latest hkept.setup hkept.isThere

theorem Kept.aim? (hkept : Kept journal next) : next.aim? = journal.aim? := by
  have hdestination : next.destination? = journal.destination? := by
    funext output
    cases output with
    | standard => rfl
    | file serial => simp only [destination?, hkept.streams]
  have haimOf : next.aimOf? = journal.aimOf? := by
    funext setup
    simp only [aimOf?, hdestination]
  simp only [Journal.aim?, hkept.setup, haimOf]

theorem Logged.kept (h : Logged journal stamp logger entry next) : Kept journal next := by
  cases h with
  | held _ => exact ⟨rfl, rfl, rfl, rfl, fun destination h ↦ by cases destination <;> exact h⟩
  | dropped _ _ _ => exact ⟨rfl, rfl, rfl, rfl, fun _ h ↦ h⟩
  | written _ _ _ _ _ _ _ _ =>
    exact ⟨setup_extended _, streams_extended _, latest_extended _, shared_extended _,
      fun _ h ↦ isThere_extended h _⟩

end Journal

/-! ## Steps -/

inductive Step where
  | configure (block : Block.Logging.WithLevel) (development : Bool)
  | log (stamp : String) (logger : Logger) (entry : Entry)
  deriving Repr

namespace Journal

/-- The journal after a step, be it with an error or without. -/
def after (journal : Journal) : Step → Journal
  | .configure block development =>
    match journal.configure block development with
    | .ok next => next
    | .error failure => failure.journal
  | .log stamp logger entry =>
    match journal.log stamp logger entry with
    | .ok next => next
    | .error _ => journal

def run (journal : Journal) (steps : List Step) : Journal := steps.foldl after journal

/-- The journal as it is before it was ever set up. -/
def start (files : Files) : Journal := { files := files }

end Journal

/-- What a step asks for the journal to be set up to, if it can be. -/
def Step.asked? (journal : Journal) : Step → Option Aim
  | .configure block development => Aim.asked? journal.files block development
  | .log _ _ _ => none

/-- What a step adds to a destination: the line of an entry that is admitted, clashes with nothing
and goes through a logger whose output has this destination. -/
def Step.adds (journal : Journal) (destination : Destination) : Step → Bytes
  | .configure _ _ => []
  | .log stamp logger entry =>
    match logger.setup journal with
    | none => []
    | some setup =>
      if setup.admits entry.level ∧ Call.assemble.clash? entry.fields = none ∧
          journal.destination? setup.output = some destination then
        match setup.format.line stamp journal.shared (logger.full entry) with
        | .ok line => Journal.lineBytes line
        | .error _ => []
      else []

namespace Journal

variable {journal next : Journal} {stamp : String} {logger : Logger} {entry : Entry}

/-- All that a step can do: it fails and adds nothing, it sets the journal up as it was asked to, or
it logs an entry. -/
inductive Stepped (journal : Journal) : Step → Journal → Prop
  | failed (step : Step) (hasked : step.asked? journal = none)
    (hadds : ∀ destination, step.adds journal destination = []) : Stepped journal step journal
  | ready (block : Block.Logging.WithLevel) (development : Bool) (aim : Aim) (next : Journal)
    (hasked : Aim.asked? journal.files block development = some aim)
    (hready : Ready journal aim next) : Stepped journal (.configure block development) next
  | logged (stamp : String) (logger : Logger) (entry : Entry) (next : Journal)
    (hlogged : Logged journal stamp logger entry next) :
    Stepped journal (.log stamp logger entry) next

theorem adds_of_error {error : WriteError} (h : journal.log stamp logger entry = .error error)
    (destination : Destination) : (Step.log stamp logger entry).adds journal destination = [] := by
  unfold Step.adds
  simp only
  split
  · rfl
  next setup hsetup =>
    split
    next hwritten =>
      obtain ⟨hadmits, hclash, hdestination⟩ := hwritten
      split
      next line hline =>
        -- Nothing is left that the call could have failed at.
        rw [log_written hsetup hadmits hclash hdestination hline] at h
        cases h
      · rfl
    · rfl

theorem Logged.contentOf (h : Logged journal stamp logger entry next) (hsound : journal.Sound)
    (destination : Destination) : next.contentOf destination =
      journal.contentOf destination ++ (Step.log stamp logger entry).adds journal destination := by
  cases h with
  | held hsetup =>
    simp only [Step.adds, hsetup, List.append_nil]
    exact contentOf_congr rfl rfl destination
  | dropped setup hsetup hadmits =>
    simp [Step.adds, hsetup, hadmits]
  | written setup other line hsetup hadmits hclash hdestination hline =>
    rw [contentOf_extended (hsound.isThere _ _ hdestination)]
    simp only [Step.adds, hsetup, hadmits, hclash, hdestination, hline, true_and,
      Option.some.injEq, eq_comm]

theorem stepped_after (hsound : journal.Sound) (step : Step) :
    Stepped journal step (journal.after step) := by
  cases step with
  | configure block development =>
    rcases configure_cases hsound block development with ⟨error, hconfigure, hasked⟩ |
      ⟨aim, next, hconfigure, hasked, hready⟩
    · simp only [after, hconfigure]
      exact .failed _ hasked fun _ ↦ rfl
    · simp only [after, hconfigure]
      exact .ready block development aim next hasked hready
  | log stamp logger entry =>
    cases hlog : journal.log stamp logger entry with
    | error error =>
      simp only [after, hlog]
      exact .failed _ rfl (adds_of_error hlog)
    | ok next =>
      simp only [after, hlog]
      exact .logged stamp logger entry next (logged_of_log hlog)

variable {step : Step}

theorem Stepped.sound (h : Stepped journal step next) (hsound : journal.Sound) : next.Sound := by
  cases h with
  | failed _ _ _ => exact hsound
  | ready _ _ _ _ _ hready => exact hready.sound
  | logged _ _ _ _ hlogged => exact hlogged.kept.sound hsound

theorem Stepped.shared (h : Stepped journal step next) : next.shared = journal.shared := by
  cases h with
  | failed _ _ _ => rfl
  | ready _ _ _ _ _ hready => exact hready.shared
  | logged _ _ _ _ hlogged => exact hlogged.kept.shared

theorem Stepped.aim? (h : Stepped journal step next) :
    next.aim? = (step.asked? journal).or journal.aim? := by
  cases h with
  | failed _ hasked _ => rw [hasked, Option.none_or]
  | ready _ _ _ _ hasked hready => rw [hready.aim, Step.asked?, hasked, Option.some_or]
  | logged _ _ _ _ hlogged => exact hlogged.kept.aim?

theorem Stepped.contentOf (h : Stepped journal step next) (hsound : journal.Sound)
    (destination : Destination) : next.contentOf destination =
      journal.contentOf destination ++ step.adds journal destination := by
  cases h with
  | failed _ _ hadds => rw [hadds, List.append_nil]
  | ready _ _ _ _ _ hready => rw [hready.contentOf, Step.adds, List.append_nil]
  | logged _ _ _ _ hlogged => exact hlogged.contentOf hsound destination

/-! ### Any number of steps -/

theorem sound_start (files : Files) : (start files).Sound where
  latest := rfl
  current := nofun
  isOpen := nofun
  isThere := by
    rintro (_ | serial) destination h
    · cases h
      trivial
    · cases h
  coloured := nofun

theorem sound_run (hsound : journal.Sound) (steps : List Step) : (journal.run steps).Sound := by
  induction steps generalizing journal with
  | nil => exact hsound
  | cons step rest ih => exact ih ((stepped_after hsound step).sound hsound)

theorem shared_run (hsound : journal.Sound) (steps : List Step) :
    (journal.run steps).shared = journal.shared := by
  induction steps generalizing journal with
  | nil => rfl
  | cons step rest ih =>
    have hstepped := stepped_after hsound step
    exact (ih (hstepped.sound hsound)).trans hstepped.shared

end Journal

end ServiceBoot.Log
