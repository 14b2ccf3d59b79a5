import ServiceBoot.Proofs.Log.Run

/-!
# Loggers with context

A logger with context keeps the setup that the journal had when it was made. It writes what a plain
logger does that is given the context with every entry, as long as the journal is not set up anew
and no field of the context takes a name that a call has for itself; and only then.
-/

namespace ServiceBoot.Log

/-- An entry that is given more fields, which come before its own. -/
def Entry.within (context : Fields) (entry : Entry) : Entry :=
  { entry with fields := (Fields.putAll [] context).putAll entry.fields }

/-- Whatever is logged through a logger has the effect that it has through a plain logger when it is
given with the context. -/
def Logger.Follows (logger : Logger) (context : Fields) (journal : Journal) : Prop :=
  ∀ stamp entry, journal.log stamp logger entry =
    journal.log stamp .current (entry.within context)

namespace Journal

variable {journal made now next : Journal} {stamp : String} {entry : Entry} {context : Fields}
  {logger : Logger}

theorem make_eq_ok (h : Logger.make journal context = .ok logger) :
    (context = [] ∧ logger = .current) ∨
      (context ≠ [] ∧ logger = .kept journal.setup (Fields.putAll [] context)) := by
  unfold Logger.make at h
  split at h
  · cases h
  · split at h
    next hempty =>
      cases h
      exact Or.inl ⟨List.isEmpty_iff.mp hempty, rfl⟩
    next hempty =>
      unfold Logger.bind at h
      split at h
      · cases h
      · cases h
        exact Or.inr ⟨mt List.isEmpty_iff.mpr hempty, rfl⟩

/-! ## The plain call that is given the context -/

theorem clash?_within (call : Call) (context : Fields) (entry : Entry) :
    call.clash? (entry.within context).fields =
      (call.clash? context).or (call.clash? entry.fields) := by
  have hempty : call.clash? [] = none := rfl
  simp only [Entry.within, Call.clash?_putAll, hempty, Option.none_or]

theorem full_within (setup : Option Setup) (context : Fields) (entry : Entry) :
    Logger.current.full (entry.within context) =
      (Logger.kept setup (Fields.putAll [] context)).full entry := by
  simp only [Logger.full, Logger.context, Entry.within, Fields.putAll_putAll]

theorem findSome?_logCalls_within (h : Call.assemble.clash? context = none)
    (setup : Option Setup) (entry : Entry) :
    (logCalls setup entry.level).findSome? (·.clash? (entry.within context).fields) =
      (logCalls setup entry.level).findSome? (·.clash? entry.fields) := by
  have hclash (call : Call) (hcall : call.ownNames ⊆ Call.assemble.ownNames) :
      call.clash? (entry.within context).fields = call.clash? entry.fields := by
    rw [clash?_within, Call.clash?_eq_none_of_assemble hcall h, Option.none_or]
  have haccept := hclash .accept (by decide)
  have hassemble := hclash .assemble (by decide)
  have hignore := hclash .ignore (by decide)
  unfold logCalls
  split <;> simp only [List.findSome?_cons, List.findSome?_nil, haccept, hassemble, hignore]

/-- A logger that has the current setup follows the plain one. -/
theorem log_within (h : Call.assemble.clash? context = none) (stamp : String) (entry : Entry) :
    journal.log stamp .current (entry.within context) =
      journal.log stamp (.kept journal.setup (Fields.putAll [] context)) entry := by
  have hcalls := findSome?_logCalls_within h journal.setup entry
  have hlevel : (entry.within context).level = entry.level := rfl
  simp only [log_eq, Logger.setup, hlevel, hcalls, full_within journal.setup]

/-! ## What runs make of the setup -/

/-- How the setup of a journal is related to that of an earlier one: it is the same, or the output
was opened since. -/
structure Later (made now : Journal) : Prop where
  setup : now.setup = made.setup ∨ ∃ setup, now.setup = some setup ∧
    (setup.output = .standard ∨ ∃ serial, made.streams.length ≤ serial ∧
      setup.output = .file serial)
  counted : made.streams.length ≤ now.streams.length

theorem Later.refl (journal : Journal) : Later journal journal := ⟨Or.inl rfl, Nat.le_refl _⟩

theorem Later.trans (h : Later made next) (h' : Later next now) : Later made now where
  setup := by
    rcases h'.setup with hsame | ⟨setup, hsetup, hstandard | ⟨serial, hserial, houtput⟩⟩
    · rw [hsame]
      exact h.setup
    · exact Or.inr ⟨setup, hsetup, Or.inl hstandard⟩
    · exact Or.inr ⟨setup, hsetup, Or.inr ⟨serial, Nat.le_trans h.counted hserial, houtput⟩⟩
  counted := Nat.le_trans h.counted h'.counted

theorem Stepped.later {step : Step} (h : Stepped journal step next) : Later journal next := by
  cases h with
  | failed _ _ _ => exact Later.refl journal
  | ready _ _ _ _ _ hready =>
    obtain ⟨setup, hsetup, houtput⟩ := hready.setup
    exact ⟨Or.inr ⟨setup, hsetup, houtput.imp_right fun h ↦ ⟨_, Nat.le_refl _, h⟩⟩,
      hready.counted⟩
  | logged _ _ _ _ hlogged =>
    have hkept := hlogged.kept
    exact ⟨Or.inl hkept.setup, Nat.le_of_eq (congrArg List.length hkept.streams.symm)⟩

theorem later_run (hsound : journal.Sound) (steps : List Step) :
    Later journal (journal.run steps) := by
  induction steps generalizing journal with
  | nil => exact Later.refl journal
  | cons step rest ih =>
    have hstepped := stepped_after hsound step
    exact hstepped.later.trans (ih (hstepped.sound hsound))

theorem Later.isSome (h : Later made now) {setup : Setup} (hsetup : made.setup = some setup) :
    ∃ current, now.setup = some current := by
  rcases h.setup with hsame | ⟨current, hcurrent, -⟩
  · exact ⟨setup, hsame.trans hsetup⟩
  · exact ⟨current, hcurrent⟩

/-- A file that was opened before is not opened again under its number. -/
theorem Later.setup_eq (h : Later made now) (hsound : made.Sound) {setup current : Setup}
    (hsetup : made.setup = some setup) (hcurrent : now.setup = some current)
    (houtput : setup.output = current.output) (hfile : setup.output ≠ .standard) :
    setup = current := by
  rcases h.setup with hsame | ⟨other, hother, hstandard | ⟨serial, hserial, hserial'⟩⟩
  · exact Option.some.inj (hsetup.symm.trans (hsame.symm.trans hcurrent))
  · cases Option.some.inj (hcurrent.symm.trans hother)
    exact absurd (houtput.trans hstandard) hfile
  · cases Option.some.inj (hcurrent.symm.trans hother)
    have hisOpen := hsound.isOpen setup hsetup
    rw [houtput, hserial', Journal.isOpen, List.getElem?_eq_none hserial] at hisOpen
    cases hisOpen

/-! ## What tells setups apart -/

theorem admits_critical (setup : Setup) : setup.admits .critical = true := by
  cases h : setup.level <;> simp [Setup.admits, h, Level.number]

/-- An entry that every setup makes a line of: it takes back the context of the logger. -/
def probe (logger : Logger) (level : Level) : Entry :=
  ⟨level, .null, logger.context.map fun field ↦ (field.1, .null)⟩

theorem clash?_probe (h : Call.assemble.clash? logger.context = none) (level : Level) :
    Call.assemble.clash? (probe logger level).fields = none := by
  rw [Call.clash?_eq_none_iff] at h ⊢
  intro field hfield
  obtain ⟨own, hown, rfl⟩ := List.mem_map.mp hfield
  exact h own hown

theorem eq_null_of_mem_probe {field : String × Json.Value} {level : Level}
    (h : field ∈ (logger.full (probe logger level)).fields) : field.2 = .null := by
  rcases Fields.mem_putAll h with hprobe | ⟨hnames, hcontext⟩
  · obtain ⟨own, -, rfl⟩ := List.mem_map.mp hprobe
    rfl
  · refine absurd ?_ hnames
    simpa [probe, Fields.names] using ⟨field.2, hcontext⟩

theorem line_of_probe (logger : Logger) (level : Level) (format : Format) (stamp : String) :
    ∃ line, format.line stamp [] (logger.full (probe logger level)) = .ok line := by
  have hwritable : Line.IsWritable (logger.full (probe logger level)) :=
    ⟨rfl, fun field hfield ↦ by rw [eq_null_of_mem_probe hfield, Json.Value.isWritable_null]⟩
  have htraceable : ∀ field ∈ (logger.full (probe logger level)).fields, Line.IsTraceable field :=
    fun field hfield _ ↦ Or.inl (eq_null_of_mem_probe hfield)
  exact Line.exists_line hwritable (fun _ ↦ htraceable) stamp

theorem eq_of_extended {destination other : Destination} {bytes bytes' : Bytes}
    (h : journal.IsThere destination) (h' : journal.IsThere other) (hbytes : bytes ≠ [])
    (heq : journal.extended destination bytes = journal.extended other bytes') :
    destination = other ∧ bytes = bytes' := by
  have hcontent := congrArg (·.contentOf destination) heq
  simp only [contentOf_extended h, contentOf_extended h', if_true, List.append_cancel_left_eq]
    at hcontent
  by_cases hother : destination = other
  · rw [if_pos hother] at hcontent
    exact ⟨hother, hcontent⟩
  · rw [if_neg hother] at hcontent
    exact absurd hcontent hbytes

theorem extended_ne {destination : Destination} {bytes : Bytes}
    (h : journal.IsThere destination) (hbytes : bytes ≠ []) :
    journal.extended destination bytes ≠ journal := by
  intro heq
  have hcontent := congrArg (·.contentOf destination) heq
  simp only [contentOf_extended h, if_true, List.append_right_eq_self] at hcontent
  exact hbytes hcontent

/-- No two outputs that are open have one destination. -/
theorem output_eq_of_destination (hsound : journal.Sound) {output other : Output}
    {destination : Destination} (h : journal.destination? output = some destination)
    (h' : journal.destination? other = some destination) : output = other := by
  have hprinted (serial : Nat) : journal.destination? (.file serial) ≠ some .printed := by
    simp only [destination?]
    split <;> simp
  cases output with
  | standard =>
    cases h
    cases other with
    | standard => rfl
    | file serial => exact absurd h' (hprinted serial)
  | file serial =>
    cases other with
    | standard =>
      cases h'
      exact absurd h (hprinted serial)
    | file serial' =>
      have hcurrent := hsound.current serial ((isOpen_iff _).mpr ⟨_, h⟩)
      have hcurrent' := hsound.current serial' ((isOpen_iff _).mpr ⟨_, h'⟩)
      exact Option.some.inj (hcurrent.symm.trans hcurrent')

theorem lineBytes_of_head? {line : String} {c : Char} (h : line.toList.head? = some c) :
    ∃ rest, lineBytes line = String.utf8EncodeChar c ++ rest := by
  obtain ⟨rest, hrest⟩ := List.head?_eq_some_iff.mp h
  rw [lineBytes, hrest]
  exact ⟨_, rfl⟩

theorem json_ne_coloured {shared shared' : Fields} {stamp stamp' : String} {entry entry' : Entry}
    {line line' : String} (h : Format.json.line stamp shared entry = .ok line)
    (h' : (Format.columns true).line stamp' shared' entry' = .ok line') :
    lineBytes line ≠ lineBytes line' := by
  obtain ⟨rest, hrest⟩ := lineBytes_of_head? (Line.head?_json h)
  obtain ⟨rest', hrest'⟩ := lineBytes_of_head? (Line.head?_coloured h')
  have hjson : String.utf8EncodeChar '\x7b' = [0x7b] := by decide
  have hcoloured : String.utf8EncodeChar '\x1b' = [0x1b] := by decide
  rw [hrest, hrest', hjson, hcoloured]
  simp

/-! ## Only the current setup has the effects of the current one -/

section

variable {setup current : Setup} (hsound : now.Sound) (hshared : now.shared = [])

include hshared

theorem record_probe {level : Level} (hadmits : setup.admits level = true) (logger : Logger)
    (stamp : String) :
    ∃ line, setup.format.line stamp [] (logger.full (probe logger level)) = .ok line ∧
      now.record stamp (some setup) (logger.full (probe logger level)) =
        now.write setup.output line := by
  obtain ⟨line, hline⟩ := line_of_probe logger level setup.format stamp
  have hadmits' : setup.admits (logger.full (probe logger level)).level = true := hadmits
  refine ⟨line, hline, record_of_admits hadmits' ?_⟩
  rw [hshared, hline]

include hsound

/-- At the level of a setup with the lower one of two levels, only this setup has an effect. -/
theorem level_le_of_record_eq (logger : Logger) (stamp : String)
    (h : ∀ level, now.record stamp (some setup) (logger.full (probe logger level)) =
      now.record stamp (some current) (logger.full (probe logger level))) :
    current.level.number ≤ setup.level.number := by
  apply Nat.le_of_not_lt
  intro hlt
  have hadmits : setup.admits setup.level = true := by simp [Setup.admits]
  have hrefuses : current.admits setup.level = false := by simpa [Setup.admits] using hlt
  have hdropped :
      now.record stamp (some current) (logger.full (probe logger setup.level)) = .ok now := by
    simp [record, probe, hrefuses]
  obtain ⟨line, -, hrecord⟩ := record_probe hshared hadmits logger stamp
  have heq := hrecord.symm.trans ((h setup.level).trans hdropped)
  rw [write_eq] at heq
  split at heq
  next destination hdestination =>
    exact extended_ne (hsound.isThere _ _ hdestination) (lineBytes_ne_nil line)
      (Except.ok.inj heq)
  · cases heq

theorem output_eq_of_record_eq (hcurrent : now.setup = some current) (logger : Logger)
    (stamp : String)
    (h : now.record stamp (some setup) (logger.full (probe logger .critical)) =
      now.record stamp (some current) (logger.full (probe logger .critical))) :
    setup.output = current.output ∧
      ∃ line line', setup.format.line stamp [] (logger.full (probe logger .critical)) = .ok line ∧
        current.format.line stamp [] (logger.full (probe logger .critical)) = .ok line' ∧
        lineBytes line = lineBytes line' := by
  obtain ⟨line, hline, hrecord⟩ := record_probe hshared (admits_critical setup) logger stamp
  obtain ⟨line', hline', hrecord'⟩ := record_probe hshared (admits_critical current) logger stamp
  obtain ⟨destination', hdestination'⟩ := (isOpen_iff _).mp (hsound.isOpen current hcurrent)
  rw [hrecord, hrecord', write_eq, write_eq, hdestination'] at h
  split at h
  next destination hdestination =>
    obtain ⟨rfl, hbytes⟩ := eq_of_extended (hsound.isThere _ _ hdestination)
      (hsound.isThere _ _ hdestination') (lineBytes_ne_nil line) (Except.ok.inj h)
    exact ⟨output_eq_of_destination hsound hdestination hdestination', line, line', hline, hline',
      hbytes⟩
  · cases h

end

theorem format_eq_of_lines {format other : Format} {shared : Fields}
    (h : format = .json ∨ format = .columns true) (h' : other = .json ∨ other = .columns true)
    {line line' : String} (hline : format.line stamp shared entry = .ok line)
    (hline' : other.line stamp shared entry = .ok line')
    (hbytes : lineBytes line = lineBytes line') : format = other := by
  rcases h with rfl | rfl <;> rcases h' with rfl | rfl
  · rfl
  · exact absurd hbytes (json_ne_coloured hline hline')
  · exact absurd hbytes.symm (json_ne_coloured hline' hline)
  · rfl

theorem level_eq_of_number {level other : Level} (h : level.number = other.number) :
    level = other := by
  cases level <;> cases other <;> simp_all [Level.number]

/-- A setup of an earlier time that has the effects of the current one is the current one. -/
theorem setup_eq_of_record_eq (hmade : made.Sound) (hnow : now.Sound) (hlater : Later made now)
    (hshared : now.shared = []) (logger : Logger) (stamp : String)
    (h : ∀ level, now.record stamp made.setup (logger.full (probe logger level)) =
      now.record stamp now.setup (logger.full (probe logger level))) : made.setup = now.setup := by
  cases hsetup : made.setup with
  | none =>
    cases hcurrent : now.setup with
    | none => rfl
    | some current =>
      -- Without a setup the entry is held, and under one it is written.
      obtain ⟨line, -, hrecord⟩ := record_probe hshared (admits_critical current) logger stamp
      obtain ⟨destination, hdestination⟩ := (isOpen_iff _).mp (hnow.isOpen current hcurrent)
      have hprobe := h .critical
      rw [hsetup, hcurrent, hrecord, write_eq, hdestination] at hprobe
      have hheld := congrArg (·.held) (Except.ok.inj hprobe)
      simp [hold] at hheld
  | some setup =>
    obtain ⟨current, hcurrent⟩ := hlater.isSome hsetup
    rw [hsetup, hcurrent] at h
    rw [hcurrent]
    have hlevel : setup.level = current.level := by
      apply level_eq_of_number
      apply Nat.le_antisymm
      · exact level_le_of_record_eq hnow hshared logger stamp fun level ↦ (h level).symm
      · exact level_le_of_record_eq hnow hshared logger stamp h
    obtain ⟨houtput, line, line', hline, hline', hbytes⟩ :=
      output_eq_of_record_eq hnow hshared hcurrent logger stamp (h .critical)
    -- What is printed begins with a byte that tells the formats apart, and a file that is opened
    -- once more gets another number, so its setup cannot have been replaced.
    by_cases hstandard : setup.output = .standard
    · have hformat := format_eq_of_lines (hmade.coloured setup hsetup hstandard)
        (hnow.coloured current hcurrent (houtput ▸ hstandard)) hline hline' hbytes
      cases setup
      cases current
      simp_all
    · exact congrArg some (hlater.setup_eq hmade hsetup hcurrent houtput hstandard)

/-! ## Following the plain logger -/

theorem record_ne_clash (setup : Option Setup) (stamp : String) (entry : Entry) (clash : Clash) :
    journal.record stamp setup entry ≠ .error (.clash clash) := by
  intro h
  unfold record at h
  split at h
  · cases h
  · split at h
    · split at h
      · cases h
      · rw [write_eq] at h
        split at h <;> cases h
    · cases h

/-- If the context clashes with the call, the plain logger fails where the other one does not. -/
theorem clash?_context_of_follows (h : logger.Follows context now) :
    Call.assemble.clash? context = none := by
  let bare : Entry := ⟨.critical, .null, []⟩
  cases hclash : Call.assemble.clash? context with
  | none => rfl
  | some clash =>
    have hwithin : Call.assemble.clash? (bare.within context).fields = some clash := by
      rw [clash?_within, hclash, Option.some_or]
    have hadmits : (Logger.current.setup now).all (·.admits .critical) = true := by
      cases hsetup : Logger.current.setup now with
      | none => rfl
      | some setup => exact admits_critical setup
    obtain ⟨clash', hplain⟩ := log_of_clash "" hadmits hwithin
    have hkept := h "" bare
    have hfree : Call.assemble.clash? bare.fields = none := rfl
    rw [hplain, log_of_free hfree] at hkept
    exact absurd hkept (record_ne_clash _ _ _ _)

theorem follows_current (journal : Journal) : Logger.current.Follows [] journal := by
  have hempty : Call.assemble.clash? [] = none := rfl
  exact fun stamp entry ↦ (log_within hempty stamp entry).symm

/-- A logger with context that was made earlier follows the plain one exactly under the same setup,
as far as the context does not clash with the call. -/
theorem follows_kept_iff (hmade : made.Sound) (hnow : now.Sound) (hlater : Later made now)
    (hshared : now.shared = []) (context : Fields) :
    (Logger.kept made.setup (Fields.putAll [] context)).Follows context now ↔
      made.setup = now.setup ∧ Call.assemble.clash? context = none := by
  constructor
  · intro hfollows
    have hclash := clash?_context_of_follows hfollows
    let logger : Logger := .kept made.setup (Fields.putAll [] context)
    have hfree (level : Level) : Call.assemble.clash? (probe logger level).fields = none := by
      apply clash?_probe
      simp only [logger, Logger.context, Call.clash?_putAll, hclash]
      rfl
    have hlog (setup : Option Setup) (level : Level) :
        now.log "" (.kept setup (Fields.putAll [] context)) (probe logger level) =
          now.record "" setup (logger.full (probe logger level)) := log_of_free (hfree level)
    refine ⟨?_, hclash⟩
    apply setup_eq_of_record_eq hmade hnow hlater hshared logger ""
    intro level
    calc
      now.record "" made.setup (logger.full (probe logger level)) =
          now.log "" logger (probe logger level) := (hlog made.setup level).symm
      _ = now.log "" .current ((probe logger level).within context) :=
        hfollows "" (probe logger level)
      _ = now.log "" (.kept now.setup (Fields.putAll [] context)) (probe logger level) :=
        log_within hclash "" (probe logger level)
      _ = now.record "" now.setup (logger.full (probe logger level)) := hlog now.setup level
  · rintro ⟨hsetup, hclash⟩ stamp entry
    rw [hsetup, log_within hclash]

/-- A logger with context follows the plain logger in a run exactly if the journal has the setup
that it had when the logger was made, and no field of the context takes a name that a call has for
itself; a logger without context always does. -/
theorem follows_iff {files : Files} {before later : List Step}
    (hmake : Logger.make ((start files).run before) context = .ok logger) :
    logger.Follows context (((start files).run before).run later) ↔
      context = [] ∨
        (((start files).run before).setup = (((start files).run before).run later).setup ∧
          ∀ field ∈ context, field.1 ∉ Call.assemble.ownNames) := by
  have hmade : ((start files).run before).Sound := sound_run (sound_start files) before
  have hshared : (((start files).run before).run later).shared = [] := by
    rw [shared_run hmade, shared_run (sound_start files)]
    rfl
  rcases make_eq_ok hmake with ⟨rfl, rfl⟩ | ⟨hcontext, rfl⟩
  · exact iff_of_true (follows_current _) (Or.inl rfl)
  · rw [follows_kept_iff hmade (sound_run hmade later) (later_run hmade later) hshared,
      Call.clash?_eq_none_iff, or_iff_right hcontext]

/-- The context of the loggers that are made before the journal is ever set up. -/
def archiverContext : Fields := [("subsystem", .str "archiver")]

theorem archiver_follows :
    Logger.make ((start {}).run [.configure ⟨{}, rfl⟩ false]) archiverContext =
        .ok (.kept (some ⟨.info, .json, .standard⟩) archiverContext) ∧
      (Logger.kept (some ⟨.info, .json, .standard⟩) archiverContext).Follows archiverContext
        (((start {}).run [.configure ⟨{}, rfl⟩ false]).run
          [.log "1" .current ⟨.info, .str "ready", []⟩]) := by
  have hmake : Logger.make ((start {}).run [.configure ⟨{}, rfl⟩ false]) archiverContext =
      .ok (.kept (some ⟨.info, .json, .standard⟩) archiverContext) := by
    rfl
  refine ⟨hmake, (follows_iff hmake).mpr (Or.inr ⟨by decide +kernel, ?_⟩)⟩
  simp [archiverContext, Call.ownNames]

/-- A logger that was made before the journal was set up holds an entry that a plain one drops. -/
theorem archiver_not_following :
    Logger.make (start {}) archiverContext = .ok (.kept none archiverContext) ∧
      ¬(Logger.kept none archiverContext).Follows archiverContext
        ((start {}).run [.configure ⟨{ level := "error" }, rfl⟩ false]) := by
  refine ⟨rfl, fun h ↦ ?_⟩
  have hlog := congrArg (fun outcome ↦ (outcome.toOption.map (·.held.length)))
    (h "1" ⟨.info, .str "e", []⟩)
  revert hlog
  decide +kernel

end Journal

end ServiceBoot.Log
