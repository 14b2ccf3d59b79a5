import ServiceBoot.Proofs.Log.Run

/-!
# What a plain logger writes

A plain logger writes to what the journal is set up to at that moment. Of an entry that suits the
call exactly one line is appended if its level is admitted, and nothing happens otherwise.
-/

namespace ServiceBoot.Log

/-- An entry that a plain logger makes a line of: no field takes a name that the call has for
itself, no integer is too long to be written, and what columns would show as a trace is a text or
null. -/
structure Entry.Suits (entry : Entry) (format : Format) : Prop where
  free : ∀ field ∈ entry.fields, field.1 ∉ Call.assemble.ownNames
  writable : Line.IsWritable entry
  traceable : format ≠ .json → ∀ field ∈ entry.fields, Line.IsTraceable field

theorem Entry.Suits.clash? {entry : Entry} {format : Format} (h : entry.Suits format) :
    Call.assemble.clash? entry.fields = none :=
  (Call.clash?_eq_none_iff ..).mpr h.free

namespace Journal

variable {journal next : Journal} {stamp : String} {entry : Entry} {aim : Aim}

theorem aim?_eq_some (h : journal.aim? = some aim) : ∃ setup, journal.setup = some setup ∧
    setup.admits = aim.admits ∧ setup.format = aim.format ∧
    journal.destination? setup.output = some aim.destination := by
  obtain ⟨setup, hsetup, haim⟩ := Option.bind_eq_some_iff.mp h
  obtain ⟨destination, hdestination, rfl⟩ := Option.map_eq_some_iff.mp haim
  exact ⟨setup, hsetup, rfl, rfl, hdestination⟩

theorem line_of_suits (h : entry.Suits aim.format) (stamp : String) :
    ∃ line, aim.format.line stamp [] (Logger.current.full entry) = .ok line := by
  have hgiven : ∀ field ∈ (Logger.current.full entry).fields, field ∈ entry.fields :=
    fun field hfield ↦ (Fields.mem_putAll hfield).resolve_right fun h ↦ List.not_mem_nil h.2
  have hwritable : Line.IsWritable (Logger.current.full entry) :=
    ⟨h.writable.event, fun field hfield ↦ h.writable.fields field (hgiven field hfield)⟩
  exact Line.exists_line hwritable
    (fun hcolumns field hfield ↦ h.traceable hcolumns field (hgiven field hfield)) stamp

/-- An entry that is admitted appends one line to the current destination and none to others. -/
theorem log_of_suits (hsound : journal.Sound) (hshared : journal.shared = [])
    (haim : journal.aim? = some aim) (hadmits : aim.admits entry.level = true)
    (hsuits : entry.Suits aim.format) (stamp : String) :
    ∃ line next, aim.format.line stamp [] (Logger.current.full entry) = .ok line ∧
      journal.log stamp .current entry = .ok next ∧
      (∀ destination, next.contentOf destination = journal.contentOf destination ++
        if destination = aim.destination then lineBytes line else []) ∧
      Kept journal next := by
  obtain ⟨setup, hsetup, hlevels, hformat, hdestination⟩ := aim?_eq_some haim
  obtain ⟨line, hline⟩ := line_of_suits hsuits stamp
  have hadmits' : setup.admits entry.level = true := by rw [hlevels, hadmits]
  have hline' : setup.format.line stamp journal.shared (Logger.current.full entry) = .ok line := by
    rw [hformat, hshared, hline]
  have hlog : journal.log stamp .current entry =
      .ok (journal.extended aim.destination (lineBytes line)) :=
    log_written hsetup hadmits' hsuits.clash? hdestination hline'
  refine ⟨line, _, hline, hlog, ?_, (logged_of_log hlog).kept⟩
  exact fun destination ↦ contentOf_extended (hsound.isThere _ _ hdestination) _ destination

theorem log_of_not_admitted (haim : journal.aim? = some aim)
    (hadmits : aim.admits entry.level = false)
    (hclash : Call.assemble.clash? entry.fields = none) (stamp : String) :
    journal.log stamp .current entry = .ok journal := by
  obtain ⟨setup, hsetup, hlevels, -, -⟩ := aim?_eq_some haim
  have hdropped : ¬setup.admits (Logger.current.full entry).level = true := by
    rw [Logger.level_full, hlevels, hadmits]
    exact Bool.false_ne_true
  rw [log_of_free hclash, Logger.setup, hsetup, record]
  exact if_neg hdropped

/-- Whatever the level, logging an entry that suits the call does not fail. -/
theorem log_succeeds (hsound : journal.Sound) (hshared : journal.shared = [])
    (haim : journal.aim? = some aim) (hsuits : entry.Suits aim.format) (stamp : String) :
    ∃ next, journal.log stamp .current entry = .ok next ∧ Kept journal next := by
  cases hadmits : aim.admits entry.level with
  | true =>
    obtain ⟨_, next, -, hlog, -, hkept⟩ :=
      log_of_suits hsound hshared haim hadmits hsuits stamp
    exact ⟨next, hlog, hkept⟩
  | false =>
    have hlog := log_of_not_admitted haim hadmits hsuits.clash? stamp
    exact ⟨journal, hlog, (logged_of_log hlog).kept⟩

def untraceable : Entry := ⟨.info, .str "ev", [("stack", .int 5)]⟩

end Journal

end ServiceBoot.Log
