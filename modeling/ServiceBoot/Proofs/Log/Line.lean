import ServiceBoot.Log.Line
import ServiceBoot.Proofs.Except
import ServiceBoot.Proofs.Log.Fields

/-!
# Lines of entries

A line can be made of every entry whose traces are texts and whose integers can be written. The
first character of a line tells the form for machines from coloured columns.
-/

namespace ServiceBoot.Log

open Json (Value)

theorem Fields.mem_fill {base more : Fields} {field : String × Value} (h : field ∈ base.fill more) :
    field ∈ base ∨ field ∈ more := by
  induction more generalizing base with
  | nil => exact Or.inl h
  | cons first rest ih =>
    rcases ih h with hfirst | hrest
    · simp only at hfirst
      split at hfirst
      · exact Or.inl hfirst
      · rcases Fields.mem_put hfirst with rfl | ⟨-, hbase⟩
        · exact Or.inr (List.mem_cons_self ..)
        · exact Or.inl hbase
    · exact Or.inr (List.mem_cons_of_mem _ hrest)

namespace Line

variable {stamp : String} {shared : Fields} {entry : Entry} {fields : Fields}

/-! ## Traces -/

/-- A field that gives a trace gives a text or nothing. -/
def IsTraceable (field : String × Value) : Prop :=
  field.1 ∈ traceNames → field.2 = .null ∨ ∃ text, field.2 = .str text

theorem trace?_of_traceable (h : ∀ field ∈ fields, IsTraceable field) (name : String)
    (hname : name ∈ traceNames) : ∃ trace, trace? fields name = .ok trace := by
  unfold trace?
  cases hlookup : List.lookup name fields with
  | none => exact ⟨none, rfl⟩
  | some value =>
    obtain ⟨before, later, rfl, -⟩ := List.lookup_eq_some_iff.mp hlookup
    have hmem : (name, value) ∈ before ++ (name, value) :: later := by simp
    rcases h (name, value) hmem hname with hnull | ⟨text, htext⟩
    · exact ⟨none, by simp only [show value = .null from hnull]⟩
    · exact ⟨some text, by simp only [show value = .str text from htext]⟩

theorem traces_of_traceable (h : ∀ field ∈ fields, IsTraceable field) :
    ∃ text, traces fields = .ok text := by
  obtain ⟨stack, hstack⟩ := trace?_of_traceable h "stack" (by decide)
  obtain ⟨failure, hfailure⟩ := trace?_of_traceable h "exception" (by decide)
  simp [traces, hstack, hfailure, bind, Except.bind, pure, Except.pure]

/-! ## All fields of a line -/

/-- The fields that a line has of its own. -/
def ownFields (stamp : String) (entry : Entry) : Fields :=
  [("event", entry.event), ("level", .str entry.level.name), ("timestamp", .str stamp)]

/-- What stands in a line besides the fields of the entry and those that all entries share. -/
theorem mem_allFields {field : String × Value} (h : field ∈ allFields stamp shared entry) :
    field ∈ ownFields stamp entry ∨ field ∈ entry.fields ++ shared := by
  have hmembers : field ∈ entry.members → field ∈ ownFields stamp entry ∨
      field ∈ entry.fields := by
    intro hmember
    unfold Entry.members at hmember
    split at hmember
    · exact Or.inr hmember
    · rcases Fields.mem_put hmember with rfl | ⟨-, hfield⟩
      · exact Or.inl (by simp [ownFields])
      · exact Or.inr hfield
  rcases Fields.mem_put h with rfl | ⟨-, hlevel⟩
  · exact Or.inl (by simp [ownFields])
  · rcases Fields.mem_put hlevel with rfl | ⟨-, hgiven⟩
    · exact Or.inl (by simp [ownFields])
    · rcases Fields.mem_fill hgiven with hmember | hshared
      · exact (hmembers hmember).imp_right (List.mem_append_left _)
      · exact Or.inr (List.mem_append_right _ hshared)

theorem traceable_of_allFields (h : ∀ field ∈ entry.fields ++ shared, IsTraceable field) :
    ∀ field ∈ allFields stamp shared entry, IsTraceable field := by
  intro field hfield htrace
  rcases mem_allFields hfield with hown | hgiven
  · have hapart : ∀ own ∈ ownFields stamp entry, own.1 ∉ traceNames := by
      simp [ownFields, traceNames]
    exact absurd htrace (hapart field hown)
  · exact h field hgiven htrace

/-! ## Lines -/

/-- No integer in an entry is too long to be written. -/
structure IsWritable (entry : Entry) : Prop where
  event : entry.event.isWritable = true
  fields : ∀ field ∈ entry.fields, field.2.isWritable = true

theorem writable_of_fields (hentry : IsWritable entry)
    (hshared : ∀ field ∈ shared, field.2.isWritable = true) :
    ∀ field ∈ Line.fields stamp shared entry, field.2.isWritable = true := by
  intro field hfield
  rcases mem_allFields (List.mem_filter.mp hfield).1 with hown | hgiven
  · have hwritable : ∀ own ∈ ownFields stamp entry, own.2.isWritable = true := by
      simp [ownFields, hentry.event]
    exact hwritable field hown
  · exact (List.mem_append.mp hgiven).elim (hentry.fields field) (hshared field)

theorem compose_of_line {format : Format} {line : String}
    (h : format.line stamp shared entry = .ok line) :
    format.compose stamp shared entry = .ok line := by
  simp only [Format.line] at h
  split at h
  · exact h
  · cases h

theorem line_of_compose {format : Format} {line : String} (hentry : IsWritable entry)
    (hshared : ∀ field ∈ shared, field.2.isWritable = true)
    (h : format.compose stamp shared entry = .ok line) :
    format.line stamp shared entry = .ok line := by
  rw [← h]
  apply if_pos
  rw [List.all_eq_true]
  intro field hfield
  exact writable_of_fields hentry hshared field (List.mem_filter.mp hfield).1

/-- The form for machines does not care for traces. -/
theorem compose_of_traceable {format : Format}
    (h : format ≠ .json → ∀ field ∈ entry.fields ++ shared, IsTraceable field) (stamp : String) :
    ∃ line, format.compose stamp shared entry = .ok line := by
  cases format with
  | json => exact ⟨_, rfl⟩
  | columns coloured =>
    have hall : ∀ field ∈ allFields stamp shared entry, IsTraceable field :=
      traceable_of_allFields (h nofun)
    obtain ⟨text, htext⟩ := traces_of_traceable hall
    simp only [Format.compose, htext]
    exact ⟨_, rfl⟩

/-- As long as entries share no fields, it takes nothing but the entry to make a line of it. -/
theorem exists_line {format : Format} (hentry : IsWritable entry)
    (htraceable : format ≠ .json → ∀ field ∈ entry.fields, IsTraceable field) (stamp : String) :
    ∃ line, format.line stamp [] entry = .ok line := by
  have hall : format ≠ .json → ∀ field ∈ entry.fields ++ [], IsTraceable field := by
    rwa [List.append_nil]
  obtain ⟨line, hline⟩ := compose_of_traceable hall stamp
  exact ⟨line, line_of_compose hentry nofun hline⟩

/-! ## Beginnings -/

theorem head?_json {line : String} (h : Format.json.line stamp shared entry = .ok line) :
    line.toList.head? = some '\x7b' := by
  cases compose_of_line h
  simp only [Value.line, String.toList_ofList]
  cases fields stamp shared entry with
  | nil => rfl
  | cons first rest => rfl

theorem head?_intercalate {separator first : List Char} {c : Char} (h : first.head? = some c)
    (rest : List (List Char)) : (separator.intercalate (first :: rest)).head? = some c := by
  cases rest with
  | nil => simpa [List.intercalate] using h
  | cons second rest => simp [List.intercalate_cons_cons, List.head?_append, h]

theorem head?_trimmed {line : String} {c : Char} (h : line.toList.head? = some c) (hc : c ≠ ' ') :
    (trimmed line).toList.head? = some c := by
  obtain ⟨rest, hrest⟩ := List.head?_eq_some_iff.mp h
  simp only [trimmed, String.toList_ofList, hrest, List.reverse_cons, List.dropWhile_append]
  split <;> simp [hc]

theorem columns_eq_cons (palette : Palette) (stamp : String) (entry : Entry) (fields : Fields) :
    ∃ first rest, columns palette stamp entry fields = first :: rest ∧
      (first = palette.faint ++ stamp ++ palette.reset ∨
        ∃ value, first = fieldColumn palette ("", value)) := by
  unfold columns
  cases List.lookup "" fields with
  | none => exact ⟨_, _, rfl, Or.inl rfl⟩
  | some value => exact ⟨_, _, rfl, Or.inr ⟨value, rfl⟩⟩

theorem head?_columns (stamp : String) (entry : Entry) (fields : Fields) :
    (String.intercalate " " (columns (palette true) stamp entry fields)).toList.head? =
      some '\x1b' := by
  have hcode (number rest : String) : (code number ++ rest).toList.head? = some '\x1b' := by
    simp [code]
  obtain ⟨first, rest, hcolumns, hfirst⟩ := columns_eq_cons (palette true) stamp entry fields
  rw [hcolumns, String.toList_intercalate, List.map_cons]
  apply head?_intercalate
  rcases hfirst with rfl | ⟨value, rfl⟩
  · simp only [palette, if_true, String.append_assoc, hcode]
  · simp only [fieldColumn, palette, if_true, String.append_assoc, hcode]

theorem head?_coloured {line : String}
    (h : (Format.columns true).line stamp shared entry = .ok line) :
    line.toList.head? = some '\x1b' := by
  obtain ⟨text, -, rfl⟩ := map_eq_ok.mp (compose_of_line h)
  have htrimmed := head?_trimmed (head?_columns stamp entry (Line.fields stamp shared entry))
    (by decide)
  rw [String.toList_append, List.head?_append, htrimmed]
  rfl

end Line

end ServiceBoot.Log
