import ServiceBoot.Log.Call

/-!
# Fields by their names

Fields that were given one by one have distinct names. Giving them once more in the order that they
stand in changes nothing, and the first name that meets a condition is the first one given.
-/

namespace ServiceBoot.Log

namespace Fields

def names (fields : Fields) : List String := fields.map (·.1)

variable {fields base more : Fields} {name : String} {value : Json.Value}

/-! ## One field -/

theorem any_iff (fields : Fields) (name : String) :
    fields.any (·.1 == name) = true ↔ name ∈ fields.names := by
  simp [names]

theorem put_of_mem (h : name ∈ fields.names) (value : Json.Value) :
    fields.put name value =
      fields.map fun field ↦ if field.1 = name then (name, value) else field :=
  if_pos ((any_iff fields name).mpr h)

theorem put_of_not_mem (h : name ∉ fields.names) (value : Json.Value) :
    fields.put name value = fields ++ [(name, value)] :=
  if_neg (mt (any_iff fields name).mp h)

theorem names_put (fields : Fields) (name : String) (value : Json.Value) :
    (fields.put name value).names =
      if name ∈ fields.names then fields.names else fields.names ++ [name] := by
  by_cases h : name ∈ fields.names
  · rw [put_of_mem h, if_pos h]
    simp only [names, List.map_map]
    congr 1
    funext field
    by_cases hname : field.1 = name <;> simp [hname]
  · rw [put_of_not_mem h, if_neg h]
    simp [names]

/-- A field that was put takes the place of all those of its name. -/
theorem mem_put {field : String × Json.Value} (h : field ∈ fields.put name value) :
    field = (name, value) ∨ (field.1 ≠ name ∧ field ∈ fields) := by
  by_cases hname : name ∈ fields.names
  · rw [put_of_mem hname] at h
    obtain ⟨old, hold, rfl⟩ := List.mem_map.mp h
    by_cases holdname : old.1 = name <;> simp [holdname, hold]
  · rw [put_of_not_mem hname] at h
    rcases List.mem_append.mp h with hfield | hfield
    · refine Or.inr ⟨?_, hfield⟩
      rintro rfl
      exact hname (List.mem_map_of_mem hfield)
    · exact Or.inl (List.mem_singleton.mp hfield)

theorem nodup_put (h : fields.names.Nodup) : (fields.put name value).names.Nodup := by
  rw [names_put]
  split
  · exact h
  next hname =>
    refine List.nodup_append.mpr ⟨h, by simp, ?_⟩
    rintro other hother _ hname' rfl
    rw [List.mem_singleton] at hname'
    exact hname (hname' ▸ hother)

theorem find?_names_put (p : String → Bool) : (fields.put name value).names.find? p =
    (fields.names.find? p).or (if p name then some name else none) := by
  rw [names_put]
  split
  next hname =>
    by_cases hp : p name
    · have hfound : (fields.names.find? p).isSome := List.find?_isSome.mpr ⟨name, hname, hp⟩
      rw [Option.or_of_isSome hfound]
    · simp [hp]
  · rw [List.find?_append]
    congr 1
    by_cases hp : p name <;> simp [hp]

/-! ## All fields -/

/-- A field that was there stays unless another one of its name is given. -/
theorem mem_putAll {field : String × Json.Value} (h : field ∈ base.putAll more) :
    field ∈ more ∨ (field.1 ∉ more.names ∧ field ∈ base) := by
  induction more generalizing base with
  | nil => exact Or.inr ⟨List.not_mem_nil, h⟩
  | cons first rest ih =>
    rcases ih h with hrest | ⟨hnames, hput⟩
    · exact Or.inl (List.mem_cons_of_mem _ hrest)
    · rcases mem_put hput with rfl | ⟨hfirst, hbase⟩
      · exact Or.inl (List.mem_cons_self ..)
      · exact Or.inr ⟨by simp [names, hfirst] at hnames ⊢; exact hnames, hbase⟩

theorem nodup_putAll (h : base.names.Nodup) (more : Fields) : (base.putAll more).names.Nodup := by
  induction more generalizing base with
  | nil => exact h
  | cons first rest ih => exact ih (nodup_put h)

theorem putAll_of_nodup (h : (base ++ more).names.Nodup) : base.putAll more = base ++ more := by
  induction more generalizing base with
  | nil => exact (List.append_nil base).symm
  | cons first rest ih =>
    have hfirst : first.1 ∉ base.names := by
      intro hmem
      simp only [names, List.map_append, List.map_cons] at h
      exact (List.nodup_append.mp h).2.2 _ hmem _ (List.mem_cons_self ..) rfl
    have hrest : (base.put first.1 first.2).putAll rest = base.put first.1 first.2 ++ rest := by
      apply ih
      simpa [put_of_not_mem hfirst] using h
    calc
      base.putAll (first :: rest) = (base.put first.1 first.2).putAll rest := rfl
      _ = base.put first.1 first.2 ++ rest := hrest
      _ = base ++ first :: rest := by simp [put_of_not_mem hfirst]

/-- Fields that were given once can be given again. -/
theorem putAll_putAll (base more : Fields) :
    putAll [] ((putAll [] base).putAll more) = (putAll [] base).putAll more := by
  have hempty : (names []).Nodup := List.nodup_nil
  have hnodup : ((putAll [] base).putAll more).names.Nodup :=
    nodup_putAll (nodup_putAll hempty base) more
  exact putAll_of_nodup hnodup

theorem find?_names_putAll (p : String → Bool) (base more : Fields) :
    (base.putAll more).names.find? p = (base.names.find? p).or (more.names.find? p) := by
  induction more generalizing base with
  | nil => simp [putAll, names]
  | cons first rest ih =>
    calc
      (base.putAll (first :: rest)).names.find? p =
          ((base.put first.1 first.2).names.find? p).or ((names rest).find? p) := ih _
      _ = (base.names.find? p).or
            ((if p first.1 then some first.1 else none).or ((names rest).find? p)) := by
        rw [find?_names_put, Option.or_assoc]
      _ = (base.names.find? p).or ((names (first :: rest)).find? p) := by
        congr 1
        by_cases hp : p first.1 <;> simp [names, hp]

end Fields

/-! ## Clashes -/

namespace Call

theorem clash?_eq (call : Call) (fields : Fields) : call.clash? fields =
    (fields.names.find? fun name ↦ call.ownNames.contains name).map fun name ↦ ⟨call, name⟩ := by
  simp only [clash?, Fields.names, List.find?_map, Option.map_map]
  rfl

/-- Of fields given before and after others the former clash first. -/
theorem clash?_putAll (call : Call) (base more : Fields) :
    call.clash? (base.putAll more) = (call.clash? base).or (call.clash? more) := by
  simp only [clash?_eq, Fields.find?_names_putAll, Option.map_or]

/-- Every name that a call for an entry takes for itself is one that it takes to put the entry
together. -/
theorem clash?_eq_none_of_assemble {call : Call} {fields : Fields}
    (hcall : call.ownNames ⊆ assemble.ownNames) (h : assemble.clash? fields = none) :
    call.clash? fields = none := by
  rw [clash?_eq_none_iff] at h ⊢
  exact fun field hfield hname ↦ h field hfield (hcall hname)

end Call

end ServiceBoot.Log
