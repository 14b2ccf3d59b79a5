import ServiceBoot.Files
import ServiceBoot.Proofs.Except

/-!
# Contents of files

What opening and appending do to the files that there are: opening changes no content, and appending
lengthens the content at one place only.
-/

namespace ServiceBoot.Files

/-- The content of the file at a place, or no bytes if no file is there. -/
def bytesAt (files : Files) (place : Place) : Bytes :=
  match files.node? place with
  | some (.file content) => content
  | _ => []

def HasFile (files : Files) (place : Place) : Prop :=
  ∃ content, files.node? place = some (.file content)

variable {files files' : Files} {place other : Place} {node : Node}

theorem HasFile.node? (h : files.HasFile place) :
    files.node? place = some (.file (files.bytesAt place)) := by
  obtain ⟨content, hcontent⟩ := h
  simp [bytesAt, hcontent]

/-! ## Putting a node -/

theorem here_put (files : Files) (place : Place) (node : Node) :
    (files.put place node).here = files.here := by
  unfold put
  split <;> rfl

theorem find?_map_put (nodes : List (Place × Node)) (place other : Place) (node : Node) :
    (nodes.map fun entry ↦ if entry.1 == place then (place, node) else entry).find? (·.1 == other) =
      (nodes.find? (·.1 == other)).map
        fun entry ↦ if entry.1 == place then (place, node) else entry := by
  rw [List.find?_map]
  congr 2
  funext entry
  by_cases h : entry.1 = place <;> simp [h]

theorem node?_put_of_ne (h : other ≠ place) :
    (files.put place node).node? other = files.node? other := by
  have hfind : ((files.put place node).nodes.find? (·.1 == other)).map (·.2) =
      (files.nodes.find? (·.1 == other)).map (·.2) := by
    unfold put
    split
    · simp only [find?_map_put, Option.map_map]
      cases hfound : files.nodes.find? (·.1 == other) with
      | none => rfl
      | some entry =>
        have hentry : entry.1 = other := by simpa using List.find?_some hfound
        simp [hentry, h]
    · simp [List.find?_append, h.symm]
  simp only [Files.node?, here_put, hfind]

/-- A directory above the working directory stays what it is. -/
theorem node?_put_self (h : place.isPrefixOf files.here = false) :
    (files.put place node).node? place = some node := by
  have hfind : ((files.put place node).nodes.find? (·.1 == place)).map (·.2) = some node := by
    unfold put
    split
    next hany =>
      obtain ⟨entry, hfound⟩ := Option.isSome_iff_exists.mp (List.find?_isSome.mpr
        (List.any_eq_true.mp hany))
      have hentry : entry.1 = place := by simpa using List.find?_some hfound
      simp only [find?_map_put, hfound, Option.map_some, hentry, beq_self_eq_true, if_true]
    next hany =>
      have hnone : files.nodes.find? (·.1 == place) = none := by
        rw [List.find?_eq_none]
        exact fun entry hentry hplace ↦ hany (List.any_eq_true.mpr ⟨entry, hentry, hplace⟩)
      simp [List.find?_append, hnone]
  simp only [Files.node?, here_put, h, Bool.false_eq_true, if_false, hfind]

theorem not_above_of_node? (h : files.node? place ≠ some .directory) :
    place.isPrefixOf files.here = false := by
  rw [Bool.eq_false_iff]
  intro habove
  simp [Files.node?, habove] at h

theorem HasFile.not_above (h : files.HasFile place) : place.isPrefixOf files.here = false := by
  apply not_above_of_node?
  simp [h.node?]

/-! ## Opening -/

theorem node?_of_appendable {files : Files} {place target : Place}
    (h : files.appendable place = .ok target) : target = place ∧
      files.node? place ≠ some .directory := by
  unfold appendable at h
  split at h
  · cases h
  next hnode =>
    cases h
    exact ⟨rfl, hnode⟩

/-- Lines are never appended to a directory. -/
theorem node?_of_appendableAt {start target : Place} {names : List String}
    (h : files.appendableAt start names = .ok target) : files.node? target ≠ some .directory := by
  unfold appendableAt at h
  split at h
  · cases h
  · obtain ⟨here, -, h⟩ := bind_eq_ok.mp h
    split at h
    · cases h
    · obtain ⟨place, -, h⟩ := bind_eq_ok.mp h
      obtain ⟨rfl, hnode⟩ := node?_of_appendable h
      exact hnode

theorem access_of_withPath {α : Type} {path : String} {access : Except Fault α} {result : α}
    (h : withPath path access = .ok result) : access = .ok result := by
  unfold withPath at h
  split at h
  · cases h
  · split at h
    · cases h
    · cases access with
      | ok found => simpa using h
      | error fault => cases h

/-- Opening finds a file or creates an empty one. -/
theorem openForAppending_eq_ok {path : String}
    (h : files.openForAppending path = .ok (place, files')) :
    (files.HasFile place ∧ files' = files) ∨
      (files.node? place = none ∧ files' = files.put place (.file [])) := by
  obtain ⟨target, haccess, h⟩ := map_eq_ok.mp h
  have hnode := node?_of_appendableAt (access_of_withPath haccess)
  split at h
  next node hfound =>
    cases h
    cases node with
    | file content => exact Or.inl ⟨⟨content, hfound⟩, rfl⟩
    | directory => exact absurd hfound hnode
  next hfound =>
    cases h
    exact Or.inr ⟨hfound, rfl⟩

section

variable {path : String} (h : files.openForAppending path = .ok (place, files'))
include h

theorem hasFile_of_opened : files'.HasFile place := by
  rcases openForAppending_eq_ok h with ⟨hfile, rfl⟩ | ⟨hnone, rfl⟩
  · exact hfile
  · refine ⟨[], node?_put_self (not_above_of_node? ?_)⟩
    simp [hnone]

theorem HasFile.opened (hother : files.HasFile other) : files'.HasFile other := by
  rcases openForAppending_eq_ok h with ⟨-, rfl⟩ | ⟨hnone, rfl⟩
  · exact hother
  · have hne : other ≠ place := by
      rintro rfl
      simp [hother.node?] at hnone
    obtain ⟨content, hcontent⟩ := hother
    exact ⟨content, (node?_put_of_ne hne).trans hcontent⟩

theorem bytesAt_of_opened (other : Place) : files'.bytesAt other = files.bytesAt other := by
  rcases openForAppending_eq_ok h with ⟨-, rfl⟩ | ⟨hnone, rfl⟩
  · rfl
  · by_cases hother : other = place
    · subst hother
      have habove : other.isPrefixOf files.here = false := not_above_of_node? (by simp [hnone])
      have hself : (files.put other (.file [])).node? other = some (.file []) :=
        node?_put_self habove
      simp [bytesAt, hself, hnone]
    · simp only [bytesAt, node?_put_of_ne hother]

end

/-! ## Appending -/

theorem append_eq (h : files.HasFile place) (bytes : Bytes) :
    files.append place bytes = files.put place (.file (files.bytesAt place ++ bytes)) := by
  simp only [append, h.node?]

theorem HasFile.append (h : files.HasFile other) (place : Place) (bytes : Bytes) :
    (files.append place bytes).HasFile other := by
  unfold Files.append
  split
  next content hcontent =>
    by_cases hother : other = place
    · subst hother
      exact ⟨_, node?_put_self h.not_above⟩
    · obtain ⟨kept, hkept⟩ := h
      exact ⟨kept, (node?_put_of_ne hother).trans hkept⟩
  · exact h

theorem bytesAt_append (h : files.HasFile place) (bytes : Bytes) (other : Place) :
    (files.append place bytes).bytesAt other =
      files.bytesAt other ++ if other = place then bytes else [] := by
  rw [append_eq h]
  by_cases hother : other = place
  · subst hother
    simp [bytesAt, node?_put_self h.not_above]
  · simp [bytesAt, node?_put_of_ne hother, hother]

end ServiceBoot.Files
