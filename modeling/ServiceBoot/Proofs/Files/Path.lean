import ServiceBoot.Files

/-!
# Characters of a path

A path in its tidy form holds the same characters as before, slashes and dots apart. Hence a path
that cannot be one is found out in either form, and a file is read from no other path.
-/

namespace ServiceBoot

namespace Path

variable {c : Char}

theorem mem_intercalate_iff {separator : List Char} (hc : c ∉ separator)
    {parts : List (List Char)} :
    c ∈ separator.intercalate parts ↔ ∃ part ∈ parts, c ∈ part := by
  induction parts with
  | nil => simp [List.intercalate]
  | cons first rest ih =>
    cases rest with
    | nil => simp
    | cons second rest =>
      rw [List.intercalate_cons_cons, List.mem_append, List.mem_append, ih]
      simp [hc]

theorem mem_split_iff (hc : c ≠ '/') (s : List Char) :
    c ∈ s ↔ ∃ part ∈ split s, c ∈ part := by
  have hslash : c ∉ ['/'] := by simpa using hc
  rw [← mem_intercalate_iff hslash, intercalate_split]

/-- The names that are left out hold nothing but dots. -/
theorem mem_names_iff (hslash : c ≠ '/') (hdot : c ≠ '.') (path : String) :
    (∃ name ∈ (names path).map String.toList, c ∈ name) ↔ c ∈ path.toList := by
  rw [mem_split_iff hslash]
  constructor
  · rintro ⟨chars, hchars, hc⟩
    obtain ⟨name, hname, rfl⟩ := List.mem_map.mp hchars
    obtain ⟨hmem, -⟩ := List.mem_filter.mp hname
    obtain ⟨part, hpart, rfl⟩ := List.mem_map.mp hmem
    exact ⟨part, hpart, by simpa using hc⟩
  · rintro ⟨part, hpart, hc⟩
    have hmem : String.ofList part ∈ (split path.toList).map String.ofList :=
      List.mem_map_of_mem hpart
    have hne : String.ofList part ≠ "" ∧ String.ofList part ≠ "." := by
      constructor
      · intro h
        have hpart : part = [] := by simpa using congrArg String.toList h
        simp [hpart] at hc
      · intro h
        have hpart : part = ['.'] := by simpa using congrArg String.toList h
        simp [hpart, hdot] at hc
    have hname : String.ofList part ∈ names path := List.mem_filter.mpr ⟨hmem, by simpa using hne⟩
    exact ⟨part, List.mem_map.mpr ⟨_, hname, String.toList_ofList⟩, hc⟩

theorem not_mem_root (hslash : c ≠ '/') (path : String) : c ∉ (root path).toList := by
  unfold root
  split <;> simp [hslash]

theorem mem_tidy_iff (hslash : c ≠ '/') (hdot : c ≠ '.') (path : String) :
    c ∈ (tidy path).toList ↔ c ∈ path.toList := by
  have htext : c ∈ (root path ++ String.intercalate "/" (names path)).toList ↔ c ∈ path.toList := by
    have hsep : c ∉ "/".toList := by simpa using hslash
    rw [String.toList_append, List.mem_append, String.toList_intercalate,
      mem_intercalate_iff hsep, ← mem_names_iff hslash hdot path]
    exact or_iff_right (not_mem_root hslash path)
  unfold tidy
  simp only
  split
  · rename_i hempty
    rw [← htext, hempty]
    simp [hdot]
  · exact htext

theorem hasNul_tidy (path : String) : hasNul (tidy path) = hasNul path := by
  rw [hasNul, hasNul, Bool.eq_iff_iff, List.contains_iff_mem, List.contains_iff_mem]
  exact mem_tidy_iff (by decide) (by decide) path

end Path

end ServiceBoot
