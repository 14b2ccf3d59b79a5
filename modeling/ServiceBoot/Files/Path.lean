import ServiceBoot.Text.Utf8

/-!
# Paths

A path is a text of names between slashes. Its tidy form has no empty name, no name that is a
single dot and no slash at its end; two dots stay, since what they lead to depends on the files.
-/

namespace ServiceBoot.Path

/-- The texts between slashes, of which there is at least one. -/
def split : List Char → List (List Char)
  | [] => [[]]
  | c :: rest =>
    if c = '/' then [] :: split rest
    else match split rest with
      | [] => [[c]]
      | name :: names => (c :: name) :: names

theorem split_ne_nil (s : List Char) : split s ≠ [] := by
  cases s with
  | nil => simp [split]
  | cons c rest =>
    rw [split]
    split
    · simp
    · split <;> simp

/-- Splitting loses nothing. -/
theorem intercalate_split (s : List Char) : List.intercalate ['/'] (split s) = s := by
  induction s with
  | nil => rfl
  | cons c rest ih =>
    obtain ⟨name, names, h⟩ := List.exists_cons_of_ne_nil (split_ne_nil rest)
    rw [h] at ih
    by_cases hc : c = '/' <;>
      cases names <;> simp_all [split, List.intercalate, List.intersperse]

/-- The names on the way, without those that lead nowhere. -/
def names (path : String) : List String :=
  ((split path.toList).map String.ofList).filter fun name ↦ name ≠ "" ∧ name ≠ "."

def isAbsolute (path : String) : Bool := path.toList.head? == some '/'

/-- The slashes before the first name: two stay two, any other number becomes one. -/
def root (path : String) : String :=
  match (path.toList.takeWhile (· == '/')).length with
  | 0 => ""
  | 2 => "//"
  | _ => "/"

def tidy (path : String) : String :=
  let text := root path ++ String.intercalate "/" (names path)
  if text = "" then "." else text

/-- A name or a path may not have more bytes than these. -/
def maxNameBytes : Nat := 255

def maxPathBytes : Nat := 4095

def hasNul (path : String) : Bool := path.toList.contains '\x00'

end ServiceBoot.Path
