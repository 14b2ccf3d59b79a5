import Mathlib.Logic.Relation
import ServiceBoot.Proofs.Conf.Substitutions

/-!
# Configurations with parts left out

It makes no difference to a configuration whether a part that may be left out of its document is
left out, zero or written out: parsing and resolving end in the same way, and write the same entries
but those on what was written out.
-/

namespace ServiceBoot.Conf

open Document Json

/-! ## The fields that may be left out -/

theorem sound_block {block : List (Document.Field Shape)} (h : block ∈ blocks) :
    (Shape.block block).Sound := by
  fin_cases h
  all_goals
    refine .block ?_ ?_
    · intro field hfield default hdefault
      fin_cases hfield <;> cases hdefault <;> exact ⟨rfl, rfl⟩
    · intro field hfield
      fin_cases hfield <;> exact .leaf

theorem sound_shape : shape.Sound := by
  refine .block ?_ ?_
  · intro field hfield default hdefault
    fin_cases hfield <;> cases hdefault <;> exact ⟨rfl, rfl⟩
  · intro field hfield
    fin_cases hfield <;> first | exact .leaf | exact sound_block (by simp [blocks])

/-- All defaults are zero but that of the one port that has a default of its own. -/
theorem normal_zero {block : List (Document.Field Shape)} {field : Document.Field Shape}
    {default : Value} (hblock : block ∈ fields :: blocks) (hfield : field ∈ block)
    (hdefault : field.default? = some default)
    (hport : default ≠ .int Block.Reporting.defaultPort) :
    field.shape.normal field.shape.zero = default := by
  fin_cases hblock <;> fin_cases hfield <;> cases hdefault <;> first | rfl | exact absurd rfl hport

theorem fits_substitutions {written : List Substitution} (hwritten : written ⊆ substitutions) :
    Fits written [] shape := by
  intro substitution hmem path hpath field hfield members new hnew
  have hmem := hwritten hmem
  fin_cases hmem <;> cases hpath <;> cases hfield <;>
    first
    | cases hnew
      rfl
    | obtain ⟨_, -, rfl⟩ := Option.map_eq_some_iff.mp hnew
      rfl

/-- The entries but those on substitutes that were written out. -/
def keeps (written : List Substitution) (entry : Log.Entry) : Bool :=
  !written.any (·.tells entry)

/-! ## Parsing and resolving -/

/-- How parsing a value and resolving the configuration end, with the entries that are kept. -/
def conclusion [TimeZone.Database] (keep : Log.Entry → Bool) (parsed : Except Rejection Conf) :
    Except Rejection (Except Unresolved Conf × List Log.Entry) :=
  parsed.map fun conf ↦ (resolve conf).seen keep

/-- One member that is left out makes no difference: a check reads the two documents alike, or what
it finds written out is what one of the fills does, and resolving hides that. -/
theorem conclusion_of_omits [TimeZone.Database] {written : List Substitution}
    (hwritten : written ⊆ substitutions)
    {value value' : Value} (h : Omits written [] shape value value') (source : String) :
    conclusion (keeps written) (parseValue value source) =
      conclusion (keeps written) (parseValue value' source) := by
  cases tallies_of_omits sound_shape distinct_shape (fits_substitutions hwritten) h with
  | same h => rw [parseValue_congr h]
  | @substitute substitution path new hmem hpath _ hassign happlies =>
    obtain rfl : substitution.path = path := hpath
    obtain ⟨move, hmove⟩ := exists_move (hwritten hmem)
    rcases parseValue_cases value source with
      ⟨conf, husable, hcheck, hparse⟩ | ⟨first, others, hcheck, hparse⟩
    · rw [hcheck, map_accepted, hmove.assign conf new (happlies _ hcheck)] at hassign
      have hparse' : parseValue value' source = .ok (move { conf with sourcePath := source }) := by
        rw [parseValue_of_accepted (hmove.usable conf husable) hassign, ← hmove.source]
      have hhides : Hides (keeps written) move resolve := by
        apply hmove.hides
        intro entry htells
        simpa [keeps] using ⟨substitution, hmem, htells⟩
      calc conclusion (keeps written) (parseValue value source)
          = .ok ((resolve { conf with sourcePath := source }).seen (keeps written)) := by
            rw [hparse]
            rfl
        _ = .ok ((resolve (move { conf with sourcePath := source })).seen (keeps written)) := by
            rw [hhides]
        _ = conclusion (keeps written) (parseValue value' source) := by
            rw [hparse']
            rfl
    · rw [hcheck] at hassign
      rw [hparse, parseValue_of_rejected hassign]

/-- Any number of optional members may be left out or written out, each with its default, with a
zero value that is read as the default, or with what resolving puts in its place. Parsing and
resolving end in the same way, and write the same entries but those on substitutes that were written
out. -/
theorem conclusion_of_changes [Limits] [TimeZone.Database] {written : List Substitution}
    (hwritten : written ⊆ substitutions) {value value' : Value} {bytes bytes' : Bytes}
    (hread : Json.read bytes = .ok value) (hread' : Json.read bytes' = .ok value')
    (h : Relation.EqvGen (Omits written [] shape) value value') (source : String) :
    conclusion (keeps written) (parse bytes source) =
      conclusion (keeps written) (parse bytes' source) := by
  rw [parse_of_read hread, parse_of_read hread']
  exact congrArg (Quot.lift (fun value ↦ conclusion (keeps written) (parseValue value source))
    fun _ _ h ↦ conclusion_of_omits hwritten h source) (Quot.eqvGen_sound h)

open scoped Release

/-- Nothing but what has to be there. -/
def sparse : Members := [
  ("listenAddress", .str "localhost"),
  ("listenPort", .int 80),
  ("logging", .object []),
  ("redis", .object [("queueKey", .str "queue")]),
  ("db", .object []),
  ("archiver", .object [("ddStateFilePath", .str "/state")]),
  ("indexer", .object [("indexDirPath", .str "/index")]),
  ("reporting", .object [])]

def sampleSparse (others : Members) : Value := .object (sparse ++ others)

theorem read_sampleSparse {others : Members}
    (h : ∀ levels, ∀ member ∈ others, Readable (levels + 1) member.2) :
    Json.read (Text.Utf8.encode (sampleSparse others).pretty.toList) =
      .ok (sampleSparse others) := by
  have hreadable {levels : Nat} : Readable (levels + 2) (sampleSparse others) := by
    apply Readable.object
    simpa +decide [sparse, Readable.object, Readable.emptyObject, or_imp, forall_and]
      using h levels
  exact readWithin_pretty hreadable

/-- The URL is spelled out, and one interval of the cleaner in a block that was left out. -/
theorem conclusion_of_changes_sampleSparse :
    conclusion (keeps [substitutions[1], substitutions[9]])
        (parse (Text.Utf8.encode (sampleSparse []).pretty.toList) "") =
      conclusion (keeps [substitutions[1], substitutions[9]])
        (parse (Text.Utf8.encode (sampleSparse [
          ("public_url", .str "http://localhost"),
          ("cleaner", .object [("checkIntervalSecs", .int 3600)])]).pretty.toList) "") := by
  have hwritten : [substitutions[1], substitutions[9]] ⊆ substitutions := by
    simp [substitutions]
  have hurl : Omits [substitutions[1], substitutions[9]] [] shape (sampleSparse [])
      (sampleSparse [("public_url", .str "http://localhost")]) := by
    have hfield : ⟨"publicUrl", "public_url", .leaf .text, some (.str "")⟩ ∈ fields := by
      simp [fields]
    exact @Omits.member _ _ _ _ sparse [] _ _ _ hfield rfl (by decide) rfl
      (.substitute (List.mem_cons_self ..) rfl rfl)
  have hblock : ⟨"cleaner", "cleaner", .block Block.Cleaner.fields, some (.object [
      ("checkIntervalSecs", .int 0),
      ("numProcessItemsPerTurn", .int 0),
      ("minAgeDaysUnvisited", .int 0),
      ("statusKey", .str "")])⟩ ∈ fields := by simp [fields]
  have hcleaner : Omits [substitutions[1], substitutions[9]] [] shape
      (sampleSparse [("public_url", .str "http://localhost")])
      (sampleSparse [("public_url", .str "http://localhost"), ("cleaner", .object [])]) :=
    @Omits.member _ _ _ _ (sparse ++ [("public_url", _)]) [] _ _ _ hblock rfl (by decide) rfl
      (.zero rfl)
  have hinterval : Omits [substitutions[1], substitutions[9]] [] shape
      (sampleSparse [("public_url", .str "http://localhost"), ("cleaner", .object [])])
      (sampleSparse [("public_url", .str "http://localhost"),
        ("cleaner", .object [("checkIntervalSecs", .int 3600)])]) := by
    have hfield : ⟨"checkIntervalSecs", "check_interval_secs", .leaf .integer, some (.int 0)⟩ ∈
        Block.Cleaner.fields := by simp [Block.Cleaner.fields]
    have hmember : Omits [substitutions[1], substitutions[9]] ["cleaner"]
        (.block Block.Cleaner.fields) (.object []) (.object [("checkIntervalSecs", .int 3600)]) :=
      @Omits.member _ _ _ _ [] [] _ _ _ hfield rfl (by decide) rfl
        (.substitute (List.mem_cons_of_mem _ (List.mem_cons_self ..)) rfl rfl)
    exact @Omits.inside _ [] _ _ (sparse ++ [("public_url", _)]) [] "cleaner" _ _ hblock (by decide)
      hmember
  exact conclusion_of_changes hwritten (read_sampleSparse (by simp))
    (read_sampleSparse (by simp +decide [Readable.object]))
    (.trans _ _ _ (.rel _ _ hurl) (.trans _ _ _ (.rel _ _ hcleaner) (.rel _ _ hinterval))) ""

end ServiceBoot.Conf
