import ServiceBoot.Proofs.Conf.Frame
import ServiceBoot.Proofs.Conf.RoundTrip
import ServiceBoot.Proofs.Log.Level

/-!
# The level of a configuration

A document may have its level under any of its spellings, and a configuration keeps it under its
name. So the level is known of every configuration that was parsed, and resolving leaves it alone.
-/

namespace ServiceBoot

open Document Json
open Log (Level)
open Log.Level (Interchangeable)

namespace Document

variable {given stored other kept : String}

theorem levelText_str_eq_accepted_iff :
    levelText (.str given) = .accepted stored ↔
      ∃ level, Level.ofText given = .ok level ∧ level.name = stored := by
  simp [levelText_eq_accepted_iff]

theorem exists_levelText_eq_accepted_iff :
    (∃ stored, levelText (.str given) = .accepted stored) ↔
      ∃ level : Level, given.toLower ∈ level.spellings := by
  simp [levelText_str_eq_accepted_iff, Level.ofText_eq_ok_iff]

theorem levelText_of_not_isAscii (h : ∃ c ∈ given.toList, ¬Text.IsAscii c) :
    levelText (.str given) = complain (.unknownLevel (Text.lowercase given)) := by
  obtain ⟨c, hc, hascii⟩ := h
  have herror : Level.ofText given = .error (Text.lowercase given) := by
    apply Level.ofText_eq_error
    intro level hlevel
    exact hascii (Level.isAscii_of_mem_spellings hlevel c hc)
  simp [levelText, text, Checked.bind, herror]

theorem levelText_again (h : levelText (.str given) = .accepted stored) :
    stored ∈ Level.all.map Level.name ∧ levelText (.str stored) = .accepted stored := by
  obtain ⟨level, -, rfl⟩ := levelText_str_eq_accepted_iff.mp h
  constructor
  · exact List.mem_map_of_mem (by cases level <;> decide)
  · exact levelText_name level

theorem stored_eq_iff (hgiven : levelText (.str given) = .accepted stored)
    (hother : levelText (.str other) = .accepted kept) :
    stored = kept ↔ Relation.EqvGen Interchangeable given other := by
  obtain ⟨level, hlevel, rfl⟩ := levelText_str_eq_accepted_iff.mp hgiven
  obtain ⟨level', hlevel', rfl⟩ := levelText_str_eq_accepted_iff.mp hother
  rw [← Level.eq_iff_eqvGen hlevel hlevel']
  exact ⟨Level.name_injective, congrArg Level.name⟩

end Document

namespace Conf

/-- The configuration before resolving, with the settings of the server filled, and as resolving
leaves it, be it with a fault or without. -/
def phases [TimeZone.Database] (conf : Conf) : List Conf :=
  [conf, (fillDefaults conf).state, (resolve conf).state]

theorem logging_of_mem_phases [TimeZone.Database] {conf state : Conf} (h : state ∈ conf.phases) :
    state.logging = conf.logging := by
  simp only [phases, List.mem_cons, List.not_mem_nil, or_false] at h
  rcases h with rfl | rfl | rfl
  · rfl
  · rw [fillDefaults_state]
    rfl
  · exact (mayBecome_resolve conf).logging

theorem number_of_parse [Limits] [TimeZone.Database] {bytes : Bytes} {source : String}
    {conf : Conf} (h : parse bytes source = .ok conf) :
    ∃ level : Level, ∀ state ∈ conf.phases, state.logging.level = level.name ∧
      state.logging.level?.map Level.number = some level.number := by
  obtain ⟨level, hlevel⟩ := (usable_of_parse h).level
  refine ⟨level, fun state hstate ↦ ?_⟩
  rw [logging_of_mem_phases hstate]
  constructor
  · exact hlevel
  · rw [Block.Logging.level?, hlevel, Level.ofName?_name, Option.map_some]

/-- A text is accepted as a level exactly if it is empty or one of six words, but for the case of
ASCII letters, the only ones that `String.toLower` knows. Hence nothing is accepted that goes beyond
ASCII; it is reported by its full lowercase. What is kept is the name of a level and is kept again
as it is, and two texts are kept alike exactly if they stand for each other. So a configuration that
was parsed has a level with a number, before resolving and after it. -/
theorem level_normalized [Limits] [TimeZone.Database] :
    (∀ given, (∃ stored, levelText (.str given) = .accepted stored) ↔ given = "" ∨
        given.toLower ∈ ["debug", "info", "warn", "warning", "error", "critical"]) ∧
      (∀ given, (∃ c ∈ given.toList, ¬Text.IsAscii c) →
        levelText (.str given) = complain (.unknownLevel (Text.lowercase given))) ∧
      (∀ given stored, levelText (.str given) = .accepted stored →
        stored ∈ Level.all.map Level.name ∧ levelText (.str stored) = .accepted stored) ∧
      (∀ given other stored kept, levelText (.str given) = .accepted stored →
        levelText (.str other) = .accepted kept →
        (stored = kept ↔ Relation.EqvGen Interchangeable given other)) ∧
      ∀ bytes source conf, parse bytes source = .ok conf →
        ∃ level : Level, ∀ state ∈ conf.phases, state.logging.level = level.name ∧
          state.logging.level?.map Level.number = some level.number := by
  refine ⟨?_, ?_, ?_, ?_, ?_⟩
  · intro given
    rw [exists_levelText_eq_accepted_iff, Level.exists_mem_spellings_iff]
  · intro given hgiven
    exact levelText_of_not_isAscii hgiven
  · intro given stored hstored
    exact levelText_again hstored
  · intro given other stored kept hgiven hother
    exact stored_eq_iff hgiven hother
  · intro bytes source conf hparse
    exact number_of_parse hparse

open scoped Release

/-- The first text has a dotted capital letter, whose lowercase takes two characters. -/
theorem level_normalized_sample :
    levelText (.str "İNFO") = complain (.unknownLevel "i\u0307nfo") ∧
      levelText (.str "WARN") = .accepted "warning" ∧
      levelText (.str "Warning") = .accepted "warning" ∧
      Relation.EqvGen Interchangeable "WARN" "Warning" ∧
      parse (Text.Utf8.encode sample.toJson.toList) "camus.json" = .ok sample ∧
      ∀ state ∈ sample.phases, state.logging.level?.map Level.number = some 30 := by
  obtain ⟨-, hbeyond, -, halike, hnumber⟩ := level_normalized
  have hdotted : Text.lowercase "İNFO" = "i\u0307nfo" := by decide +kernel
  have hshort : levelText (.str "WARN") = .accepted "warning" := by
    rw [levelText_str_eq_accepted_iff]
    exact ⟨.warning, Level.ofText_eq_ok_iff.mpr (by decide +kernel), rfl⟩
  have hlong : levelText (.str "Warning") = .accepted "warning" := by
    rw [levelText_str_eq_accepted_iff]
    exact ⟨.warning, Level.ofText_eq_ok_iff.mpr (by decide +kernel), rfl⟩
  have hparse : parse (Text.Utf8.encode sample.toJson.toList) "camus.json" = .ok sample :=
    parse_toJson wellFormed_sample _
  obtain ⟨level, hphases⟩ := hnumber _ _ _ hparse
  have hlevel : level = .warning :=
    Level.name_injective (hphases sample (List.mem_cons_self ..)).1.symm
  subst hlevel
  refine ⟨?_, hshort, hlong, (halike _ _ _ _ hshort hlong).mp rfl, hparse, ?_⟩
  · rw [hbeyond _ ⟨'İ', by decide, by decide⟩, hdotted]
  · intro state hstate
    exact (hphases state hstate).2

end Conf

end ServiceBoot
