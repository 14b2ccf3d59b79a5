import Mathlib.Data.List.Nodup
import ServiceBoot.Proofs.Conf.Shape
import ServiceBoot.Proofs.Document.Repair

/-!
# Reports on configurations

A document is rejected if something violates the shape of a configuration, and the report then has a
line for each violation and no others. Repairing the document in one place removes one line.
-/

namespace ServiceBoot.Conf

open Document Json

/-- The lines of the report that parsing ends with, if it ends with one. -/
def reportOf : Except Rejection Conf → List Detail
  | .ok _ => []
  | .error rejection => rejection.details

theorem reportOf_parse [Json.Limits] {bytes : Bytes} {value : Value}
    (hread : Json.read bytes = .ok value) (source : String) :
    reportOf (parse bytes source) = (shape.check value).violations.map Violation.detail := by
  rw [parse_of_read hread]
  rcases parseValue_cases value source with
    ⟨conf, -, hcheck, hparse⟩ | ⟨first, others, hcheck, hparse⟩
  · rw [hparse, hcheck]
    rfl
  · rw [hparse, hcheck]
    rfl

theorem rejected_iff_violates [Json.Limits] {bytes : Bytes} {value : Value}
    (hread : Json.read bytes = .ok value)
    (source : String) : (∃ rejection, parse bytes source = .error rejection) ↔
      ∃ violation, Violates shape value violation := by
  simp only [← Shape.mem_violations_iff, parse_of_read hread]
  rcases parseValue_cases value source with
    ⟨conf, -, hcheck, hparse⟩ | ⟨first, others, hcheck, hparse⟩
  · simp [hparse, hcheck]
  · simp only [hparse, hcheck, violations_rejected]
    exact ⟨fun _ ↦ ⟨first, List.mem_cons_self ..⟩, fun _ ↦ ⟨_, rfl⟩⟩

theorem filter_place_ne {before after : List Violation} {violation : Violation}
    (h : ((before ++ violation :: after).map (·.place)).Nodup) :
    (before ++ violation :: after).filter (·.place ≠ violation.place) = before ++ after := by
  rw [List.map_append, List.map_cons, List.nodup_middle, List.nodup_cons, ← List.map_append] at h
  have hothers : ∀ other ∈ before ++ after, other.place ≠ violation.place := by
    intro other hother hplace
    exact h.1 (List.mem_map.mpr ⟨other, hother, hplace⟩)
  obtain ⟨hbefore, hafter⟩ := List.forall_mem_append.mp hothers
  rw [List.filter_append, List.filter_cons_of_neg (by simp),
    List.filter_eq_self.mpr (by simpa using hbefore),
    List.filter_eq_self.mpr (by simpa using hafter)]

/-- A document that can be read is rejected just if something violates the shape. The report has one
line for each violation and no others, at a place of its own, in the order in which the fields are
declared. Each of the places can be repaired, and once an accepted value is there, the same lines
but this one are left. -/
theorem parse_report [Json.Limits] {bytes : Bytes} {value : Value}
    (hread : Json.read bytes = .ok value) (source : String) :
    ((∃ rejection, parse bytes source = .error rejection) ↔
        ∃ violation, Violates shape value violation) ∧
      ∃ violations : List Violation,
        reportOf (parse bytes source) = violations.map Violation.detail ∧
        (∀ violation, violation ∈ violations ↔ Violates shape value violation) ∧
        (violations.map (·.place)).Nodup ∧
        (violations.map (·.place)).Pairwise (Precedes shape) ∧
        ∀ before violation after, violations = before ++ violation :: after →
          (∃ expected, Expects shape violation.place expected) ∧
          (∀ new, ∃ repaired, Puts new violation.place value repaired) ∧
          ∀ expected new repaired bytes', Expects shape violation.place expected →
            (∀ inner, ¬ Violates expected new inner) →
            Puts new violation.place value repaired → Json.read bytes' = .ok repaired →
            reportOf (parse bytes' source) = (before ++ after).map Violation.detail := by
  refine ⟨rejected_iff_violates hread source, (shape.check value).violations,
    reportOf_parse hread source, fun _ ↦ Shape.mem_violations_iff,
    Shape.nodup_violations distinct_shape value, shape.pairwise_violations value, ?_⟩
  intro before violation after hviolations
  have hviolates : Violates shape value violation :=
    Shape.mem_violations_iff.mp (by simp [hviolations])
  obtain ⟨hexpects, hputs⟩ := exists_puts hviolates
  refine ⟨hexpects, hputs, ?_⟩
  intro expected new repaired bytes' hexpects hnew hputs hread'
  have haccepted : (expected.check new).violations = [] :=
    List.eq_nil_iff_forall_not_mem.mpr fun inner h ↦ hnew inner (Shape.mem_violations_iff.mp h)
  have hnodup := Shape.nodup_violations distinct_shape value
  rw [reportOf_parse hread', violations_of_puts distinct_shape hviolates hexpects haccepted hputs,
    hviolations, filter_place_ne (hviolations ▸ hnodup)]

open scoped Release

/-- A document with violations at several depths, and with the given item among texts. -/
def sampleRejected (item : Value) : Value := .object [
  ("reporting", .object [("port", .bool true)]),
  ("auth_tokens", .list [.str "a", item, .str "b", .int 1]),
  ("db", .object [("host", .str "db:port")]),
  ("logging", .list []),
  ("listenPort", .str "80")]

theorem read_sampleRejected {item : Value} (h : ∀ levels, Readable levels item) :
    Json.read (Text.Utf8.encode (sampleRejected item).pretty.toList) =
      .ok (sampleRejected item) := by
  have hreadable {levels : Nat} : Readable (levels + 2) (sampleRejected item) := by
    apply Readable.object
    simp +decide [Readable.object, Readable.list, Readable.bool, h]
  exact readWithin_pretty hreadable

theorem parse_report_sampleRejected : ∃ before after,
    reportOf (parse (Text.Utf8.encode (sampleRejected .null).pretty.toList) "") =
        before ++ ⟨"string_type", [.key "auth_tokens", .index 1],
          "Input should be a valid string"⟩ :: after ∧
      reportOf (parse (Text.Utf8.encode (sampleRejected (.str "c")).pretty.toList) "") =
        before ++ after := by
  obtain ⟨-, violations, hreport, hmem, -, -, hrepair⟩ :=
    parse_report (read_sampleRejected fun _ ↦ Readable.null) ""
  have hfield : ⟨"authTokens", "auth_tokens", .leaf .texts, some (.list [])⟩ ∈ fields := by
    simp [fields]
  have hitem : Violates (.leaf .texts) (.list [.str "a", .null, .str "b", .int 1])
      ⟨[.index 1], .notText⟩ := @Violates.item [.str "a"] _ .null (by decide)
  have hviolates : Violates shape (sampleRejected .null)
      ⟨[.key "auth_tokens", .index 1], .notText⟩ :=
    @Violates.inside _ _ _ ⟨"auth_tokens", _⟩ _ hfield rfl hitem
  have hexpects : Expects shape [.key "auth_tokens", .index 1] (.leaf .text) :=
    .member hfield (by decide) .item
  have haccepted : ∀ inner, ¬ Violates (.leaf .text) (.str "c") inner := by
    rintro inner (_ | ⟨-, hkind⟩)
    exact hkind rfl
  have hlist : Puts (.str "c") [.index 1] (.list [.str "a", .null, .str "b", .int 1])
      (.list [.str "a", .str "c", .str "b", .int 1]) := @Puts.item _ [.str "a"] _ _ _ _ .here
  have hputs : Puts (.str "c") [.key "auth_tokens", .index 1] (sampleRejected .null)
      (sampleRejected (.str "c")) :=
    @Puts.member _ [("reporting", _)] _ _ _ _ _ (by decide) hlist
  obtain ⟨before, after, rfl⟩ := List.append_of_mem ((hmem _).mpr hviolates)
  obtain ⟨-, -, hrepaired⟩ := hrepair before _ after rfl
  refine ⟨before.map Violation.detail, after.map Violation.detail, ?_, ?_⟩
  · rw [hreport, List.map_append, List.map_cons]
    rfl
  · rw [← List.map_append]
    exact hrepaired _ _ _ _ hexpects haccepted hputs (read_sampleRejected fun _ ↦ Readable.str)

example : (shape.check (sampleRejected .null)).violations = [
    ⟨[.key "listenAddress"], .missing⟩,
    ⟨[.key "listenPort"], .notInteger⟩,
    ⟨[.key "auth_tokens", .index 1], .notText⟩,
    ⟨[.key "auth_tokens", .index 3], .notText⟩,
    ⟨[.key "logging"], .notObject⟩,
    ⟨[.key "redis"], .missing⟩,
    ⟨[.key "db", .key "host"], .badEndpoint (.invalidPort "port" "db:port")⟩,
    ⟨[.key "archiver"], .missing⟩,
    ⟨[.key "indexer"], .missing⟩,
    ⟨[.key "reporting", .key "port"], .notInteger⟩] := by
  decide +kernel

end ServiceBoot.Conf
