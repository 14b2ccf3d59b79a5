import ServiceBoot.Proofs.Conf.Shape
import ServiceBoot.Proofs.Document.Change

/-!
# Configurations presented in another way

Documents that differ in presentation only are parsed to the same configuration, or rejected with
the same report up to the spelling of the keys that were renamed.
-/

namespace ServiceBoot

namespace Document

open Json (Value)

variable {renamed : List String → Bool} {shape : Shape} {value value' : Value}

theorem relocate_check_of_changes (hdistinct : shape.Distinct)
    (h : Relation.EqvGen (Change renamed shape) value value') :
    (shape.check value).relocate (respell · shape renamed) =
      (shape.check value').relocate (respell · shape renamed) :=
  congrArg (Quot.lift (fun value ↦ (shape.check value).relocate (respell · shape renamed))
    fun _ _ ↦ relocate_check_of_change hdistinct) (Quot.eqvGen_sound h)

theorem accepted_of_relocate {α : Type} {f : List Step → List Step} {x : Checked α} {a : α}
    (h : x.relocate f = .accepted a) : x = .accepted a := by
  cases x with
  | accepted b => exact h
  | rejected first others => cases h

theorem rejected_of_relocate {α : Type} {f : List Step → List Step} {x : Checked α}
    {first : Violation} {others : List Violation}
    (h : x.relocate f = (Checked.rejected first others).relocate f) :
    ∃ first' others', x = .rejected first' others' ∧ first'.relocate f = first.relocate f ∧
      others'.map (·.relocate f) = others.map (·.relocate f) := by
  cases x with
  | accepted a => cases h
  | rejected first' others' =>
    rw [Checked.relocate, Checked.relocate, Checked.rejected.injEq] at h
    exact ⟨first', others', rfl, h.1, h.2⟩

end Document

namespace Conf

open Document Json

/-- The lines of a report with the keys that may have been renamed under their first spellings. -/
def respelledDetails (renamed : List String → Bool) (rejection : Rejection) : List Detail :=
  rejection.details.map fun detail ↦ { detail with place := respell detail.place shape renamed }

theorem respelledDetails_violated (renamed : List String → Bool) (first : Violation)
    (others : List Violation) : respelledDetails renamed (.violated first others) =
      ((first :: others).map (·.relocate (respell · shape renamed))).map Violation.detail := by
  rw [respelledDetails, Rejection.details, List.map_map, List.map_map]
  rfl

/-- Any number of changes of presentation, made or undone anywhere in a document, leaves what it is
parsed to: the same configuration, or reports with the same lines in the same order. -/
theorem parse_of_changes [Json.Limits] {renamed : List String → Bool} {value value' : Value}
    {bytes bytes' : Bytes} (hread : Json.read bytes = .ok value)
    (hread' : Json.read bytes' = .ok value')
    (h : Relation.EqvGen (Change renamed shape) value value') (source : String) :
    (parse bytes source).mapError (respelledDetails renamed) =
      (parse bytes' source).mapError (respelledDetails renamed) := by
  have hcheck := relocate_check_of_changes distinct_shape h
  rw [parse_of_read hread, parse_of_read hread']
  rcases parseValue_cases value source with
    ⟨conf, husable, hvalue, hparse⟩ | ⟨first, others, hvalue, hparse⟩
  · rw [hvalue] at hcheck
    rw [hparse, parseValue_of_accepted husable (accepted_of_relocate hcheck.symm)]
  · rw [hvalue] at hcheck
    obtain ⟨first', others', hvalue', hfirst, hothers⟩ := rejected_of_relocate hcheck.symm
    simp only [hparse, parseValue_of_rejected hvalue', Except.mapError, respelledDetails_violated,
      List.map_cons, hfirst, hothers]

open scoped Release

/-- The sort of document that a key is renamed in, with other members beside it. -/
def sampleSpelled (key : String) (unknown : Members) : Value := .object [
  ("redis", .object (unknown ++ [(key, .int 0)])),
  ("listenPort", .int 80)]

theorem read_sampleSpelled (key : String) {unknown : Members}
    (h : ∀ levels, ∀ member ∈ unknown, Readable levels member.2) :
    Json.read (Text.Utf8.encode (sampleSpelled key unknown).pretty.toList) =
      .ok (sampleSpelled key unknown) := by
  have hreadable {levels : Nat} : Readable (levels + 2) (sampleSpelled key unknown) := by
    have hredis : Readable (levels + 1) (.object (unknown ++ [(key, .int 0)])) := by
      apply Readable.object
      simpa +decide [or_imp, forall_and] using h levels
    apply Readable.object
    simpa +decide using hredis
  exact readWithin_pretty hreadable

theorem parse_of_changes_sampleSpelled :
    (parse (Text.Utf8.encode (sampleSpelled "queueKey" []).pretty.toList) "").mapError
        (respelledDetails (· == ["redis", "queueKey"])) =
      (parse (Text.Utf8.encode (sampleSpelled "queue_key" [("unknown", .null)]).pretty.toList)
        "").mapError (respelledDetails (· == ["redis", "queueKey"])) := by
  have hredis : ⟨"redis", "redis", .block Block.Redis.fields, none⟩ ∈ fields := by simp [fields]
  have hkey : ⟨"queueKey", "queue_key", .leaf .text, some (.str "")⟩ ∈ Block.Redis.fields := by
    simp [Block.Redis.fields]
  have hrenamed : Change (· == ["redis", "queueKey"]) shape (sampleSpelled "queueKey" [])
      (sampleSpelled "queue_key" []) :=
    @Change.inside _ _ _ [] _ _ _ _ hredis (by decide)
      (@Change.toSnake _ _ _ [] [] _ hkey rfl (by decide) (by decide))
  have hunknown : Change (· == ["redis", "queueKey"]) shape (sampleSpelled "queue_key" [])
      (sampleSpelled "queue_key" [("unknown", .null)]) :=
    @Change.inside _ _ _ [] _ _ _ _ hredis (by decide)
      (@Change.unknown _ _ [] _ _ _ (by decide))
  exact parse_of_changes (read_sampleSpelled _ (by simp))
    (read_sampleSpelled _ (by simp [Readable.null])) (.trans _ _ _ (.rel _ _ hrenamed)
      (.rel _ _ hunknown)) ""

/-- Two timeouts, of which the later one stands under the given key. -/
def sampleRepeated (key : String) : Members := [
  ("serverReadTimeoutSecs", .int 1),
  (key, .int 2),
  ("listenAddress", .str "0.0.0.0:80"),
  ("listenPort", .int 80),
  ("logging", .object []),
  ("redis", .object []),
  ("db", .object []),
  ("archiver", .object []),
  ("indexer", .object []),
  ("reporting", .object [])]

theorem read_sampleRepeated (key : String) :
    Json.read (Text.Utf8.encode (Value.object (sampleRepeated key)).pretty.toList) =
      .ok (.object (sampleRepeated key)) := by
  have hreadable {levels : Nat} : Readable (levels + 2) (.object (sampleRepeated key)) := by
    apply Readable.object
    simp +decide [sampleRepeated, Readable.emptyObject]
  exact readWithin_pretty hreadable

/-- That its other spelling is absent is not enough for renaming a key that is repeated: the earlier
member decides once the later one stands under the second spelling. -/
theorem parse_of_renamed_repeated :
    "server_read_timeout_secs" ∉ (sampleRepeated "serverReadTimeoutSecs").names ∧
      (parse (Text.Utf8.encode
          (Value.object (sampleRepeated "serverReadTimeoutSecs")).pretty.toList) "").map
        (·.serverReadTimeoutSecs) = .ok 2 ∧
      (parse (Text.Utf8.encode
          (Value.object (sampleRepeated "server_read_timeout_secs")).pretty.toList) "").map
        (·.serverReadTimeoutSecs) = .ok 1 := by
  have hparse {key : String} {n : Int} (h : (block check (.object (sampleRepeated key))).value?.map
      (·.serverReadTimeoutSecs) = some n) :
      (parse (Text.Utf8.encode (Value.object (sampleRepeated key)).pretty.toList) "").map
        (·.serverReadTimeoutSecs) = .ok n := by
    simp only [parse, Document.read, read_sampleRepeated]
    cases hcheck : block check (.object (sampleRepeated key)) with
    | accepted conf =>
      rw [hcheck] at h
      exact congrArg Except.ok (Option.some.inj h)
    | rejected first others => simp [hcheck, Checked.value?] at h
  exact ⟨by decide, hparse (by decide +kernel), hparse (by decide +kernel)⟩

end Conf

end ServiceBoot
