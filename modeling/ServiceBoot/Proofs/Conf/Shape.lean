import ServiceBoot.Conf
import ServiceBoot.Proofs.Block.Shapes
import ServiceBoot.Proofs.Conf.RoundTrip

/-!
# The shape of a configuration

The fields of the document that a configuration is read from, and the shapes of its blocks. Parsing
gives a type to what this shape accepts.
-/

namespace ServiceBoot.Conf

open Document Json

def fields : List (Document.Field Shape) := [
  ⟨"listenAddress", "listen_address", .leaf .text, none⟩,
  ⟨"publicUrl", "public_url", .leaf .text, some (.str "")⟩,
  ⟨"listenPort", "listen_port", .leaf .integer, none⟩,
  ⟨"serverReadTimeoutSecs", "server_read_timeout_secs", .leaf .integer, some (.int 0)⟩,
  ⟨"serverWriteTimeoutSecs", "server_write_timeout_secs", .leaf .integer, some (.int 0)⟩,
  ⟨"corsAllowedOrigins", "cors_allowed_origins", .leaf .texts, some (.list [])⟩,
  ⟨"timeZone", "time_zone", .leaf .text, some (.str "")⟩,
  ⟨"authHeaderName", "auth_header_name", .leaf .text, some (.str "")⟩,
  ⟨"authTokens", "auth_tokens", .leaf .texts, some (.list [])⟩,
  ⟨"logging", "logging", .block Block.Logging.fields, none⟩,
  ⟨"redis", "redis", .block Block.Redis.fields, none⟩,
  ⟨"db", "db", .block Block.Database.fields, none⟩,
  ⟨"archiver", "archiver", .block Block.Archiver.fields, none⟩,
  ⟨"indexer", "indexer", .block Block.Indexer.fields, none⟩,
  ⟨"cleaner", "cleaner", .block Block.Cleaner.fields, some (.object [
    ("checkIntervalSecs", .int 0),
    ("numProcessItemsPerTurn", .int 0),
    ("minAgeDaysUnvisited", .int 0),
    ("statusKey", .str "")])⟩,
  ⟨"reporting", "reporting", .block Block.Reporting.fields, none⟩]

def shape : Shape := .block fields

def blocks : List (List (Document.Field Shape)) := [
  Block.Logging.fields,
  Block.Redis.fields,
  Block.Database.fields,
  Block.Archiver.fields,
  Block.Indexer.fields,
  Block.Cleaner.fields,
  Block.Reporting.fields]

/-- Lists without items stand for lists that were left out. -/
theorem checkMember_texts {camel snake : String} (h : snakeCase camel = snake)
    (members : Members) : checkMember ⟨camel, snake, .leaf .texts, some (.list [])⟩ members =
      (fun texts ↦ (camel, textList texts)) <$> defaulted members camel [] texts :=
  follows_texts.defaulted h [] members

theorem checkMember_cleaner (members : Members) :
    checkMember ⟨"cleaner", "cleaner", .block Block.Cleaner.fields, some (.object [
        ("checkIntervalSecs", .int 0),
        ("numProcessItemsPerTurn", .int 0),
        ("minAgeDaysUnvisited", .int 0),
        ("statusKey", .str "")])⟩ members =
      (fun block ↦ ("cleaner", .object block.toMembers)) <$>
        defaulted members "cleaner" {} (block Block.Cleaner.check) :=
  (follows_block Block.Cleaner.map_check).defaulted (by decide +kernel) {} members

theorem map_check (members : Members) :
    toMembers <$> check members = checkMembers fields members := by
  simp (disch := decide +kernel) only [fields, checkMembers, follows_text.mandatory,
    follows_text.defaulted, follows_integer.mandatory, follows_integer.defaulted,
    checkMember_texts, checkMember_cleaner,
    (follows_block Block.Logging.map_check).mandatory,
    (follows_block Block.Redis.map_check).mandatory,
    (follows_block Block.Database.map_check).mandatory,
    (follows_block Block.Archiver.map_check).mandatory,
    (follows_block Block.Indexer.map_check).mandatory,
    (follows_block Block.Reporting.map_check).mandatory]
  simp only [check, map_seq, seq_assoc, seq_map_assoc, Functor.map_map, seq_pure,
    Function.comp_def]
  rfl

theorem follows_check : Follows (block check) (.object ∘ toMembers) shape :=
  follows_block map_check

theorem distinct_shape : shape.Distinct :=
  Shape.distinct_block_iff.mpr ⟨by decide, by
    simp [fields, Block.Logging.distinct_fields, Block.Redis.distinct_fields,
      Block.Database.distinct_fields, Block.Archiver.distinct_fields,
      Block.Indexer.distinct_fields, Block.Cleaner.distinct_fields,
      Block.Reporting.distinct_fields]⟩

/-! ## Parsing -/

/-- What parsing makes of a value that was read. -/
def parseValue (value : Value) (source : String) : Except Rejection Conf :=
  match block check value with
  | .accepted conf => .ok { conf with sourcePath := source }
  | .rejected first others => .error (.violated first others)

theorem parse_of_read [Json.Limits] {bytes : Bytes} {value : Value}
    (h : Json.read bytes = .ok value)
    (source : String) : parse bytes source = parseValue value source := by
  simp only [parse, Document.read, h, parseValue]
  cases block check value <;> rfl

/-- Configurations that are written alike are the same but for where they were read from. -/
theorem eq_of_toMembers {conf conf' : Conf} (h : conf.Usable) (h' : conf'.Usable)
    (hmembers : conf.toMembers = conf'.toMembers) (source : String) :
    { conf with sourcePath := source } = { conf' with sourcePath := source } := by
  have hcheck := check_toMembers h
  rw [hmembers, check_toMembers h', Checked.accepted.injEq] at hcheck
  exact congrArg (fun conf ↦ { conf with sourcePath := source }) hcheck.symm

/-- A value is parsed to a configuration that is written as what the shape accepts of it, or it is
rejected for what the shape complains of. -/
theorem parseValue_cases (value : Value) (source : String) :
    (∃ conf : Conf, conf.Usable ∧ shape.check value = .accepted (.object conf.toMembers) ∧
        parseValue value source = .ok { conf with sourcePath := source }) ∨
      ∃ first others, shape.check value = .rejected first others ∧
        parseValue value source = .error (.violated first others) := by
  rw [← follows_check, parseValue]
  cases hcheck : block check value with
  | accepted conf =>
    obtain ⟨members, -, hmembers⟩ := check_of_block hcheck
    exact .inl ⟨conf, usable_of_check hmembers, rfl, rfl⟩
  | rejected first others => exact .inr ⟨first, others, rfl, rfl⟩

theorem parseValue_of_accepted {value : Value} {conf : Conf} (husable : conf.Usable)
    (h : shape.check value = .accepted (.object conf.toMembers)) (source : String) :
    parseValue value source = .ok { conf with sourcePath := source } := by
  rcases parseValue_cases value source with ⟨conf', husable', hcheck, hparse⟩ | ⟨_, _, hcheck, -⟩
  · rw [hcheck, Checked.accepted.injEq, Value.object.injEq] at h
    rw [hparse, eq_of_toMembers husable' husable h]
  · rw [hcheck] at h
    cases h

theorem parseValue_of_rejected {value : Value} {first : Violation} {others : List Violation}
    (h : shape.check value = .rejected first others) (source : String) :
    parseValue value source = .error (.violated first others) := by
  rcases parseValue_cases value source with ⟨_, -, hcheck, -⟩ | ⟨first', others', hcheck, hparse⟩
  · rw [hcheck] at h
    cases h
  · rw [hcheck, Checked.rejected.injEq] at h
    rw [hparse, h.1, h.2]

theorem parseValue_congr {value value' : Value} (h : shape.check value' = shape.check value)
    (source : String) : parseValue value' source = parseValue value source := by
  rcases parseValue_cases value source with
    ⟨conf, husable, hcheck, hparse⟩ | ⟨first, others, hcheck, hparse⟩
  · rw [hparse, parseValue_of_accepted husable (h.trans hcheck)]
  · rw [hparse, parseValue_of_rejected (h.trans hcheck)]

end ServiceBoot.Conf
