import ServiceBoot.Proofs.Conf.Shape

/-!
# Normal forms of configurations

A configuration is written as the normal form of the document that it was parsed from: nothing of
what was given is lost, and nothing else is added but defaults.
-/

namespace ServiceBoot.Conf

open Document Json

/-- The document of a parsed configuration is the normal form of the one that was parsed, as a text
and as the tree that is read from this text. -/
theorem toJson_of_parse [Json.Limits] {bytes : Bytes} {source : String} {conf : Conf}
    (h : parse bytes source = .ok conf) :
    ∃ given, Json.read bytes = .ok given ∧ conf.toJson = (shape.normal given).pretty ∧
      Json.read (Text.Utf8.encode conf.toJson.toList) = .ok (shape.normal given) := by
  have hwell := wellFormed_of_parse h
  obtain ⟨given, -, hread, -, -⟩ := parse_eq_ok.mp h
  rw [parse_of_read hread] at h
  rcases parseValue_cases given source with ⟨parsed, -, hcheck, hparse⟩ | ⟨_, _, -, hparse⟩
  · obtain rfl := Except.ok.inj (h.symm.trans hparse)
    refine ⟨given, hread, ?_⟩
    rw [Shape.normal_of_check hcheck]
    exact ⟨rfl, readWithin_pretty hwell.readable⟩
  · rw [hparse] at h
    cases h

open scoped Release

/-- A document with both spellings, with names that are repeated or unknown, and without a block
that may be left out. -/
def sampleGiven : Value := .object [
  ("listen_address", .str "overridden"),
  ("listenAddress", .str "first"),
  ("listenAddress", .str "0.0.0.0:80"),
  ("listen_port", .int 80),
  ("unknown", .list [.null, .bool true]),
  ("auth_tokens", .list [.str "b", .str "a"]),
  ("reporting", .object []),
  ("indexer", .object [("index_dir_path", .str "/index"), ("unknown", .null)]),
  ("archiver", .object [("preload_last_n_items", .int 7), ("preloadLastNItems", .int 8)]),
  ("db", .object [("host", .str "db:3306")]),
  ("redis", .object [("queueKey", .str "queue"), ("queue_key", .int 0)]),
  ("logging", .object [("level", .str "WARN")])]

theorem read_sampleGiven :
    Json.read (Text.Utf8.encode sampleGiven.pretty.toList) = .ok sampleGiven := by
  have hreadable {levels : Nat} : Readable (levels + 2) sampleGiven := by
    apply Readable.object
    simp +decide [Readable.object, Readable.list, Readable.null, Readable.bool]
  exact readWithin_pretty hreadable

theorem toJson_of_parse_sampleGiven : ∃ conf,
    parse (Text.Utf8.encode sampleGiven.pretty.toList) "camus.json" = .ok conf ∧
      conf.toJson = (shape.normal sampleGiven).pretty := by
  have haccepted : (shape.check sampleGiven).violations = [] := by decide +kernel
  rcases parseValue_cases sampleGiven "camus.json" with
    ⟨conf, -, -, hparse⟩ | ⟨first, others, hcheck, -⟩
  · rw [← parse_of_read read_sampleGiven] at hparse
    obtain ⟨given, hgiven, htext, -⟩ := toJson_of_parse hparse
    obtain rfl := Except.ok.inj (hgiven.symm.trans read_sampleGiven)
    exact ⟨_, hparse, htext⟩
  · simp [hcheck] at haccepted

example : shape.normal sampleGiven = .object [
    ("listenAddress", .str "0.0.0.0:80"),
    ("publicUrl", .str ""),
    ("listenPort", .int 80),
    ("serverReadTimeoutSecs", .int 0),
    ("serverWriteTimeoutSecs", .int 0),
    ("corsAllowedOrigins", .list []),
    ("timeZone", .str ""),
    ("authHeaderName", .str ""),
    ("authTokens", .list [.str "b", .str "a"]),
    ("logging", .object [("path", .str ""), ("level", .str "warning")]),
    ("redis", .object [("host", .str ""), ("port", .int 0), ("db", .int 0), ("password", .str ""),
      ("queueKey", .str "queue"), ("failedQueueKey", .str ""), ("failedRecordsKey", .str "")]),
    ("db", .object [("host", .str "db:3306"), ("user", .str ""), ("passwd", .str ""),
      ("name", .str ""), ("poolSize", .int 0)]),
    ("archiver", .object [("ddStateFilePath", .str ""), ("checkIntervalSecs", .int 0),
      ("checkIntervalChunk", .int 0), ("preloadLastNItems", .int 8)]),
    ("indexer", .object [("indexDirPath", .str "/index"), ("docRemoveChannel", .str ""),
      ("queryHistoryNumPreserve", .int 0)]),
    ("cleaner", .object [("checkIntervalSecs", .int 0), ("numProcessItemsPerTurn", .int 0),
      ("minAgeDaysUnvisited", .int 0), ("statusKey", .str "")]),
    ("reporting", .object [("host", .str ""), ("port", .int 5432), ("user", .str ""),
      ("passwd", .str ""), ("db", .str ""), ("sslMode", .str "")])] := by
  rfl

end ServiceBoot.Conf
