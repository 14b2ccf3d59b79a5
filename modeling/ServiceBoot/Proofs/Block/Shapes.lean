import ServiceBoot.Block.Archiver
import ServiceBoot.Block.Cleaner
import ServiceBoot.Block.Database
import ServiceBoot.Block.Indexer
import ServiceBoot.Block.Logging
import ServiceBoot.Block.Redis
import ServiceBoot.Block.Reporting
import ServiceBoot.Proofs.Document.Check

/-!
# Shapes of the blocks

The fields of each block, with both spellings and the default of each of them written out. The check
of a block gives a type to what this shape accepts.
-/

namespace ServiceBoot.Block

open Document Json

variable (members : Members)

namespace Logging

def fields : List (Document.Field Shape) := [
  ⟨"path", "path", .leaf .text, some (.str "")⟩,
  ⟨"level", "level", .leaf .level, some (.str "info")⟩]

theorem map_check : toMembers <$> check members = checkMembers fields members := by
  simp (disch := decide +kernel) only [fields, checkMembers, follows_text.defaulted,
    follows_levelText.defaulted]
  simp only [check, map_seq, seq_map_assoc, Functor.map_map, seq_pure, Function.comp_def]
  rfl

theorem distinct_fields : (Shape.block fields).Distinct :=
  Shape.distinct_block_iff.mpr ⟨by decide, by simp [fields]⟩

end Logging

namespace Redis

def fields : List (Document.Field Shape) := [
  ⟨"host", "host", .leaf .text, some (.str "")⟩,
  ⟨"port", "port", .leaf .integer, some (.int 0)⟩,
  ⟨"db", "db", .leaf .integer, some (.int 0)⟩,
  ⟨"password", "password", .leaf .text, some (.str "")⟩,
  ⟨"queueKey", "queue_key", .leaf .text, some (.str "")⟩,
  ⟨"failedQueueKey", "failed_queue_key", .leaf .text, some (.str "")⟩,
  ⟨"failedRecordsKey", "failed_records_key", .leaf .text, some (.str "")⟩]

theorem map_check : toMembers <$> check members = checkMembers fields members := by
  simp (disch := decide +kernel) only [fields, checkMembers, follows_text.defaulted,
    follows_integer.defaulted]
  simp only [check, map_seq, seq_assoc, seq_map_assoc, Functor.map_map, seq_pure, Function.comp_def]
  rfl

theorem distinct_fields : (Shape.block fields).Distinct :=
  Shape.distinct_block_iff.mpr ⟨by decide, by simp [fields]⟩

end Redis

namespace Database

def fields : List (Document.Field Shape) := [
  ⟨"host", "host", .leaf .endpoint, some (.str "")⟩,
  ⟨"user", "user", .leaf .text, some (.str "")⟩,
  ⟨"passwd", "passwd", .leaf .text, some (.str "")⟩,
  ⟨"name", "name", .leaf .text, some (.str "")⟩,
  ⟨"poolSize", "pool_size", .leaf .integer, some (.int 0)⟩]

theorem map_check : toMembers <$> check members = checkMembers fields members := by
  simp (disch := decide +kernel) only [fields, checkMembers, follows_endpointText.defaulted,
    follows_text.defaulted, follows_integer.defaulted]
  simp only [check, map_seq, seq_assoc, seq_map_assoc, Functor.map_map, seq_pure, Function.comp_def]
  rfl

theorem distinct_fields : (Shape.block fields).Distinct :=
  Shape.distinct_block_iff.mpr ⟨by decide, by simp [fields]⟩

end Database

namespace Archiver

def fields : List (Document.Field Shape) := [
  ⟨"ddStateFilePath", "dd_state_file_path", .leaf .text, some (.str "")⟩,
  ⟨"checkIntervalSecs", "check_interval_secs", .leaf .integer, some (.int 0)⟩,
  ⟨"checkIntervalChunk", "check_interval_chunk", .leaf .integer, some (.int 0)⟩,
  ⟨"preloadLastNItems", "preload_last_n_items", .leaf .integer, some (.int 0)⟩]

theorem map_check : toMembers <$> check members = checkMembers fields members := by
  simp (disch := decide +kernel) only [fields, checkMembers, follows_text.defaulted,
    follows_integer.defaulted]
  simp only [check, map_seq, seq_assoc, seq_map_assoc, Functor.map_map, seq_pure, Function.comp_def]
  rfl

theorem distinct_fields : (Shape.block fields).Distinct :=
  Shape.distinct_block_iff.mpr ⟨by decide, by simp [fields]⟩

end Archiver

namespace Indexer

def fields : List (Document.Field Shape) := [
  ⟨"indexDirPath", "index_dir_path", .leaf .text, some (.str "")⟩,
  ⟨"docRemoveChannel", "doc_remove_channel", .leaf .text, some (.str "")⟩,
  ⟨"queryHistoryNumPreserve", "query_history_num_preserve", .leaf .integer, some (.int 0)⟩]

theorem map_check : toMembers <$> check members = checkMembers fields members := by
  simp (disch := decide +kernel) only [fields, checkMembers, follows_text.defaulted,
    follows_integer.defaulted]
  simp only [check, map_seq, seq_assoc, seq_map_assoc, Functor.map_map, seq_pure, Function.comp_def]
  rfl

theorem distinct_fields : (Shape.block fields).Distinct :=
  Shape.distinct_block_iff.mpr ⟨by decide, by simp [fields]⟩

end Indexer

namespace Cleaner

def fields : List (Document.Field Shape) := [
  ⟨"checkIntervalSecs", "check_interval_secs", .leaf .integer, some (.int 0)⟩,
  ⟨"numProcessItemsPerTurn", "num_process_items_per_turn", .leaf .integer, some (.int 0)⟩,
  ⟨"minAgeDaysUnvisited", "min_age_days_unvisited", .leaf .integer, some (.int 0)⟩,
  ⟨"statusKey", "status_key", .leaf .text, some (.str "")⟩]

theorem map_check : toMembers <$> check members = checkMembers fields members := by
  simp (disch := decide +kernel) only [fields, checkMembers, follows_integer.defaulted,
    follows_text.defaulted]
  simp only [check, map_seq, seq_assoc, seq_map_assoc, Functor.map_map, seq_pure, Function.comp_def]
  rfl

theorem distinct_fields : (Shape.block fields).Distinct :=
  Shape.distinct_block_iff.mpr ⟨by decide, by simp [fields]⟩

end Cleaner

namespace Reporting

def fields : List (Document.Field Shape) := [
  ⟨"host", "host", .leaf .text, some (.str "")⟩,
  ⟨"port", "port", .leaf .integer, some (.int 5432)⟩,
  ⟨"user", "user", .leaf .text, some (.str "")⟩,
  ⟨"passwd", "passwd", .leaf .text, some (.str "")⟩,
  ⟨"db", "db", .leaf .text, some (.str "")⟩,
  ⟨"sslMode", "ssl_mode", .leaf .text, some (.str "")⟩]

theorem map_check : toMembers <$> check members = checkMembers fields members := by
  simp (disch := decide +kernel) only [fields, checkMembers, follows_text.defaulted,
    follows_integer.defaulted]
  simp only [check, map_seq, seq_assoc, seq_map_assoc, Functor.map_map, seq_pure, Function.comp_def,
    defaultPort]
  rfl

theorem distinct_fields : (Shape.block fields).Distinct :=
  Shape.distinct_block_iff.mpr ⟨by decide, by simp [fields]⟩

end Reporting

end ServiceBoot.Block
