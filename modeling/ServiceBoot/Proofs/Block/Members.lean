import ServiceBoot.Block.Archiver
import ServiceBoot.Block.Cleaner
import ServiceBoot.Block.Database
import ServiceBoot.Block.Indexer
import ServiceBoot.Block.Logging
import ServiceBoot.Block.Redis
import ServiceBoot.Block.Reporting
import ServiceBoot.Proofs.Block.Filled
import ServiceBoot.Proofs.Document.Field
import ServiceBoot.Proofs.Json.Documents
import ServiceBoot.Proofs.Json.Integers

/-!
# Members of the blocks

The members that a block is written with can be read if its integers can, and the check of the
block accepts them as the block itself. A block that was read from members has such integers, and so
has a block that was filled.
-/

namespace ServiceBoot.Block

open Document Json

variable {levels : Nat} {members : Members} {key : String} {n default : Int}

section

variable [Limits]

theorem isReadable_of_integer {value : Value} (hvalue : value.HasReadableIntegers)
    (h : integer value = .accepted n) : IsReadable n := by
  cases hvalue with
  | int hn =>
    cases h
    exact hn
  | _ => cases h

theorem isReadable_of_mandatory (hmembers : ∀ member ∈ members, member.2.HasReadableIntegers)
    (h : mandatory members key integer = .accepted n) : IsReadable n := by
  obtain ⟨member, hmember, h⟩ := check_of_mandatory h
  exact isReadable_of_integer (hmembers member hmember) h

theorem isReadable_of_defaulted (hmembers : ∀ member ∈ members, member.2.HasReadableIntegers)
    (hdefault : IsShort default) (h : defaulted members key default integer = .accepted n) :
    IsReadable n := by
  rcases check_of_defaulted h with rfl | ⟨member, hmember, h⟩
  · exact hdefault.isReadable
  · exact isReadable_of_integer (hmembers member hmember) h

theorem isReadable_fillInt (hn : IsReadable n) (hdefault : IsShort default) :
    IsReadable (fillInt n default) := by
  unfold fillInt
  split
  · exact hdefault.isReadable
  · exact hn

theorem members_of_block {α : Type} {check : Members → Checked α} {value : Value} {a : α}
    (hvalue : value.HasReadableIntegers) (h : block check value = .accepted a) :
    ∃ inner, (∀ member ∈ inner, member.2.HasReadableIntegers) ∧ check inner = .accepted a := by
  obtain ⟨inner, rfl, hcheck⟩ := check_of_block h
  cases hvalue with
  | object hinner => exact ⟨inner, hinner, hcheck⟩

theorem members_of_mandatory {α : Type} {check : Members → Checked α} {a : α}
    (hmembers : ∀ member ∈ members, member.2.HasReadableIntegers)
    (h : mandatory members key (block check) = .accepted a) :
    ∃ inner, (∀ member ∈ inner, member.2.HasReadableIntegers) ∧ check inner = .accepted a := by
  obtain ⟨member, hmember, h⟩ := check_of_mandatory h
  exact members_of_block (hmembers member hmember) h

end

namespace Logging

theorem readable [Limits] (block : Logging) : Readable (levels + 1) (.object block.toMembers) := by
  apply Readable.object
  simp [toMembers]

theorem check_toMembers {block : Logging} (h : ∃ level, block.level = Log.Level.name level) :
    check block.toMembers = .accepted block := by
  obtain ⟨path, name⟩ := block
  obtain ⟨level, rfl⟩ := h
  simp [check, toMembers, defaulted, find?, text, levelText_name]

end Logging

namespace Redis

def integers (block : Redis) : List Int := [block.port, block.db]

theorem readable [Limits] {block : Redis} (h : ∀ n ∈ block.integers, IsReadable n) :
    Readable (levels + 1) (.object block.toMembers) := by
  apply Readable.object
  simpa [toMembers, integers] using h

theorem check_toMembers (block : Redis) : check block.toMembers = .accepted block := by
  simp [check, toMembers, defaulted, find?, text, integer]

theorem isReadable_of_check [Limits] {block : Redis}
    (hmembers : ∀ member ∈ members, member.2.HasReadableIntegers)
    (h : check members = .accepted block) : ∀ n ∈ block.integers, IsReadable n := by
  simp only [check, seq_eq_accepted, map_eq_accepted] at h
  iterate 4 obtain ⟨_, _, h, -, rfl⟩ := h
  obtain ⟨_, db, ⟨_, port, ⟨_, -, rfl⟩, hport, rfl⟩, hdb, rfl⟩ := h
  have hdb := isReadable_of_defaulted hmembers (by decide) hdb
  have hport := isReadable_of_defaulted hmembers (by decide) hport
  simpa [integers] using ⟨hport, hdb⟩

theorem isReadable_filled [Limits] {block : Redis} (h : ∀ n ∈ block.integers, IsReadable n) :
    ∀ n ∈ block.filled.integers, IsReadable n := by
  simp only [integers, List.forall_mem_cons] at h ⊢
  obtain ⟨hport, hdb, hnil⟩ := h
  exact ⟨isReadable_fillInt hport (by decide), hdb, hnil⟩

end Redis

namespace Database

def integers (block : Database) : List Int := [block.poolSize]

theorem readable [Limits] {block : Database} (h : ∀ n ∈ block.integers, IsReadable n) :
    Readable (levels + 1) (.object block.toMembers) := by
  apply Readable.object
  simpa [toMembers, integers] using h

theorem check_toMembers {block : Database} (h : ∃ endpoint, block.endpoint = .ok endpoint) :
    check block.toMembers = .accepted block := by
  obtain ⟨endpoint, hendpoint⟩ := h
  simp [check, toMembers, defaulted, find?, text, integer, endpointText_of_ok hendpoint]

theorem isReadable_of_check [Limits] {block : Database}
    (hmembers : ∀ member ∈ members, member.2.HasReadableIntegers)
    (h : check members = .accepted block) : ∀ n ∈ block.integers, IsReadable n := by
  simp only [check, seq_eq_accepted, map_eq_accepted] at h
  obtain ⟨_, poolSize, h, hpool, rfl⟩ := h
  iterate 3 obtain ⟨_, _, h, -, rfl⟩ := h
  obtain ⟨_, -, rfl⟩ := h
  simpa [integers] using isReadable_of_defaulted hmembers (by decide) hpool

end Database

namespace Archiver

def integers (block : Archiver) : List Int :=
  [block.checkIntervalSecs, block.checkIntervalChunk, block.preloadLastNItems]

theorem readable [Limits] {block : Archiver} (h : ∀ n ∈ block.integers, IsReadable n) :
    Readable (levels + 1) (.object block.toMembers) := by
  apply Readable.object
  simpa [toMembers, integers] using h

theorem check_toMembers (block : Archiver) : check block.toMembers = .accepted block := by
  simp [check, toMembers, defaulted, find?, text, integer]

theorem isReadable_of_check [Limits] {block : Archiver}
    (hmembers : ∀ member ∈ members, member.2.HasReadableIntegers)
    (h : check members = .accepted block) : ∀ n ∈ block.integers, IsReadable n := by
  simp only [check, seq_eq_accepted, map_eq_accepted] at h
  obtain ⟨_, preload, ⟨_, chunk, ⟨_, secs, ⟨_, -, rfl⟩, hsecs, rfl⟩, hchunk, rfl⟩, hpreload, rfl⟩ := h
  have hsecs := isReadable_of_defaulted hmembers (by decide) hsecs
  have hchunk := isReadable_of_defaulted hmembers (by decide) hchunk
  have hpreload := isReadable_of_defaulted hmembers (by decide) hpreload
  simpa [integers] using ⟨hsecs, hchunk, hpreload⟩

theorem isReadable_filled [Limits] {block : Archiver} (h : ∀ n ∈ block.integers, IsReadable n) :
    ∀ n ∈ block.filled.integers, IsReadable n := by
  simp only [integers, List.forall_mem_cons] at h ⊢
  obtain ⟨hsecs, hchunk, hpreload⟩ := h
  exact ⟨isReadable_fillInt hsecs (by decide), isReadable_fillInt hchunk (by decide), hpreload⟩

end Archiver

namespace Indexer

def integers (block : Indexer) : List Int := [block.queryHistoryNumPreserve]

theorem readable [Limits] {block : Indexer} (h : ∀ n ∈ block.integers, IsReadable n) :
    Readable (levels + 1) (.object block.toMembers) := by
  apply Readable.object
  simpa [toMembers, integers] using h

theorem check_toMembers (block : Indexer) : check block.toMembers = .accepted block := by
  simp [check, toMembers, defaulted, find?, text, integer]

theorem isReadable_of_check [Limits] {block : Indexer}
    (hmembers : ∀ member ∈ members, member.2.HasReadableIntegers)
    (h : check members = .accepted block) : ∀ n ∈ block.integers, IsReadable n := by
  simp only [check, seq_eq_accepted, map_eq_accepted] at h
  obtain ⟨_, preserve, ⟨_, _, ⟨_, -, rfl⟩, -, rfl⟩, hpreserve, rfl⟩ := h
  simpa [integers] using isReadable_of_defaulted hmembers (by decide) hpreserve

theorem isReadable_filled [Limits] {block : Indexer} (h : ∀ n ∈ block.integers, IsReadable n) :
    ∀ n ∈ block.filled.integers, IsReadable n := by
  simp only [integers, List.forall_mem_cons] at h ⊢
  obtain ⟨hpreserve, hnil⟩ := h
  exact ⟨isReadable_fillInt hpreserve (by decide), hnil⟩

end Indexer

namespace Cleaner

def integers (block : Cleaner) : List Int :=
  [block.checkIntervalSecs, block.numProcessItemsPerTurn, block.minAgeDaysUnvisited]

theorem readable [Limits] {block : Cleaner} (h : ∀ n ∈ block.integers, IsReadable n) :
    Readable (levels + 1) (.object block.toMembers) := by
  apply Readable.object
  simpa [toMembers, integers] using h

theorem check_toMembers (block : Cleaner) : check block.toMembers = .accepted block := by
  simp [check, toMembers, defaulted, find?, text, integer]

theorem isReadable_of_check [Limits] {block : Cleaner}
    (hmembers : ∀ member ∈ members, member.2.HasReadableIntegers)
    (h : check members = .accepted block) : ∀ n ∈ block.integers, IsReadable n := by
  simp only [check, seq_eq_accepted, map_eq_accepted] at h
  obtain ⟨_, _, ⟨_, age, ⟨_, items, ⟨secs, hsecs, rfl⟩, hitems, rfl⟩, hage, rfl⟩, -, rfl⟩ := h
  have hsecs := isReadable_of_defaulted hmembers (by decide) hsecs
  have hitems := isReadable_of_defaulted hmembers (by decide) hitems
  have hage := isReadable_of_defaulted hmembers (by decide) hage
  simpa [integers] using ⟨hsecs, hitems, hage⟩

theorem isReadable_filled [Limits] {block : Cleaner} (h : ∀ n ∈ block.integers, IsReadable n) :
    ∀ n ∈ block.filled.integers, IsReadable n := by
  simp only [integers, List.forall_mem_cons] at h ⊢
  obtain ⟨hsecs, hitems, hage, hnil⟩ := h
  exact ⟨isReadable_fillInt hsecs (by decide), isReadable_fillInt hitems (by decide),
    isReadable_fillInt hage (by decide), hnil⟩

end Cleaner

namespace Reporting

def integers (block : Reporting) : List Int := [block.port]

theorem readable [Limits] {block : Reporting} (h : ∀ n ∈ block.integers, IsReadable n) :
    Readable (levels + 1) (.object block.toMembers) := by
  apply Readable.object
  simpa [toMembers, integers] using h

theorem check_toMembers (block : Reporting) : check block.toMembers = .accepted block := by
  simp [check, toMembers, defaulted, find?, text, integer]

theorem isReadable_of_check [Limits] {block : Reporting}
    (hmembers : ∀ member ∈ members, member.2.HasReadableIntegers)
    (h : check members = .accepted block) : ∀ n ∈ block.integers, IsReadable n := by
  simp only [check, seq_eq_accepted, map_eq_accepted] at h
  iterate 4 obtain ⟨_, _, h, -, rfl⟩ := h
  obtain ⟨_, port, ⟨_, -, rfl⟩, hport, rfl⟩ := h
  simpa [integers] using isReadable_of_defaulted hmembers (by decide) hport

end Reporting

end ServiceBoot.Block
