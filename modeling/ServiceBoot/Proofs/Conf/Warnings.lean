import ServiceBoot.Proofs.Conf.Frame
import ServiceBoot.Proofs.Pass.Slots

/-!
# What the warnings tell

Resolving warns of each field that it changes and of no other. The warnings stand in the order of
the stages, and each of them carries the value that the field has in the end.
-/

namespace ServiceBoot

open Slot (changes replay)

namespace Block

/-! ## The fields of the blocks that may be filled -/

def Redis.slots : List (Slot Redis) := [
  .ofText "redis host not specified, using default" "archiver" "host" (·.host)
    fun host block ↦ { block with host := host },
  .ofInt "redis port not specified, using default" "archiver" "port" (·.port)
    fun port block ↦ { block with port := port },
  .ofText "failedQueueKey not specified, using default" "archiver" "failedQueueKey"
    (·.failedQueueKey) fun key block ↦ { block with failedQueueKey := key },
  .ofText "failedRecordsKey not specified, using default" "archiver" "failedRecordsKey"
    (·.failedRecordsKey) fun key block ↦ { block with failedRecordsKey := key }]

def Archiver.slots : List (Slot Archiver) := [
  .ofInt "checkIntervalSecs not specified, using default" "archiver" "value"
    (·.checkIntervalSecs) fun secs block ↦ { block with checkIntervalSecs := secs },
  .ofInt "checkIntervalChunk not specified, using default" "archiver" "value"
    (·.checkIntervalChunk) fun chunk block ↦ { block with checkIntervalChunk := chunk }]

def Cleaner.slots : List (Slot Cleaner) := [
  .ofInt "checkIntervalSecs not specified, using default" "cleaner" "value"
    (·.checkIntervalSecs) fun secs block ↦ { block with checkIntervalSecs := secs },
  .ofInt "numProcessItemsPerTurn not specified, using default" "cleaner" "value"
    (·.numProcessItemsPerTurn) fun items block ↦ { block with numProcessItemsPerTurn := items },
  .ofInt "minAgeDaysUnvisited not specified, using default" "cleaner" "value"
    (·.minAgeDaysUnvisited) fun days block ↦ { block with minAgeDaysUnvisited := days },
  .ofText "statusKey not specified, using default" "cleaner" "value" (·.statusKey)
    fun key block ↦ { block with statusKey := key }]

def Indexer.slots : List (Slot Indexer) := [
  .ofText "docRemoveChannel not specified, using default" "indexer" "value" (·.docRemoveChannel)
    fun channel block ↦ { block with docRemoveChannel := channel },
  .ofInt "queryHistoryNumPreserve not specified, using default" "indexer" "value"
    (·.queryHistoryNumPreserve) fun number block ↦ { block with queryHistoryNumPreserve := number }]

theorem Redis.apart_slots : Redis.slots.Pairwise Slot.Apart := by
  simp [slots, Slot.Apart, Slot.ofInt, Slot.ofText, Scalar.forall_iff]

theorem Archiver.apart_slots : Archiver.slots.Pairwise Slot.Apart := by
  simp [slots, Slot.Apart, Slot.ofInt, Scalar.forall_iff]

theorem Cleaner.apart_slots : Cleaner.slots.Pairwise Slot.Apart := by
  simp [slots, Slot.Apart, Slot.ofInt, Slot.ofText, Scalar.forall_iff]

theorem Indexer.apart_slots : Indexer.slots.Pairwise Slot.Apart := by
  simp [slots, Slot.Apart, Slot.ofInt, Slot.ofText, Scalar.forall_iff]

theorem Redis.accounts_resolve : Accounts Redis.slots Redis.resolve := by
  apply Rule.accounts_run _ apart_slots
  simp +contextual [rules, slots, warning, List.filter_cons, defaultHost, defaultPort,
    (failedQueueOf_ne _).symm, (failedRecordsOf_ne _).symm]

theorem Archiver.accounts_resolve : Accounts Archiver.slots Archiver.resolve := by
  apply Rule.accounts_run _ apart_slots
  simp +contextual [rules, slots, warning, List.filter_cons, defaultIntervalSecs,
    defaultIntervalChunk]

theorem Cleaner.accounts_resolve (archiverIntervalSecs : Int) :
    Accounts Cleaner.slots (Cleaner.resolve archiverIntervalSecs) := by
  apply Rule.accounts_run _ apart_slots
  simp +contextual [rules, slots, warning, List.filter_cons, defaultIntervalSecs,
    defaultItemsPerTurn, defaultMinAgeDays, defaultStatusKey]

theorem Indexer.accounts_resolve : Accounts Indexer.slots Indexer.resolve := by
  apply Rule.accounts_run _ apart_slots
  simp +contextual [rules, slots, warning, List.filter_cons, defaultChannel, defaultNumPreserve]

end Block

namespace Conf

open Block (Redis Archiver Cleaner Indexer)

def serverSlots : List (Slot Conf) := [
  .ofInt "serverWriteTimeoutSecs not specified, using default" none "value"
    (·.serverWriteTimeoutSecs) fun secs conf ↦ { conf with serverWriteTimeoutSecs := secs },
  .ofText "publicUrl not set, using listenAddress" none "address" (·.publicUrl)
    fun url conf ↦ { conf with publicUrl := url },
  .ofText "time zone not specified, using default" none "timeZone" (·.timeZone)
    fun zone conf ↦ { conf with timeZone := zone }]

/-- The fields of the blocks that may be filled, in the order of the stages. -/
def blockSlots : List (Slot Conf) :=
  Redis.slots.map (.ofPart redisPart) ++ (Archiver.slots.map (.ofPart archiverPart) ++
    (Cleaner.slots.map (.ofPart cleanerPart) ++ Indexer.slots.map (.ofPart indexerPart)))

/-- The fields of a configuration that may be filled, in the order of the stages. -/
def slots : List (Slot Conf) := serverSlots ++ blockSlots

theorem legible_slots : Slot.Legible slots := by
  constructor
  · simp [slots, serverSlots, blockSlots, Redis.slots, Archiver.slots, Cleaner.slots, Indexer.slots,
      Slot.ofInt, Slot.ofText, Slot.ofPart]
  · decide

/-! ## The stages -/

theorem accounts_fillDefaults : Accounts serverSlots fillDefaults := by
  apply Rule.accounts_run
  · simp +contextual [fillRules, serverSlots, List.filter_cons, defaultWriteTimeoutSecs,
      defaultTimeZone, (publicUrlOf_ne _).symm]
  · simp [serverSlots, Slot.Apart, Slot.ofInt, Slot.ofText, Scalar.forall_iff]

theorem accounts_validateServer [TimeZone.Database] : Accounts [] validateServer := by
  apply Rule.accounts_run _ .nil
  simp [serverRules]

theorem accounts_fromCleaner : Accounts (Cleaner.slots.map (.ofPart cleanerPart) ++
    Indexer.slots.map (.ofPart indexerPart)) fromCleaner := by
  have hcleaner : Accounts (Cleaner.slots.map (.ofPart cleanerPart)) resolveCleaner :=
    cleanerPart.accounts fun _ ↦ Cleaner.accounts_resolve _
  have hindexer : Accounts (Indexer.slots.map (.ofPart indexerPart)) resolveIndexer :=
    indexerPart.accounts fun _ ↦ Indexer.accounts_resolve
  apply hcleaner.andThen hindexer
  exact Slot.allApart_ofPart (fun _ _ ↦ rfl) (fun _ _ ↦ rfl) _ _

theorem accounts_fromArchiver : Accounts (Archiver.slots.map (.ofPart archiverPart) ++
    (Cleaner.slots.map (.ofPart cleanerPart) ++ Indexer.slots.map (.ofPart indexerPart)))
    fromArchiver := by
  have harchiver : Accounts (Archiver.slots.map (.ofPart archiverPart)) resolveArchiver :=
    archiverPart.accounts fun _ ↦ Archiver.accounts_resolve
  apply harchiver.andThen accounts_fromCleaner
  apply Slot.AllApart.append
  · exact Slot.allApart_ofPart (fun _ _ ↦ rfl) (fun _ _ ↦ rfl) _ _
  · exact Slot.allApart_ofPart (fun _ _ ↦ rfl) (fun _ _ ↦ rfl) _ _

theorem accounts_fromRedis : Accounts blockSlots fromRedis := by
  have hredis : Accounts (Redis.slots.map (.ofPart redisPart)) resolveRedis :=
    redisPart.accounts fun _ ↦ Redis.accounts_resolve
  apply hredis.andThen accounts_fromArchiver
  apply Slot.AllApart.append
  · exact Slot.allApart_ofPart (fun _ _ ↦ rfl) (fun _ _ ↦ rfl) _ _
  apply Slot.AllApart.append
  · exact Slot.allApart_ofPart (fun _ _ ↦ rfl) (fun _ _ ↦ rfl) _ _
  · exact Slot.allApart_ofPart (fun _ _ ↦ rfl) (fun _ _ ↦ rfl) _ _

/-- The settings of the server are no fields of a block. -/
theorem allApart_serverSlots : Slot.AllApart serverSlots blockSlots := by
  intro slot hslot other hother scalar conf
  simp only [serverSlots, List.mem_cons, List.not_mem_nil, or_false] at hslot
  simp only [blockSlots, List.mem_append, List.mem_map] at hother
  rcases hslot with rfl | rfl | rfl <;>
    rcases hother with ⟨_, _, rfl⟩ | ⟨_, _, rfl⟩ | ⟨_, _, rfl⟩ | ⟨_, _, rfl⟩ <;>
    cases scalar <;> exact ⟨rfl, rfl⟩

theorem accounts_resolve [TimeZone.Database] : Accounts slots resolve := by
  have hvalidate : Accounts blockSlots validate := by
    rw [validate_eq]
    exact accounts_validateServer.andThen accounts_fromRedis (by simp [Slot.AllApart])
  exact accounts_fillDefaults.andThen hvalidate allApart_serverSlots

/-- However a run of resolving ends, its warnings are one for each field that it changed, with the
value that the field has now, in the order of the stages; there is none on a field that is as it
was, and no other field changed. Writing what the warnings tell into the configuration as it was
gives the configuration as it is now. -/
theorem resolve_warnings [TimeZone.Database] (conf : Conf) :
    (resolve conf).entries =
        (changes slots conf (resolve conf).state).map (·.warning (resolve conf).state) ∧
      (∀ slot ∈ slots, (resolve conf).entries.filter slot.tells =
        if slot.get conf = slot.get (resolve conf).state then []
        else [slot.warning (resolve conf).state]) ∧
      conf.MayBecome (resolve conf).state ∧
      (resolve conf).entries.foldl (replay slots) conf = (resolve conf).state := by
  have haccounts := accounts_resolve conf
  refine ⟨haccounts.entries, ?_, mayBecome_resolve conf,
    accounts_resolve.foldl_replay legible_slots conf⟩
  intro slot hslot
  rw [haccounts.entries]
  exact Slot.filter_tells legible_slots hslot _ _

open scoped Release

/-- The run stops at the cleaner, whose interval is not changed and not warned of. -/
theorem overcleaned_warnings :
    (resolve overcleaned).entries.filter slots[7].tells =
        [.warning "checkIntervalSecs not specified, using default"
          [("subsystem", .str "archiver"), ("value", .int 60)]] ∧
      (resolve overcleaned).entries.filter slots[9].tells = [] ∧
      (resolve overcleaned).entries.length = 8 := by
  obtain ⟨-, hwarnings, -, -⟩ := resolve_warnings overcleaned
  have harchiver := hwarnings slots[7] (List.getElem_mem _)
  have hcleaner := hwarnings slots[9] (List.getElem_mem _)
  have hchanged : ¬slots[7].get overcleaned = slots[7].get (resolve overcleaned).state := by
    decide +kernel
  have hsame : slots[9].get overcleaned = slots[9].get (resolve overcleaned).state := by
    decide +kernel
  rw [if_neg hchanged] at harchiver
  rw [if_pos hsame] at hcleaner
  exact ⟨harchiver, hcleaner, by decide +kernel⟩

end Conf

end ServiceBoot
