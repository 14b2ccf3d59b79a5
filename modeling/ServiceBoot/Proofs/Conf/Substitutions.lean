import Mathlib.Data.List.Nodup
import Mathlib.Tactic.FinCases
import ServiceBoot.Proofs.Conf.Ahead
import ServiceBoot.Proofs.Conf.Shape
import ServiceBoot.Proofs.Document.Omission

/-!
# What resolving puts in the place of what

The values that stand in for what was left out of a configuration, as a table. Each of them is what
one of the fills does, and everything that resolving writes is on one of them.
-/

namespace ServiceBoot

open Document Json

def textAt (key : String) (members : Members) : Option String :=
  (members.last? key).bind Value.text?

theorem Rule.Tells.imp {α ε : Type} {P Q : Log.Entry → Prop} {rule : Rule α ε} (h : rule.Tells P)
    (himp : ∀ entry, P entry → Q entry) : rule.Tells Q := by
  cases rule with
  | fill isMissing complete entry => exact fun a ↦ himp _ (h a)
  | need holds fault => trivial

namespace Conf

open Block (Redis Archiver Cleaner Indexer)

def substitutions : List Substitution := [
  { path := ["serverWriteTimeoutSecs"]
    value? := fun _ ↦ some (.int 30)
    event := "serverWriteTimeoutSecs not specified, using default" },
  { path := ["publicUrl"]
    value? := fun members ↦
      (textAt "listenAddress" members).map fun address ↦ .str ("http://" ++ address)
    event := "publicUrl not set, using listenAddress" },
  { path := ["timeZone"]
    value? := fun _ ↦ some (.str "Europe/Prague")
    event := "time zone not specified, using default" },
  { path := ["redis", "host"]
    value? := fun _ ↦ some (.str "localhost")
    event := "redis host not specified, using default"
    subsystem := "archiver" },
  { path := ["redis", "port"]
    value? := fun _ ↦ some (.int 6379)
    event := "redis port not specified, using default"
    subsystem := "archiver" },
  { path := ["redis", "failedQueueKey"]
    value? := fun members ↦ (textAt "queueKey" members).map fun key ↦ .str (key ++ "_failed")
    event := "failedQueueKey not specified, using default"
    subsystem := "archiver" },
  { path := ["redis", "failedRecordsKey"]
    value? := fun members ↦
      (textAt "queueKey" members).map fun key ↦ .str (key ++ "_failed_records")
    event := "failedRecordsKey not specified, using default"
    subsystem := "archiver" },
  { path := ["archiver", "checkIntervalSecs"]
    value? := fun _ ↦ some (.int 60)
    event := "checkIntervalSecs not specified, using default"
    subsystem := "archiver" },
  { path := ["archiver", "checkIntervalChunk"]
    value? := fun _ ↦ some (.int 100)
    event := "checkIntervalChunk not specified, using default"
    subsystem := "archiver" },
  { path := ["cleaner", "checkIntervalSecs"]
    value? := fun _ ↦ some (.int 3600)
    event := "checkIntervalSecs not specified, using default"
    subsystem := "cleaner" },
  { path := ["cleaner", "numProcessItemsPerTurn"]
    value? := fun _ ↦ some (.int 50)
    event := "numProcessItemsPerTurn not specified, using default"
    subsystem := "cleaner" },
  { path := ["cleaner", "minAgeDaysUnvisited"]
    value? := fun _ ↦ some (.int 365)
    event := "minAgeDaysUnvisited not specified, using default"
    subsystem := "cleaner" },
  { path := ["cleaner", "statusKey"]
    value? := fun _ ↦ some (.str "camus_cleanup_status")
    event := "statusKey not specified, using default"
    subsystem := "cleaner" },
  { path := ["indexer", "docRemoveChannel"]
    value? := fun _ ↦ some (.str "camus_doc_remove")
    event := "docRemoveChannel not specified, using default"
    subsystem := "indexer" },
  { path := ["indexer", "queryHistoryNumPreserve"]
    value? := fun _ ↦ some (.int 10000)
    event := "queryHistoryNumPreserve not specified, using default"
    subsystem := "indexer" }]

/-! ## What is written -/

@[simp]
theorem tells_warning (substitution : Substitution) (event : String) (fields : Log.Fields) :
    substitution.tells (.warning event fields) = true ↔ event = substitution.event ∧
      (fields.lookup "subsystem").bind Value.text? = substitution.subsystem := by
  simp [Substitution.tells, Log.Entry.warning]

/-- An entry is on one substitution at most. -/
theorem eq_of_tells {first second : Substitution} (hfirst : first ∈ substitutions)
    (hsecond : second ∈ substitutions) {entry : Log.Entry} (h : first.tells entry = true)
    (h' : second.tells entry = true) : first = second := by
  have hnodup : (substitutions.map fun substitution ↦
      (substitution.event, substitution.subsystem)).Nodup := by decide
  obtain ⟨hevent, hsubsystem⟩ := of_decide_eq_true h
  obtain ⟨hevent', hsubsystem'⟩ := of_decide_eq_true h'
  apply List.inj_on_of_nodup_map hnodup hfirst hsecond
  rw [Prod.mk.injEq, ← hsubsystem, ← hsubsystem', ← Option.some.injEq, ← hevent, ← hevent']
  exact ⟨rfl, rfl⟩

/-- Resolving writes an entry on one of the substitutions at a time, and nothing else. -/
theorem existsUnique_tells [TimeZone.Database] {conf : Conf} {entry : Log.Entry}
    (h : entry ∈ (resolve conf).entries) :
    ∃! substitution, substitution ∈ substitutions ∧ substitution.tells entry = true := by
  have hwrites : Writes (fun entry ↦ ∃ substitution ∈ substitutions,
      substitution.tells entry = true) resolve := by
    apply writes_resolve
    · simp [fillRules, Rule.Tells, substitutions, List.lookup_cons]
    · simp [Redis.rules, Rule.Tells, substitutions, Redis.warning]
    · simp [Archiver.rules, Rule.Tells, substitutions, Archiver.warning]
    · simp [Cleaner.rules, Rule.Tells, substitutions, Cleaner.warning]
    · simp [Indexer.rules, Rule.Tells, substitutions, Indexer.warning]
  obtain ⟨substitution, hmem, htells⟩ := hwrites conf entry h
  exact ⟨substitution, ⟨hmem, htells⟩, fun other hother ↦ eq_of_tells hother.1 hmem hother.2 htells⟩

/-! ## What is written out as a move -/

/-- A move does to a configuration what a substitution does to its document, and resolving hides it
from those who do not see the entry on it. -/
structure Moves [TimeZone.Database] (substitution : Substitution) (move : Conf → Conf) : Prop where
  hides : ∀ keep : Log.Entry → Bool,
    (∀ entry, substitution.tells entry = true → keep entry = false) → Hides keep move resolve
  assign : ∀ (conf : Conf) (new : Value),
    substitution.Applies shape substitution.path new (.object conf.toMembers) →
      Value.assign new substitution.path (.object conf.toMembers) = .object (move conf).toMembers
  usable : ∀ conf : Conf, conf.Usable → (move conf).Usable
  source : ∀ (conf : Conf) (source : String),
    move { conf with sourcePath := source } = { move conf with sourcePath := source }

/-- The same for the members of one object, where the key is still zero. -/
def Substitutes {β : Type} (substitution : Substitution) (key : String)
    (fields : List (Document.Field Shape)) (write : β → Members) (move : β → β) : Prop :=
  ∀ b new, (write b).last? key = (Shape.field? [key] (.block fields)).bind (·.default?) →
    substitution.value? (write b) = some new →
    Members.update key (fun _ ↦ new) (write b) = write (move b)

variable {substitution : Substitution} {key : String}

theorem moves_server [TimeZone.Database] (rule : Rule Conf Unresolved) (hrule : rule ∈ fillRules)
    (htells : rule.Tells (substitution.tells · = true)) (hpath : substitution.path = [key])
    (h : Substitutes substitution key fields toMembers rule.advance) :
    Moves substitution rule.advance where
  hides keep hkeep := hides_server hrule (htells.imp hkeep)
  assign conf new happlies := by
    obtain ⟨hdefault, members, hmembers, hnew⟩ := happlies
    rw [hpath] at hdefault hmembers ⊢
    cases hmembers
    rw [Value.at?_singleton] at hdefault
    exact congrArg Value.object (h conf new hdefault hnew)
  usable conf husable := by
    fin_cases hrule <;> rw [Rule.advance] <;> split <;> exact ⟨husable.level, husable.endpoint⟩
  source conf source := by
    fin_cases hrule <;> rw [Rule.advance, Rule.advance] <;> split <;> rfl

/-- A part of a configuration that is a block of its document. -/
structure IsBlock {β : Type} (part : Part Conf β Block.Fault) (block : String)
    (fields : List (Document.Field Shape)) (write : β → Members) : Prop where
  last? : ∀ conf : Conf, conf.toMembers.last? block = some (.object (write (part.get conf)))
  field? : ∀ key, shape.field? [block, key] = Shape.field? [key] (.block fields)
  update : ∀ (conf : Conf) (f : Value → Value) (b : β),
    f (.object (write (part.get conf))) = .object (write b) →
      Members.update block f conf.toMembers = (part.put conf b).toMembers
  usable : ∀ (conf : Conf) (b : β), conf.Usable → (part.put conf b).Usable
  source : ∀ (conf : Conf) (source : String) (move : β → β),
    part.lift move { conf with sourcePath := source } =
      { part.lift move conf with sourcePath := source }

theorem isBlock_redis : IsBlock redisPart "redis" Redis.fields Redis.toMembers where
  last? _ := rfl
  field? _ := rfl
  update conf f block h := by
    have hwrite : f (.object conf.redis.toMembers) = .object block.toMembers := h
    simp [toMembers, Members.update, updateMember, redisPart, hwrite]
  usable _ _ h := ⟨h.level, h.endpoint⟩
  source _ _ _ := rfl

theorem isBlock_archiver :
    IsBlock archiverPart "archiver" Archiver.fields Archiver.toMembers where
  last? _ := rfl
  field? _ := rfl
  update conf f block h := by
    have hwrite : f (.object conf.archiver.toMembers) = .object block.toMembers := h
    simp [toMembers, Members.update, updateMember, archiverPart, hwrite]
  usable _ _ h := ⟨h.level, h.endpoint⟩
  source _ _ _ := rfl

theorem isBlock_cleaner :
    IsBlock cleanerPart "cleaner" Cleaner.fields Cleaner.toMembers where
  last? _ := rfl
  field? _ := rfl
  update conf f block h := by
    have hwrite : f (.object conf.cleaner.toMembers) = .object block.toMembers := h
    simp [toMembers, Members.update, updateMember, cleanerPart, hwrite]
  usable _ _ h := ⟨h.level, h.endpoint⟩
  source _ _ _ := rfl

theorem isBlock_indexer :
    IsBlock indexerPart "indexer" Indexer.fields Indexer.toMembers where
  last? _ := rfl
  field? _ := rfl
  update conf f block h := by
    have hwrite : f (.object conf.indexer.toMembers) = .object block.toMembers := h
    simp [toMembers, Members.update, updateMember, indexerPart, hwrite]
  usable _ _ h := ⟨h.level, h.endpoint⟩
  source _ _ _ := rfl

theorem moves_part [TimeZone.Database] {β : Type} {part : Part Conf β Block.Fault}
    {write : β → Members} {fields : List (Document.Field Shape)} {block : String} {move : β → β}
    (hblock : IsBlock part block fields write) (hpath : substitution.path = [block, key])
    (hhides : ∀ keep : Log.Entry → Bool,
      (∀ entry, substitution.tells entry = true → keep entry = false) →
        Hides keep (part.lift move) resolve)
    (h : Substitutes substitution key fields write move) :
    Moves substitution (part.lift move) where
  hides := hhides
  assign conf new happlies := by
    obtain ⟨hdefault, members, hmembers, hnew⟩ := happlies
    rw [hpath] at hdefault hmembers ⊢
    rw [hblock.field?, Value.at?, hblock.last?, Option.bind_some, Value.at?_singleton] at hdefault
    rw [List.dropLast_cons_of_ne_nil (List.cons_ne_nil _ _), List.dropLast_singleton,
      Value.at?_singleton, hblock.last?] at hmembers
    cases hmembers
    apply congrArg Value.object
    apply hblock.update
    exact congrArg Value.object (h _ new hdefault hnew)
  usable conf := hblock.usable conf _
  source conf source := hblock.source conf source move

theorem moves_redis [TimeZone.Database] (rule : Rule Redis Block.Fault) (hrule : rule ∈ Redis.rules)
    (htells : rule.Tells (substitution.tells · = true)) (hpath : substitution.path = ["redis", key])
    (h : Substitutes substitution key Redis.fields Redis.toMembers rule.advance) :
    Moves substitution (redisPart.lift rule.advance) :=
  moves_part isBlock_redis hpath (fun _ hkeep ↦ hides_redis hrule (htells.imp hkeep)) h

theorem moves_archiver [TimeZone.Database] (rule : Rule Archiver Block.Fault)
    (hrule : rule ∈ Archiver.rules) (htells : rule.Tells (substitution.tells · = true))
    (hpath : substitution.path = ["archiver", key])
    (h : Substitutes substitution key Archiver.fields Archiver.toMembers rule.advance) :
    Moves substitution (archiverPart.lift rule.advance) :=
  moves_part isBlock_archiver hpath (fun _ hkeep ↦ hides_archiver hrule (htells.imp hkeep)) h

theorem moves_indexer [TimeZone.Database] (rule : Rule Indexer Block.Fault)
    (hrule : rule ∈ Indexer.rules) (htells : rule.Tells (substitution.tells · = true))
    (hpath : substitution.path = ["indexer", key])
    (h : Substitutes substitution key Indexer.fields Indexer.toMembers rule.advance) :
    Moves substitution (indexerPart.lift rule.advance) :=
  moves_part isBlock_indexer hpath (fun _ hkeep ↦ hides_indexer hrule (htells.imp hkeep)) h

theorem moves_cleaner [TimeZone.Database] (rule : Rule Cleaner Block.Fault)
    (hrule : ∀ archiverIntervalSecs, rule ∈ Cleaner.rules archiverIntervalSecs)
    (htells : rule.Tells (substitution.tells · = true))
    (hpath : substitution.path = ["cleaner", key])
    (h : Substitutes substitution key Cleaner.fields Cleaner.toMembers rule.advance) :
    Moves substitution (cleanerPart.lift rule.advance) :=
  moves_part isBlock_cleaner hpath (fun _ hkeep ↦ hides_cleaner hrule (htells.imp hkeep)) h

/-- Each substitution is what one of the fills does. -/
theorem exists_move [TimeZone.Database] (h : substitution ∈ substitutions) :
    ∃ move, Moves substitution move := by
  fin_cases h
  on_goal 1 => refine ⟨_, moves_server fillRules[0] (List.getElem_mem _) (fun _ ↦ rfl) rfl ?_⟩
  on_goal 2 => refine ⟨_, moves_server fillRules[1] (List.getElem_mem _) (fun _ ↦ rfl) rfl ?_⟩
  on_goal 3 => refine ⟨_, moves_server fillRules[2] (List.getElem_mem _) (fun _ ↦ rfl) rfl ?_⟩
  on_goal 4 => refine ⟨_, moves_redis Redis.rules[0] (List.getElem_mem _) (fun _ ↦ rfl) rfl ?_⟩
  on_goal 5 => refine ⟨_, moves_redis Redis.rules[1] (List.getElem_mem _) (fun _ ↦ rfl) rfl ?_⟩
  on_goal 6 => refine ⟨_, moves_redis Redis.rules[5] (List.getElem_mem _) (fun _ ↦ rfl) rfl ?_⟩
  on_goal 7 => refine ⟨_, moves_redis Redis.rules[6] (List.getElem_mem _) (fun _ ↦ rfl) rfl ?_⟩
  on_goal 8 =>
    refine ⟨_, moves_archiver Archiver.rules[2] (List.getElem_mem _) (fun _ ↦ rfl) rfl ?_⟩
  on_goal 9 =>
    refine ⟨_, moves_archiver Archiver.rules[4] (List.getElem_mem _) (fun _ ↦ rfl) rfl ?_⟩
  on_goal 10 =>
    refine ⟨_, moves_cleaner (Cleaner.rules 0)[1] (by simp [Cleaner.rules]) (fun _ ↦ rfl) rfl ?_⟩
  on_goal 11 =>
    refine ⟨_, moves_cleaner (Cleaner.rules 0)[4] (by simp [Cleaner.rules]) (fun _ ↦ rfl) rfl ?_⟩
  on_goal 12 =>
    refine ⟨_, moves_cleaner (Cleaner.rules 0)[6] (by simp [Cleaner.rules]) (fun _ ↦ rfl) rfl ?_⟩
  on_goal 13 =>
    refine ⟨_, moves_cleaner (Cleaner.rules 0)[7] (by simp [Cleaner.rules]) (fun _ ↦ rfl) rfl ?_⟩
  on_goal 14 => refine ⟨_, moves_indexer Indexer.rules[1] (List.getElem_mem _) (fun _ ↦ rfl) rfl ?_⟩
  on_goal 15 => refine ⟨_, moves_indexer Indexer.rules[3] (List.getElem_mem _) (fun _ ↦ rfl) rfl ?_⟩
  all_goals
    intro part new hzero hnew
    cases part
    cases hnew
    cases hzero
    rfl

end Conf

end ServiceBoot
