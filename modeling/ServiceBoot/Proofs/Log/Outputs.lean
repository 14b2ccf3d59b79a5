import ServiceBoot.Log.Journal
import ServiceBoot.Proofs.Files.Content
import ServiceBoot.Proofs.Text.Utf8

/-!
# Outputs of the journal

What opening, writing to and closing outputs makes of a journal. The only file that is open is the
one that the journal is set up to, and setting the journal up again keeps it so: the new output is
open, the old one is closed, and no destination loses what it has.
-/

namespace ServiceBoot

namespace Log

/-! ## Destinations -/

/-- Where lines end up. -/
inductive Destination where
  | printed
  | file (place : Place)
  deriving DecidableEq, Repr

/-- What a journal is set up to, with the destination of its output. -/
structure Aim where
  level : Level
  format : Format
  destination : Destination
  deriving DecidableEq, Repr

def Aim.admits (aim : Aim) (level : Level) : Bool := aim.level.number ≤ level.number

/-- The destination that a path asks for. -/
def Destination.ofPath (files : Files) (path : String) :
    Except Files.AccessError Destination :=
  if path = "" then .ok .printed
  else (files.openForAppending path).map fun opened ↦ .file opened.1

/-- What the journal is asked to be set up to, if it can be. -/
def Aim.asked? (files : Files) (block : Block.Logging) (development : Bool) : Option Aim :=
  match block.level?, Destination.ofPath files block.path with
  | some level, .ok destination =>
    some ⟨level, Journal.formatFor development block.path, destination⟩
  | _, _ => none

namespace Journal

variable {journal next : Journal} {setup : Setup} {aim : Aim} {destination : Destination}

def contentOf (journal : Journal) : Destination → Bytes
  | .printed => journal.printed
  | .file place => journal.files.bytesAt place

/-- The destination of an output that is open. -/
def destination? (journal : Journal) : Output → Option Destination
  | .standard => some .printed
  | .file serial =>
    match journal.streams[serial]? with
    | some ⟨place, true⟩ => some (.file place)
    | _ => none

def aimOf? (journal : Journal) (setup : Setup) : Option Aim :=
  (journal.destination? setup.output).map fun destination ↦
    ⟨setup.level, setup.format, destination⟩

def aim? (journal : Journal) : Option Aim := journal.setup.bind journal.aimOf?

def IsThere (journal : Journal) : Destination → Prop
  | .printed => True
  | .file place => journal.files.HasFile place

theorem isOpen_iff (output : Output) :
    journal.isOpen output = true ↔
      ∃ destination, journal.destination? output = some destination := by
  cases output with
  | standard => simp [isOpen, destination?]
  | file serial =>
    simp only [isOpen, destination?]
    cases journal.streams[serial]? with
    | none => simp
    | some stream =>
      obtain ⟨place, isOpen⟩ := stream
      cases isOpen <;> simp

/-! ## Writing -/

def lineBytes (line : String) : Bytes := Text.Utf8.encode (line.toList ++ ['\n'])

theorem lineBytes_ne_nil (line : String) : lineBytes line ≠ [] := by
  rw [lineBytes, Text.Utf8.encode_append]
  exact List.append_ne_nil_of_right_ne_nil _ (by decide)

/-- The journal with more bytes at a destination. -/
def extended (journal : Journal) (destination : Destination) (bytes : Bytes) : Journal :=
  match destination with
  | .printed => { journal with printed := journal.printed ++ bytes }
  | .file place => { journal with files := journal.files.append place bytes }

theorem contentOf_extended (h : journal.IsThere destination) (bytes : Bytes)
    (other : Destination) : (journal.extended destination bytes).contentOf other =
      journal.contentOf other ++ if other = destination then bytes else [] := by
  cases destination with
  | printed => cases other <;> simp [extended, contentOf]
  | file place =>
    cases other with
    | printed => simp [extended, contentOf]
    | file other => simp [extended, contentOf, Files.bytesAt_append h]

@[simp]
theorem setup_extended (bytes : Bytes) :
    (journal.extended destination bytes).setup = journal.setup := by
  cases destination <;> rfl

@[simp]
theorem streams_extended (bytes : Bytes) :
    (journal.extended destination bytes).streams = journal.streams := by
  cases destination <;> rfl

@[simp]
theorem latest_extended (bytes : Bytes) :
    (journal.extended destination bytes).latest = journal.latest := by
  cases destination <;> rfl

@[simp]
theorem held_extended (bytes : Bytes) :
    (journal.extended destination bytes).held = journal.held := by
  cases destination <;> rfl

@[simp]
theorem shared_extended (bytes : Bytes) :
    (journal.extended destination bytes).shared = journal.shared := by
  cases destination <;> rfl

theorem write_eq (journal : Journal) (output : Output) (line : String) :
    journal.write output line =
      match journal.destination? output with
      | some destination => .ok (journal.extended destination (lineBytes line))
      | none => .error .closed := by
  cases output with
  | standard => rfl
  | file serial =>
    simp only [write, destination?]
    cases journal.streams[serial]? with
    | none => rfl
    | some stream =>
      obtain ⟨place, isOpen⟩ := stream
      cases isOpen <;> rfl

/-! ## What holds of a journal in use -/

/-- The output that was opened last is the one that the journal is set up to, which is open and
there, and no other file is open. Standard output gets lines for machines or coloured columns. -/
structure Sound (journal : Journal) : Prop where
  latest : journal.latest = journal.setup.map (·.output)
  current : ∀ serial, journal.isOpen (.file serial) = true →
    journal.setup.map (·.output) = some (.file serial)
  isOpen : ∀ setup ∈ journal.setup, journal.isOpen setup.output = true
  isThere : ∀ output destination, journal.destination? output = some destination →
    journal.IsThere destination
  coloured : ∀ setup ∈ journal.setup, setup.output = .standard →
    setup.format = .json ∨ setup.format = .columns true

/-! ## Opening and closing -/

/-- What opening an output makes of the journal. -/
structure Opened (journal : Journal) (output : Output) (destination : Destination)
    (next : Journal) : Prop where
  leads : next.destination? output = some destination
  others : ∀ other, other ≠ output → next.destination? other = journal.destination? other
  isThere : next.IsThere destination
  stays : ∀ other, journal.IsThere other → next.IsThere other
  contentOf : ∀ other, next.contentOf other = journal.contentOf other
  latest : next.latest = some output
  shared : next.shared = journal.shared
  fresh : output = .standard ∨ output = .file journal.streams.length
  counted : journal.streams.length ≤ next.streams.length

theorem destination?_file_append {serial : Nat} (h : serial ≠ journal.streams.length)
    {stream : Stream} (hstreams : next.streams = journal.streams ++ [stream]) :
    next.destination? (.file serial) = journal.destination? (.file serial) := by
  have hstream : next.streams[serial]? = journal.streams[serial]? := by
    rw [hstreams]
    rcases Nat.lt_or_gt_of_ne h with hlt | hgt
    · exact List.getElem?_append_left hlt
    · rw [List.getElem?_eq_none (Nat.le_of_lt hgt), List.getElem?_eq_none]
      simpa using Nat.succ_le_of_lt hgt
  simp only [destination?, hstream]

theorem openOutput_standard (journal : Journal) :
    Opened journal .standard .printed { journal with latest := some .standard } where
  leads := rfl
  others other _ := by cases other <;> rfl
  isThere := trivial
  stays other := by cases other <;> exact id
  contentOf other := by cases other <;> rfl
  latest := rfl
  shared := rfl
  fresh := Or.inl rfl
  counted := Nat.le_refl _

theorem openOutput_file {path : String} {place : Place} {files : Files}
    (h : journal.files.openForAppending path = .ok (place, files)) :
    Opened journal (.file journal.streams.length) (.file place) { journal with
      files := files
      streams := journal.streams ++ [⟨place, true⟩]
      latest := some (.file journal.streams.length) } where
  leads := by simp [destination?]
  others other hother := by
    cases other with
    | standard => rfl
    | file serial =>
      refine destination?_file_append ?_ rfl
      rintro rfl
      exact hother rfl
  isThere := Files.hasFile_of_opened h
  stays other hother := by
    cases other with
    | printed => trivial
    | file place => exact Files.HasFile.opened h hother
  contentOf other := by
    cases other with
    | printed => rfl
    | file place => exact Files.bytesAt_of_opened h place
  latest := rfl
  shared := rfl
  fresh := Or.inr rfl
  counted := by simp

/-- An output can be opened exactly if the path asks for a destination. -/
theorem openOutput_cases (journal : Journal) (path : String) :
    (∃ error, journal.openOutput path = .error error ∧
        Destination.ofPath journal.files path = .error error) ∨
      ∃ output destination next, journal.openOutput path = .ok (output, next) ∧
        Destination.ofPath journal.files path = .ok destination ∧
        (output = .standard → path = "") ∧ Opened journal output destination next := by
  by_cases hpath : path = ""
  · subst hpath
    exact Or.inr ⟨.standard, .printed, _, rfl, rfl, fun _ ↦ rfl, openOutput_standard journal⟩
  · cases hopen : journal.files.openForAppending path with
    | error error =>
      refine Or.inl ⟨error, ?_, ?_⟩
      · simp [openOutput, hpath, hopen, bind, Except.bind]
      · simp [Destination.ofPath, hpath, hopen, Except.map]
    | ok opened =>
      obtain ⟨place, files⟩ := opened
      refine Or.inr ⟨.file journal.streams.length, .file place, _, ?_, ?_, nofun,
        openOutput_file hopen⟩
      · simp [openOutput, hpath, hopen, bind, Except.bind, pure, Except.pure]
      · simp [Destination.ofPath, hpath, hopen, Except.map]

theorem destination?_close (journal : Journal) (output other : Output) :
    (journal.close output).destination? other =
      if other = output ∧ output ≠ .standard then none else journal.destination? other := by
  cases output with
  | standard => simp [close]
  | file serial =>
    cases other with
    | standard => simp [destination?]
    | file other =>
      simp only [close, destination?, List.getElem?_modify]
      by_cases hother : serial = other
      · subst hother
        cases journal.streams[serial]? <;> simp
      · cases journal.streams[other]? <;> simp [hother, Ne.symm hother]

theorem destination?_retired (journal : Journal) (old : Option Output) (other : Output) :
    (journal.retired old).destination? other =
      if old = some other ∧ other ≠ .standard then none else journal.destination? other := by
  cases old with
  | none => simp [retired]
  | some old =>
    simp only [retired, destination?_close, Option.some.injEq]
    by_cases h : other = old
    · simp [h]
    · simp [h, Ne.symm h]

section

variable (journal) (old : Option Output)

@[simp]
theorem files_retired : (journal.retired old).files = journal.files := by
  rcases old with _ | _ | _ <;> rfl

@[simp]
theorem printed_retired : (journal.retired old).printed = journal.printed := by
  rcases old with _ | _ | _ <;> rfl

@[simp]
theorem latest_retired : (journal.retired old).latest = journal.latest := by
  rcases old with _ | _ | _ <;> rfl

@[simp]
theorem shared_retired : (journal.retired old).shared = journal.shared := by
  rcases old with _ | _ | _ <;> rfl

@[simp]
theorem length_streams_retired :
    (journal.retired old).streams.length = journal.streams.length := by
  rcases old with _ | _ | _ <;> simp [retired, close]

end

/-! ## Setting the journal up -/

/-- What setting the journal up makes of it. -/
structure Ready (journal : Journal) (aim : Aim) (next : Journal) : Prop where
  sound : next.Sound
  aim : next.aim? = some aim
  contentOf : ∀ destination, next.contentOf destination = journal.contentOf destination
  shared : next.shared = journal.shared
  setup : ∃ setup, next.setup = some setup ∧
    (setup.output = .standard ∨ setup.output = .file journal.streams.length)
  counted : journal.streams.length ≤ next.streams.length

theorem contentOf_congr {other : Journal} (hfiles : other.files = journal.files)
    (hprinted : other.printed = journal.printed) (destination : Destination) :
    other.contentOf destination = journal.contentOf destination := by
  cases destination with
  | printed => exact hprinted
  | file place => simp only [contentOf, hfiles]

theorem isThere_congr {other : Journal} (hfiles : other.files = journal.files)
    (destination : Destination) : other.IsThere destination ↔ journal.IsThere destination := by
  cases destination with
  | printed => exact Iff.rfl
  | file place => simp only [IsThere, hfiles]

section

variable {opened : Journal} {output : Output} {format : Format} (hsound : journal.Sound)
  (hopened : Opened journal output destination opened)
include hsound hopened

/-- The new output is none of those that are closed. -/
theorem Opened.ne_old : ¬(journal.latest = some output ∧ output ≠ .standard) := by
  rintro ⟨hold, hne⟩
  rw [hsound.latest] at hold
  obtain ⟨old, hsetup, rfl⟩ := Option.map_eq_some_iff.mp hold
  rcases hopened.fresh with hstandard | hfile
  · exact hne hstandard
  · have hisOpen := hsound.isOpen old hsetup
    simp [hfile, Journal.isOpen] at hisOpen

/-- Once the old output is closed, the new one is the only file that is open. -/
theorem Opened.destination?_retired_file {serial : Nat} {other : Destination}
    (h : (opened.retired journal.latest).destination? (.file serial) = some other) :
    output = .file serial := by
  apply Decidable.byContradiction
  intro hne
  rw [destination?_retired] at h
  split at h
  · cases h
  next hold =>
    -- Any other file that is open was open before, so it is the old output and should be closed.
    rw [hopened.others _ (Ne.symm hne)] at h
    have hcurrent := hsound.current serial ((isOpen_iff _).mpr ⟨_, h⟩)
    exact hold ⟨hsound.latest.trans hcurrent, by simp⟩

theorem Opened.ready (level : Level)
    (hcoloured : output = .standard → format = .json ∨ format = .columns true) :
    Ready journal ⟨level, format, destination⟩
      { opened.retired journal.latest with setup := some ⟨level, format, output⟩ } := by
  have hleads : (opened.retired journal.latest).destination? output = some destination := by
    rw [destination?_retired, if_neg (hopened.ne_old hsound), hopened.leads]
  constructor
  case sound =>
    constructor
    case latest => simp [hopened.latest]
    case current =>
      intro serial hopen
      obtain ⟨other, hother⟩ := (isOpen_iff (.file serial)).mp hopen
      simp [hopened.destination?_retired_file hsound hother]
    case isOpen =>
      rintro _ ⟨⟩
      exact (isOpen_iff output).mpr ⟨destination, hleads⟩
    case isThere =>
      intro other found hfound
      change (opened.retired journal.latest).destination? other = some found at hfound
      apply (isThere_congr (files_retired opened journal.latest) found).mpr
      cases other with
      | standard =>
        cases hfound
        trivial
      | file serial =>
        have houtput := hopened.destination?_retired_file hsound hfound
        rw [← houtput, hleads] at hfound
        cases hfound
        exact hopened.isThere
    case coloured =>
      rintro _ ⟨⟩
      exact hcoloured
  case aim =>
    change Option.map _ ((opened.retired journal.latest).destination? output) = _
    rw [hleads]
    rfl
  case contentOf =>
    intro other
    rw [← hopened.contentOf other]
    exact contentOf_congr (files_retired opened journal.latest)
      (printed_retired opened journal.latest) other
  case shared => simp [hopened.shared]
  case setup => exact ⟨_, rfl, hopened.fresh⟩
  case counted => simpa using hopened.counted

end

theorem configure_of_opened {block : Block.Logging} {level : Level} {output : Output}
    {opened : Journal} (hlevel : block.level? = some level)
    (hopen : journal.openOutput block.path = .ok (output, opened)) (development : Bool) :
    journal.configure block development =
      .ok { opened.retired journal.latest with
        setup := some ⟨level, formatFor development block.path, output⟩ } := by
  simp only [configure, hlevel, hopen]

theorem formatFor_standard (development : Bool) :
    formatFor development "" = .json ∨ formatFor development "" = .columns true := by
  cases development
  · exact Or.inl rfl
  · exact Or.inr rfl

/-- With a level that is known, the journal is set up just if its output can be opened. -/
theorem configure_of_level (hsound : journal.Sound) {block : Block.Logging} {level : Level}
    (hlevel : block.level? = some level) (development : Bool) :
    (∃ error, Destination.ofPath journal.files block.path = .error error ∧
        journal.configure block development = .error ⟨.noAccess error, journal⟩) ∨
      ∃ destination next, Destination.ofPath journal.files block.path = .ok destination ∧
        journal.configure block development = .ok next ∧
        Ready journal ⟨level, formatFor development block.path, destination⟩ next := by
  rcases openOutput_cases journal block.path with ⟨error, hopen, hasked⟩ |
    ⟨output, destination, opened, hopen, hasked, hpath, hopened⟩
  · refine Or.inl ⟨error, hasked, ?_⟩
    simp only [configure, hopen]
  · refine Or.inr ⟨destination, _, hasked, configure_of_opened hlevel hopen development,
      hopened.ready hsound level fun houtput ↦ ?_⟩
    rw [hpath houtput]
    exact formatFor_standard development

/-- The journal is set up as it is asked to be, or not at all. -/
theorem configure_cases (hsound : journal.Sound) (block : Block.Logging.WithLevel)
    (development : Bool) :
    (∃ error, journal.configure block development = .error ⟨error, journal⟩ ∧
        Aim.asked? journal.files block development = none) ∨
      ∃ aim next, journal.configure block development = .ok next ∧
        Aim.asked? journal.files block development = some aim ∧ Ready journal aim next := by
  obtain ⟨block, hblock⟩ := block
  obtain ⟨level, hlevel⟩ := Option.isSome_iff_exists.mp hblock
  rcases configure_of_level hsound hlevel development with ⟨error, hasked, hconfigure⟩ |
    ⟨destination, next, hasked, hconfigure, hready⟩
  · refine Or.inl ⟨_, hconfigure, ?_⟩
    simp only [Aim.asked?, hlevel, hasked]
  · refine Or.inr ⟨_, next, hconfigure, ?_, hready⟩
    simp only [Aim.asked?, hlevel, hasked]

end Journal

end Log

end ServiceBoot
