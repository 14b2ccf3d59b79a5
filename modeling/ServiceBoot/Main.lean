import ServiceBoot.Startup
import ServiceBoot.TimeZone.Table
import Std.Time

/-!
# Command line

Looks at the environment and at the files that matter, lets the process start, and carries out what
it did: lines are printed and appended, and the server is announced.
-/

namespace ServiceBoot.CommandLine

open scoped Release

/-- The variables of a block, in which a zero byte ends each one. -/
def environmentOf (block : Bytes) : Environment :=
  (block.splitOn 0).filterMap fun bytes ↦
    let (name, value) := bytes.span (· ≠ '='.toNat.toUInt8)
    match Text.Utf8.text? name, Text.Utf8.text? (value.drop 1) with
    | some name, some value => if name = "" then none else some (name, value)
    | _, _ => none

def environment : IO Environment := do
  return environmentOf (← IO.FS.readBinFile "/proc/self/environ").toList

/-- What is at a path, if anything is. -/
def look (path : String) : IO (Option Node) := do
  let full := (← IO.currentDir) / path
  if ← full.isDir then return some .directory
  try return some (.file (← IO.FS.readBinFile full).toList)
  catch _ => return none

/-- Adds what is at the places that a path leads through. -/
def learn (files : Files) (path : String) : IO Files :=
  (files.placesThrough path).foldlM
    (fun files place ↦ do
      match ← look (Files.pathTo place) with
      | some node => return files.put place node
      | none => return files)
    files

/-- Looks at the files that settings, configuration and journal are kept in. -/
def surroundings : IO Surroundings := do
  let here := Path.names (← IO.currentDir).toString
  let environment ← environment
  let files ← learn { here := here } Surroundings.envFileName
  let found : Surroundings := { environment := environment, files := files }
  match found.settings with
  | .error _ => return found
  | .ok settings =>
    let files ← learn files settings.configPath
    match Conf.load files settings.configPath with
    | .error _ => return { found with files := files }
    | .ok conf => return { found with files := ← learn files conf.logging.path }

def now : IO String := do
  let time ← Std.Time.Timestamp.now
  return (Std.Time.DateTime.ofTimestampWithZone time Std.Time.TimeZone.UTC).format
    "uuuu-MM-dd'T'HH:mm:ss.SSSSSS'Z'"

/-- Prints what was logged before the journal was set up, then what was printed since. -/
def print (journal : Log.Journal) (stamp : String) : IO Unit := do
  for entry in journal.held do
    match (Log.Format.columns false).line stamp [] entry with
    | .ok line => IO.println line
    | .error _ => pure ()
  (← IO.getStdout).write ⟨journal.printed.toArray⟩

/-- Appends to each file what it has gained. -/
def save (before after : Files) : IO Unit := do
  for (place, node) in after.nodes do
    match node with
    | .directory => pure ()
    | .file content =>
      let old := match before.node? place with
        | some (.file bytes) => bytes.length
        | _ => 0
      if before.node? place |>.isNone then IO.FS.writeBinFile (Files.pathTo place) ⟨#[]⟩
      if old < content.length then
        IO.FS.withFile (Files.pathTo place) .append fun handle ↦
          handle.write ⟨(content.drop old).toArray⟩

end ServiceBoot.CommandLine

open ServiceBoot in
open scoped ServiceBoot.Release in
def main : IO UInt32 := do
  let surroundings ← CommandLine.surroundings
  let stamp ← CommandLine.now
  let startup := Startup.ofSurroundings surroundings stamp
  CommandLine.print startup.journal stamp
  CommandLine.save surroundings.files startup.journal.files
  match startup.ending with
  | .serving server =>
    IO.println (Json.Value.object server.toMembers).line
    return 0
  | .exited status => return status.toUInt32
  | .raised fault =>
    IO.eprintln fault.message
    return 1
