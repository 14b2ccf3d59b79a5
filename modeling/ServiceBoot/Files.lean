import ServiceBoot.Files.Path
import ServiceBoot.Text.Numeral
import ServiceBoot.Text.Quoted

/-!
# Files

The files and directories that are known, by the names that lead to them from the root, and the
directory that paths without a leading slash are looked up in.
-/

namespace ServiceBoot

inductive Node where
  | file (content : Bytes)
  | directory
  deriving DecidableEq, Repr

/-- The names that lead to a node from the root. -/
abbrev Place := List String

structure Files where
  nodes : List (Place × Node) := []
  here : Place := []
  deriving Repr

namespace Files

inductive Fault where
  | notFound
  | notADirectory
  | isADirectory
  | nameTooLong
  deriving DecidableEq, Repr

def Fault.number : Fault → Nat
  | .notFound => 2
  | .notADirectory => 20
  | .isADirectory => 21
  | .nameTooLong => 36

def Fault.description : Fault → String
  | .notFound => "No such file or directory"
  | .notADirectory => "Not a directory"
  | .isADirectory => "Is a directory"
  | .nameTooLong => "File name too long"

/-- Why a path leads to no file: it cannot be a path at all, or it was refused. -/
inductive AccessError where
  | embeddedNul
  | refused (fault : Fault) (path : String)
  deriving DecidableEq, Repr

def AccessError.message : AccessError → String
  | .embeddedNul => "embedded null byte"
  | .refused fault path =>
    "[Errno " ++ Text.Numeral.ofNat fault.number ++ "] " ++ fault.description ++ ": " ++
      Text.quoted path

/-- The working directory and those that it lies in are always there. -/
def node? (files : Files) (place : Place) : Option Node :=
  if place.isPrefixOf files.here then some .directory
  else (files.nodes.find? (·.1 == place)).map (·.2)

/-- Puts a node at a place, in the stead of the one that is there. -/
def put (files : Files) (place : Place) (node : Node) : Files :=
  if files.nodes.any (·.1 == place) then
    { files with
      nodes := files.nodes.map fun entry ↦ if entry.1 == place then (place, node) else entry }
  else { files with nodes := files.nodes ++ [(place, node)] }

def isTooLong (name : String) : Bool := Path.maxNameBytes < name.utf8ByteSize

/-- Enters one directory after the other. -/
def enter (files : Files) : Place → List String → Except Fault Place
  | here, [] => .ok here
  | here, name :: names =>
    if name = "" ∨ name = "." then enter files here names
    else if name = ".." then enter files here.dropLast names
    else if isTooLong name then .error .nameTooLong
    else match files.node? (here ++ [name]) with
      | none => .error .notFound
      | some (.file _) => .error .notADirectory
      | some .directory => enter files (here ++ [name]) names

/-- The place of a name in a directory. A name of dots leads to a directory. -/
def placeIn (here : Place) (name : String) : Except Fault Place :=
  if name = "" ∨ name = "." ∨ name = ".." then .error .isADirectory
  else if isTooLong name then .error .nameTooLong
  else .ok (here ++ [name])

/-- The directory that a path starts from. -/
def start (files : Files) (path : String) : Place :=
  if Path.isAbsolute path then [] else files.here

def content (files : Files) (place : Place) : Except Fault Bytes :=
  match files.node? place with
  | none => .error .notFound
  | some .directory => .error .isADirectory
  | some (.file bytes) => .ok bytes

/-- The content of the file that the names lead to. -/
def contentAt (files : Files) (start : Place) (names : List String) : Except Fault Bytes := do
  let here ← files.enter start names.dropLast
  files.content (← placeIn here (names.getLast?.getD ""))

/-- Refuses a path that cannot be one, and names the path in every other refusal. -/
def withPath {α : Type} (path : String) (access : Except Fault α) : Except AccessError α :=
  if Path.hasNul path then .error .embeddedNul
  else if Path.maxPathBytes < path.utf8ByteSize then .error (.refused .nameTooLong path)
  else match access with
    | .ok result => .ok result
    | .error fault => .error (.refused fault path)

def namesOf (path : String) : List String := (Path.split path.toList).map String.ofList

/-- The content of the file that a path leads to. -/
def read (files : Files) (path : String) : Except AccessError Bytes :=
  withPath path (files.contentAt (files.start path) (namesOf path))

/-- The place that lines can be appended to: that of a file, or one where a file can be created. -/
def appendable (files : Files) (place : Place) : Except Fault Place :=
  match files.node? place with
  | some .directory => .error .isADirectory
  | _ => .ok place

/-- As `appendable`, at the end of the names; a slash at the end is taken for a directory's. -/
def appendableAt (files : Files) (start : Place) (names : List String) : Except Fault Place :=
  match names.reverse.dropWhile (· == "") with
  | [] => .error .isADirectory
  | name :: directories => do
    let here ← files.enter start directories.reverse
    if directories.length + 1 < names.length then .error .isADirectory
    else files.appendable (← placeIn here name)

/-- Opens a file for appending, which is created if it is not there. -/
def openForAppending (files : Files) (path : String) : Except AccessError (Place × Files) :=
  (withPath path (files.appendableAt (files.start path) (namesOf path))).map fun place ↦
    match files.node? place with
    | some _ => (place, files)
    | none => (place, files.put place (.file []))

def append (files : Files) (place : Place) (bytes : Bytes) : Files :=
  match files.node? place with
  | some (.file content) => files.put place (.file (content ++ bytes))
  | _ => files

/-- The place that a name leads to, whatever is there. -/
def step (here : Place) (name : String) : Place :=
  if name = ".." then here.dropLast else here ++ [name]

/-- The places that names lead through, up to the last. -/
def placesOn : Place → List String → List Place
  | _, [] => []
  | here, name :: names => step here name :: placesOn (step here name) names

/-- The places that a path leads through, up to the one that it names. -/
def placesThrough (files : Files) (path : String) : List Place :=
  placesOn (files.start path) (Path.names path)

/-- The place that a path names, whatever is there. -/
def placeNamed (files : Files) (path : String) : Place :=
  (Path.names path).foldl step (files.start path)

/-- The path of a place from the root. -/
def pathTo (place : Place) : String := "/" ++ String.intercalate "/" place

/-- Adds a directory with those that it lies in. -/
def addDirectoryAt (files : Files) (place : Place) : Files :=
  (List.range place.length).foldl
    (fun files n ↦
      let place := place.take (n + 1)
      if (files.node? place).isSome then files else files.put place .directory)
    files

def addDirectory (files : Files) (path : String) : Files :=
  files.addDirectoryAt (files.placeNamed path)

/-- Adds a file with the directories that it lies in. -/
def addFile (files : Files) (path : String) (content : Bytes) : Files :=
  let place := files.placeNamed path
  (files.addDirectoryAt place.dropLast).put place (.file content)

end Files

end ServiceBoot
