/-!
# Files

A snapshot of the files that a program can see: texts at places, and the folders in which they lie.
A place is the list of the names that lead to it from the root. A path names a place from the
working folder or, if it begins with a slash, from the root.
-/

namespace ThreatIntel

/-- What stands at a place. -/
inductive Node where
  /-- A text. -/
  | file (content : String)
  /-- A folder. -/
  | folder
  deriving DecidableEq, Repr

/-- The files that a program can see. -/
structure Files where
  /-- The place of the working folder. -/
  here : List String
  /-- What stands where. Folders on the way to a place need no entry. -/
  nodes : List (List String × Node)
  deriving DecidableEq, Repr

namespace Files

/-- Whether a place lies on the way to another, or is that place. -/
def leadsTo (place target : List String) : Bool :=
  place.isPrefixOf target

/-- What stands at a place. -/
def node? (files : Files) (place : List String) : Option Node :=
  match files.nodes.lookup place with
  | some node => some node
  | none =>
      if leadsTo place files.here || files.nodes.any (leadsTo place ·.1) then some .folder else none

/-- Go on from a folder along one segment of a path. -/
def step? (files : Files) (place : List String) (segment : String) : Option (List String) :=
  if files.node? place = some .folder then
    if segment = "" ∨ segment = "." then some place
    else if segment = ".." then some place.dropLast
    else some (place ++ [segment])
  else none

/-- The segments of a path. -/
def segments (path : String) : List String :=
  path.splitOn "/"

/-- The place that a path names; nothing need stand there. -/
def locate? (files : Files) (path : String) : Option (List String) :=
  if path = "" then none
  else
    let start := if path.startsWith "/" then [] else files.here
    (segments path).foldlM files.step? start

/-- The text at a path. -/
def read? (files : Files) (path : String) : Option String := do
  match ← files.node? (← files.locate? path) with
  | .file content => some content
  | .folder => none

/-- Whether a text stands at a path. -/
def isFile (files : Files) (path : String) : Bool :=
  (files.read? path).isSome

/-- The name by which the way from a folder to a target goes on. -/
def nameBelow? (folder target : List String) : Option String :=
  if leadsTo folder target then target[folder.length]? else none

/-- The names in the folder at a path, each once. -/
def names? (files : Files) (path : String) : Option (List String) := do
  let place ← files.locate? path
  if files.node? place = some .folder then
    some (files.nodes.filterMap (nameBelow? place ·.1)).eraseDups
  else none

/-- The place that a path names if all folders on the way are there. -/
def place (files : Files) (path : String) : List String :=
  (segments path).foldl (fun place segment =>
      if segment = "" ∨ segment = "." then place
      else if segment = ".." then place.dropLast
      else place ++ [segment])
    (if path.startsWith "/" then [] else files.here)

/-- Put something at a path, and whatever folders it needs. -/
def add (files : Files) (path : String) (node : Node) : Files :=
  { files with nodes := files.nodes ++ [(files.place path, node)] }

/-- Put a text at a path, in a folder that is there. -/
def write? (files : Files) (path content : String) : Option Files := do
  let place ← files.locate? path
  if files.node? place = some .folder ∨ files.node? place.dropLast ≠ some .folder then none
  else some { files with
    nodes := (place, .file content) :: files.nodes.filter fun entry => entry.1 ≠ place }

/-- The name of the folder in which a path lies, if something stands there. -/
def folderName? (files : Files) (path : String) : Option String := do
  let place ← files.locate? path
  let _ ← files.node? place
  place.dropLast.getLast?

/-- A path with one more name at its end. -/
def join (path name : String) : String :=
  if name.startsWith "/" ∨ path = "" then name
  else if path.endsWith "/" then path ++ name
  else path ++ "/" ++ name

end Files

/-- What can be asked about files while others may change them: the names in a folder come in any
order, and a file may be there although its text cannot be read. -/
structure Disk where
  /-- The names in the folder at a path, if a folder stands there. -/
  names? : String → Option (List String)
  /-- Whether a file stands at a path. -/
  isFile : String → Bool
  /-- The text of the file at a path, if it has one that can be read. -/
  read? : String → Option String
  /-- The name of the folder in which a path lies, if something stands there. -/
  folderName? : String → Option String

/-- The files of a snapshot, all of which can be read. -/
@[reducible] def Files.disk (files : Files) : Disk :=
  ⟨files.names?, files.isFile, files.read?, files.folderName?⟩

instance : Coe Files Disk := ⟨Files.disk⟩

end ThreatIntel
