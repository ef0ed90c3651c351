import SelfCert.Table
import SelfCert.Text.Search

/-!
# Files

Commands read and write files through three operations, which can fail but do not say why. A `Disk`
is a tree of folders and files kept as a value, on which the operations are plain functions.
-/

namespace SelfCert.CommandLine

/-- Reading and writing files. -/
structure FileSystem (M : Type → Type) where
  /-- The text of a file. -/
  read : String → M (Option String)
  /-- Makes a folder and the folders it lies in; tells whether it is there now. -/
  makeFolder : String → M Bool
  /-- Writes a file; tells whether it worked. -/
  write : String → String → M Bool

/-- The path of a name in a folder. -/
def joinPath (folder name : String) : String :=
  if folder.toList.getLast? = some '/' then folder ++ name else folder ++ "/" ++ name

/-- The names of the folders on the way to something, and its own name. -/
abbrev Location := List String

/-- A file or a folder. -/
inductive Entry where
  | file (text : String)
  | folder
  deriving DecidableEq, Repr

/-- What lies in a folder, at any depth. -/
structure Disk where
  entries : List (Location × Entry)

namespace Disk

/-- What is at a location. The folder itself is always there. -/
def get? (disk : Disk) (location : Location) : Option Entry :=
  if location.isEmpty then some .folder
  else (disk.entries.find? fun entry => entry.1 == location).map Prod.snd

/-- Puts something at a location. -/
def put (disk : Disk) (location : Location) (entry : Entry) : Disk :=
  ⟨(location, entry) :: disk.entries.filter fun other => other.1 != location⟩

/-- A disk with given files in the folder itself. -/
def ofFiles (files : List (String × String)) : Disk :=
  files.foldl (fun disk file => disk.put [file.1] (.file file.2)) ⟨[]⟩

/-- The steps of a path: the names between the slashes. -/
def steps (path : List Char) : List String :=
  (path.splitOnP (· == '/')).map String.ofList

/-- Follows the steps of a path from a location; each step but the last one has to lead to a
folder. Nothing is known about what lies outside. -/
def follow (disk : Disk) : Location → List String → Option Location
  | location, [] => some location
  | location, step :: more =>
    if disk.get? location = some .folder then
      if step = "" ∨ step = "." then disk.follow location more
      else if step = ".." then
        if location.isEmpty then none else disk.follow location.dropLast more
      else disk.follow (location ++ [step]) more
    else none

/-- The steps of a path that leads into the folder itself. It is not empty, does not start at the
root and has no zero character; it has fewer than 4096 bytes and its names at most 255. -/
def steps? (path : String) : Option (List String) :=
  let names := steps path.toList
  let isShort := path.utf8ByteSize < 4096 && names.all (·.utf8ByteSize ≤ 255)
  if path.isEmpty || path.toList.head? == some '/' || path.toList.contains '\x00' || !isShort then
    none
  else some names

/-- The location of a path. -/
def locate? (disk : Disk) (path : String) : Option Location :=
  (steps? path).bind (disk.follow [])

/-- The device that is an empty file on every system. -/
def emptyDevice : String := "/dev/null"

/-- The text of a file. -/
def read (disk : Disk) (path : String) : Option String :=
  if path = emptyDevice then some ""
  else
    match (disk.locate? path).bind disk.get? with
    | some (.file text) => some text
    | _ => none

/-- Writes a file into a folder that is there. -/
def write (disk : Disk) (path text : String) : Option Disk :=
  match disk.locate? path with
  | none => none
  | some location =>
    let isFree : Bool := match disk.get? location with
      | some .folder => false
      | some (.file _) => true
      | none => disk.get? location.dropLast == some .folder
    if isFree then some (disk.put location (.file text)) else none

/-- Makes the folders that the steps of a path lead to, as far as possible; tells whether all of
them are there now. -/
def makeSteps (disk : Disk) : Location → List String → Bool × Disk
  | _, [] => (true, disk)
  | location, step :: more =>
    if step = ".." then
      if location.isEmpty then (false, disk) else disk.makeSteps location.dropLast more
    else
      let location := location ++ [step]
      match disk.get? location with
      | some .folder => disk.makeSteps location more
      | some (.file _) => (false, disk)
      | none => (disk.put location .folder).makeSteps location more

/-- Makes a folder and the folders it lies in, as far as possible; tells whether it is there now. A
path that ends in `.` names a folder from inside, and so makes only the folders it lies in. -/
def makeFolder (disk : Disk) (path : String) : Bool × Disk :=
  match steps? path with
  | none => (false, disk)
  | some all =>
    let names := all.filter fun step => step != "" && step != "."
    if (all.filter (· != "")).getLast? = some "." then
      let (isMade, disk) := disk.makeSteps [] names.dropLast
      (isMade && (disk.locate? path).bind disk.get? == some .folder, disk)
    else disk.makeSteps [] names

end Disk

/-- The files of a disk. -/
def FileSystem.ofDisk : FileSystem (StateM Disk) where
  read path := do return (← get).read path
  makeFolder path := modifyGet (·.makeFolder path)
  write path text := do
    match (← get).write path text with
    | some disk =>
      set disk
      return true
    | none => return false

end SelfCert.CommandLine
