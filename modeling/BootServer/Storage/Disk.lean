import BootServer.Storage.Fault
import BootServer.Storage.Path
import BootServer.Table
import BootServer.Text.Utf8

/-!
# A file tree

Directories and regular files under a root, without links. An entry names a file by its identity,
and contents belong to the identity: overwriting keeps it, so an open file shows the new contents,
and a file without an entry can still be read by one who has it open. Paths are walked the way a
kernel does: every component but the last must be a directory. What the tree allows may be refused
all the same, for want of a permission or of descriptors, or because a device fails.
-/

namespace BootServer

abbrev FileId := Nat

/-- What an entry of the tree is. -/
inductive Entry where
  | directory
  | file (id : FileId)
  deriving DecidableEq, Repr

/-- The place of an entry: names from the root down. -/
abbrev Place := List String

/-- What is refused to the file service although the tree allows it, and why. -/
structure Refusals where
  /-- To open the file at a path. -/
  opening : String → Option Fault := fun _ => none
  /-- To read the whole file at a path. -/
  contents : String → Option Fault := fun _ => none
  /-- To read so many octets of an open file from an offset on. -/
  reading : FileId → (offset length : Nat) → Option Fault := fun _ _ _ => none

/-- A file tree with a working directory. The root is no stored entry. -/
structure Disk where
  entries : Table Place Entry
  contents : Table FileId Bytes
  nextFile : FileId
  workingDirectory : Place
  refusals : Refusals := {}

namespace Disk

/-- The longest name of an entry, in octets. -/
def nameMax : Nat := 255

/-- A path of this many octets is refused. -/
def pathMax : Nat := 4096

/-- The tree with nothing but the root. -/
def empty : Disk where
  entries := Table.empty
  contents := Table.empty
  nextFile := 0
  workingDirectory := []

/-- The entry at a place. -/
def entryAt (disk : Disk) (place : Place) : Option Entry :=
  if place.isEmpty then some .directory else disk.entries.get? place

def content (disk : Disk) (id : FileId) : Bytes := (disk.contents.get? id).getD []

/-- Go from a directory to one of its entries, to itself or to its parent. -/
def step (disk : Disk) (here : Place) (part : String) : Except Fault Place :=
  match disk.entryAt here with
  | none => .error .notFound
  | some (.file _) => .error .notDirectory
  | some .directory =>
    if part = "." then .ok here
    else if part = ".." then .ok here.dropLast
    else if nameMax < part.utf8ByteSize then .error .nameTooLong
    else if (disk.entryAt (here ++ [part])).isSome then .ok (here ++ [part])
    else .error .notFound

/-- Go from a place along a list of components. -/
def walk (disk : Disk) (here : Place) : List String → Except Fault Place
  | [] => .ok here
  | part :: rest =>
    match disk.step here part with
    | .error fault => .error fault
    | .ok next => disk.walk next rest

/-- Refuse a text that is no path at all. -/
def checkText (path : String) : Except Fault Unit :=
  if path.toList.contains '\x00' then .error .zeroInName
  else if path.isEmpty then .error .notFound
  else if pathMax ≤ path.utf8ByteSize then .error .nameTooLong
  else .ok ()

/-- Where the walk along a path starts. -/
def start (disk : Disk) (path : String) : Place :=
  if Path.isAbsolute path then [] else disk.workingDirectory

/-- The place and entry that a path leads to. -/
def locate (disk : Disk) (path : String) : Except Fault (Place × Entry) := do
  checkText path
  let place ← disk.walk (disk.start path) (Path.components path)
  match disk.entryAt place with
  | none => .error .notFound
  | some .directory => .ok (place, .directory)
  | some (.file id) => if Path.endsInSlash path then .error .notDirectory else .ok (place, .file id)

def exists? (disk : Disk) (path : String) : Bool := (disk.locate path).isOk

def file? (disk : Disk) (path : String) : Option FileId :=
  match disk.locate path with
  | .ok (_, .file id) => some id
  | _ => none

/-- The octets of the regular file that a path leads to. -/
def read (disk : Disk) (path : String) : Except Fault Bytes := do
  match ← disk.locate path with
  | (_, .directory) => .error .isDirectory
  | (_, .file id) => .ok (disk.content id)

/-- The text of the regular file that a path leads to. -/
def readText (disk : Disk) (path : String) : Except Fault String := do
  match Text.Utf8.decode? (← disk.read path) with
  | some text => .ok text
  | none => .error .notUtf8

/-! ### Reading for others -/

/-- Open what a path leads to. -/
def openPath (disk : Disk) (path : String) : Except Fault Entry :=
  match disk.locate path with
  | .error fault => .error fault
  | .ok (_, entry) => (disk.refusals.opening path).elim (.ok entry) .error

/-- Read the whole file that a path leads to. -/
def readFile (disk : Disk) (path : String) (file : FileId) : Except Fault Bytes :=
  (disk.refusals.contents path).elim (.ok (disk.content file)) .error

/-- Read from an open file, as far as it goes. -/
def readPart (disk : Disk) (file : FileId) (offset length : Nat) : Except Fault Bytes :=
  (disk.refusals.reading file offset length).elim
    (.ok (Bytes.slice (disk.content file) offset length)) .error

/-! ### Writing -/

/-- The directory and the last component of a path; `none` in place of the name where the last
component is no name or a slash follows it. -/
def locateSlot (disk : Disk) (path : String) : Except Fault (Place × Option String) := do
  checkText path
  let parts := Path.components path
  let here ← disk.walk (disk.start path) parts.dropLast
  match disk.entryAt here with
  | none => .error .notFound
  | some (.file _) => .error .notDirectory
  | some .directory =>
    match parts.getLast? with
    | none => .ok (here, none)
    | some name =>
      if name = "." ∨ name = ".." then .ok (here, none)
      else if nameMax < name.utf8ByteSize then .error .nameTooLong
      else .ok (here, some name)

/-- Store octets under the file's old identity, or under a new one. -/
def store (disk : Disk) (place : Place) (data : Bytes) : Disk :=
  match disk.entryAt place with
  | some (.file id) => { disk with contents := disk.contents.insert id data }
  | _ =>
    { disk with
      entries := disk.entries.insert place (.file disk.nextFile)
      contents := disk.contents.insert disk.nextFile data
      nextFile := disk.nextFile + 1 }

/-- Make or overwrite the regular file that a path names. -/
def write (disk : Disk) (path : String) (data : Bytes) : Except Fault Disk := do
  match ← disk.locateSlot path with
  | (_, none) => .error .isDirectory
  | (here, some name) =>
    if Path.endsInSlash path || disk.entryAt (here ++ [name]) == some .directory then
      .error .isDirectory
    else .ok (disk.store (here ++ [name]) data)

/-- Give the regular file at one path the name of another, in place of a file there. -/
def rename (disk : Disk) (source target : String) : Except Fault Disk := do
  let (here, name?) ← disk.locateSlot source
  let (there, target?) ← disk.locateSlot target
  match name?, target? with
  | some name, some newName =>
    match disk.entryAt (here ++ [name]) with
    | none => .error .notFound
    | some .directory => .error .isDirectory
    | some (.file id) =>
      let place := there ++ [newName]
      if Path.endsInSlash source || Path.endsInSlash target then .error .notDirectory
      else if disk.entryAt place = some .directory then .error .isDirectory
      else .ok { disk with entries := (disk.entries.erase (here ++ [name])).insert place (.file id) }
  | _, _ => .error .deviceBusy

/-- Remove the entry at a place; open files keep their contents. -/
def remove (disk : Disk) (place : Place) : Disk :=
  { disk with entries := disk.entries.erase place }

/-- Make directories below a place, one inside the other, where there are none. -/
def makeDirectories (disk : Disk) (here : Place) : List String → Disk
  | [] => disk
  | part :: rest =>
    let next := here ++ [part]
    let disk := match disk.entryAt next with
      | none => { disk with entries := disk.entries.insert next .directory }
      | some _ => disk
    disk.makeDirectories next rest

/-- Lexicographic order of places, a directory before what it holds. -/
def placeAtMost : Place → Place → Bool
  | [], _ => true
  | _ :: _, [] => false
  | a :: as, b :: bs => if a = b then placeAtMost as bs else a < b

/-- What a directory holds, depth first with the names of each directory in order: the path from
the directory and the octets of a file; a directory's path ends with a slash. -/
def listing (disk : Disk) (top : Place) : List (String × Option Bytes) :=
  let below := disk.entries.entries.filter fun entry =>
    top.length < entry.1.length && top.isPrefixOf entry.1
  (below.mergeSort fun a b => placeAtMost a.1 b.1).map fun entry =>
    let path := String.intercalate "/" (entry.1.drop top.length)
    match entry.2 with
    | .directory => (path ++ "/", none)
    | .file id => (path, some (disk.content id))

@[simp] theorem entryAt_nil (disk : Disk) : disk.entryAt [] = some .directory := rfl

@[simp] theorem walk_nil (disk : Disk) (here : Place) : disk.walk here [] = .ok here := rfl

end Disk

end BootServer
