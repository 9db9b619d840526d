import BootServer.Log
import BootServer.Storage.Disk
import BootServer.Tftp.Failure

/-!
# From requests to files

A request is a path under the root, in slashes or backslashes, and never leaves the root. A marker
is a short text file that stands for a link: its contents are a path seen from its directory.
Following a marker puts that path in its place, if the result names a file.
-/

namespace BootServer.Tftp

/-- How many markers are followed for one request. -/
def hopsMax : Nat := 8

/-- A marker is shorter than this. -/
def markerLimit : Nat := 200

/-- Slashes and backslashes separate. -/
def isSeparator (c : Char) : Bool := c == '/' || c == '\\'

/-- Take one part of a path: up from the root there is nothing. -/
def enter (components : List String) (part : List Char) : List String :=
  if part = [] ∨ part = ['.'] then components
  else if part = ['.', '.'] then components.dropLast
  else components ++ [String.ofList part]

/-- The components of a request. -/
def canonical (request : String) : List String :=
  (Text.split isSeparator request.toList).foldl enter []

/-- Components with slashes between them. -/
def joined (components : List String) : String := String.intercalate "/" components

def located (root : String) (components : List String) : String := Path.descend root components

/-- Is a file as long as a marker may be? -/
def fitsMarker (content : Bytes) : Bool := !content.isEmpty && content.length < markerLimit

/-- Are the octets text of the kind that a marker holds? -/
def isMarkerText (content : Bytes) : Bool :=
  !content.isEmpty && content.all fun b => 32 ≤ b && b ≤ 127

/-- Where a marker in a directory leads, with the rest of the path behind it. -/
def destination (directory : List String) (content : Bytes) (rest : List String) : List String :=
  canonical (joined directory ++ "/" ++ Text.Utf8.decodeLossy content) ++ rest

/-- Walk down from a directory to the first component that is no directory: if it is a marker, where
it leads. Only a file that is as long as a marker is read. -/
def candidateFrom (disk : Disk) (root : String) (directory : List String) :
    List String → Except Fault (Option (List String))
  | [] => .ok none
  | part :: rest =>
    let path := located root (directory ++ [part])
    match disk.locate path with
    | .error _ => .ok none
    | .ok (_, .directory) => candidateFrom disk root (directory ++ [part]) rest
    | .ok (_, .file id) =>
      if fitsMarker (disk.content id) then
        match disk.readFile path id with
        | .error fault => .error fault
        | .ok content =>
          .ok (if isMarkerText content then some (destination directory content rest) else none)
      else .ok none

/-- Where the first marker on a path leads. -/
def candidate (disk : Disk) (root : String) (components : List String) :
    Except Fault (Option (List String)) :=
  candidateFrom disk root [] components

/-- Do components name a file under the root? -/
def namesFile (disk : Disk) (root : String) (components : List String) : Bool :=
  !components.isEmpty && (disk.file? (located root components)).isSome

/-- The path with its first marker followed, if that leads to a file. -/
def follow (disk : Disk) (root : String) (components : List String) :
    Except Fault (Option (List String)) :=
  (candidate disk root components).map (Option.filter (namesFile disk root))

/-- The paths that markers lead to in turn, at most so many. -/
def trail (disk : Disk) (root : String) : (hops : Nat) → List String → List (List String)
  | 0, _ => []
  | hops + 1, components =>
    match follow disk root components with
    | .ok (some target) => target :: trail disk root hops target
    | _ => []

/-- The markers followed for a request. -/
def hopsOf (disk : Disk) (root : String) (followMarkers : Bool) (request : String) :
    List (List String) :=
  if followMarkers then trail disk root hopsMax (canonical request) else []

/-- Where following markers ends: at a path without one, with one too many, or with one that cannot
be read. -/
def arrive (disk : Disk) (root request : String) (last : List String) :
    Except Failure (List String) :=
  match follow disk root last with
  | .error fault => .error (.system fault)
  | .ok (some _) => .error (.tooManyHops request)
  | .ok none => .ok last

/-- The components that a request stands for. -/
def resolve (disk : Disk) (root : String) (followMarkers : Bool) (request : String) :
    Except Failure (List String) :=
  let components := canonical request
  if components.isEmpty then .error (.fileNotFound request)
  else if followMarkers then
    arrive disk root request
      ((hopsOf disk root followMarkers request).getLastD components)
  else .ok components

def resolveLog (disk : Disk) (root : String) (followMarkers : Bool) (request : String) : Log :=
  let hops := hopsOf disk root followMarkers request
  ((canonical request :: hops).zip hops).flatMap fun hop =>
    Log.debug ("Followed symlink marker from \"" ++ joined hop.1 ++ "\" to \"" ++ joined hop.2 ++
      "\"")

end BootServer.Tftp
