import BootServer.Text.Split

/-!
# File paths as text

A path is a text whose components stand between slashes; one that starts with a slash is absolute.
The file name is the last component that is neither empty nor a dot; its extension follows its last
dot, unless that dot is its first character.
-/

namespace BootServer.Path

/-- The components of a path, without empty ones. -/
def components (path : String) : List String :=
  ((Text.split (· == '/') path.toList).filter (!·.isEmpty)).map String.ofList

def isAbsolute (path : String) : Bool := path.toList.head? == some '/'

def endsInSlash (path : String) : Bool := path.toList.getLast? == some '/'

/-- The path of `part` seen from the directory `base`; an absolute `part` stands for itself. -/
def push (base part : String) : String :=
  if isAbsolute part then part
  else if base.isEmpty || endsInSlash base then base ++ part
  else base ++ "/" ++ part

/-- Components below a directory. -/
def descend (base : String) (parts : List String) : String := parts.foldl push base

/-- What may stand after the file name: slashes, and dots that stand alone between slashes. The
list is reversed, so it holds the end of a path from its last character on. -/
def dropTail : List Char → List Char
  | '/' :: rest => dropTail rest
  | '.' :: '/' :: rest => dropTail ('/' :: rest)
  | cs => cs

/-- The path up to and including its last component other than dots that stand alone. -/
def body (path : String) : List Char := (dropTail path.toList.reverse).reverse

def fileName? (path : String) : Option (List Char) :=
  let name := (Text.split (· == '/') (body path)).getLastD []
  if name.isEmpty || name == ['.', '.'] || name == ['.'] then none else some name

/-- A file name cut at its last dot, unless that dot comes first. -/
def stemAndExtension (name : List Char) : List Char × Option (List Char) :=
  let after := name.reverse.takeWhile (· != '.')
  let before := name.reverse.dropWhile (· != '.')
  match before with
  | _ :: stem => if stem.isEmpty then (name, none) else (stem.reverse, some after.reverse)
  | [] => (name, none)

/-- The extension of a path's file name. -/
def extension? (path : String) : Option String :=
  (fileName? path).bind fun name => (stemAndExtension name).2.map String.ofList

/-- Put an extension in the place of the one of the file name, or after the file name. A path
without a file name stays as it is. -/
def setExtension (path : String) (extension : String) : String :=
  match fileName? path with
  | none => path
  | some name =>
    let stem := (stemAndExtension name).1
    let front := (body path).take ((body path).length - name.length)
    String.ofList (front ++ stem) ++ "." ++ extension

/-- The sibling of a path with another extension: as many characters are removed from the end of
the path as its extension has, and the extension is then set. -/
def withExtension (path : String) (extension : String) : String :=
  match extension? path with
  | none => setExtension path extension
  | some old =>
    let cs := path.toList
    setExtension (String.ofList (cs.take (cs.length - old.length))) extension

end BootServer.Path
