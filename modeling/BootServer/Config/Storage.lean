import BootServer.Config.Completion
import BootServer.Config.Json
import BootServer.Storage.Disk

/-!
# Configuration files

A file whose name ends in `.json` holds JSON, any other one `key=value` lines. A configuration is
saved by way of a temporary sibling, so the file itself is replaced whole or not at all.
-/

namespace BootServer.Config

def isJsonPath (path : String) : Bool := Path.extension? path == some "json"

/-- The configuration in a file; without a file, the default one. -/
def load (disk : Disk) (path : String) : Except ConfigError Config :=
  if !disk.exists? path then .ok default
  else match disk.readText path with
    | .error cause => .error (.read path cause)
    | .ok text => if isJsonPath path then parseJson text else parse text

/-- What the operator is told while a file is read. -/
def loadLog (disk : Disk) (path : String) : Log :=
  if !disk.exists? path then Log.info ("No config file at " ++ path ++ ", using defaults")
  else match disk.readText path with
    | .error _ => []
    | .ok text =>
      Log.info ("Loading configuration from " ++ path) ++
        if isJsonPath path then [] else parseLog text

/-- What the file at a path holds once a configuration is saved there. -/
def serialized (config : Config) (path : String) : String :=
  if isJsonPath path then config.renderJson else config.render

/-- The sibling of a file that exists while a configuration is saved. -/
def temporaryPath (path : String) : String := Path.withExtension path "tmp"

/-- Save a configuration: write the sibling, then give it the file's name. The disk is the one
after the attempt, whatever came of it. -/
def save (config : Config) (disk : Disk) (path : String) : Disk × Except ConfigError Unit :=
  match disk.write (temporaryPath path) (Text.Utf8.encode (config.serialized path)) with
  | .error cause => (disk, .error (.write path cause))
  | .ok written =>
    match written.rename (temporaryPath path) path with
    | .error cause => (written, .error (.write path cause))
    | .ok renamed => (renamed, .ok ())

end BootServer.Config
