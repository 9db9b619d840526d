import BootServer.Config.Key
import BootServer.Log
import BootServer.Storage.Fault
import BootServer.Text.Lines
import BootServer.Text.Quoted

/-!
# The text of a configuration

One `key=value` pair a line; blank lines and lines that start with `#` say nothing. A malformed
line and an unknown key are reported and skipped, a value that its key refuses ends the reading.
The last line of a key decides.
-/

namespace BootServer

/-- What a configuration lacks for a server to run on it. -/
inductive Shortcoming where
  | noService
  | noAddress
  | noRoot
  deriving DecidableEq, Repr

namespace Shortcoming

def text : Shortcoming → String
  | noService => "no servers are enabled in the configuration"
  | noAddress => "network_address must be set to this server's address"
  | noRoot => "tftp_root_folder is empty"

end Shortcoming

/-- Why there is no usable configuration. -/
inductive ConfigError where
  | read (path : String) (cause : Fault)
  | write (path : String) (cause : Fault)
  | json
  | invalidValue (line : Nat) (key : Key) (value : String)
  | invalid (shortcoming : Shortcoming)
  deriving DecidableEq, Repr

namespace ConfigError

def text : ConfigError → String
  | read path cause => "failed to read configuration " ++ path ++ ": " ++ cause.text
  | write path cause => "failed to write configuration " ++ path ++ ": " ++ cause.text
  | json => "invalid JSON configuration"
  | invalidValue line key value =>
    "line " ++ toString line ++ ": invalid value " ++ Text.quoted value ++ " for " ++ key.name ++
      " (expected " ++ key.kind.format.describe ++ ")"
  | invalid shortcoming => "invalid configuration: " ++ shortcoming.text

/-- The failure of the operating system behind an error. -/
def cause? : ConfigError → Option Fault
  | read _ cause | write _ cause => some cause
  | _ => none

end ConfigError

namespace Config

/-- What a line of a configuration file says. -/
inductive Line where
  | silent
  | malformed (text : String)
  | unknown (name : String)
  | setting (key : Key) (value : String)
  deriving DecidableEq, Repr

namespace Line

def ofChars (cs : List Char) : Line :=
  let cs := Text.trim cs
  if cs.isEmpty || cs.head? == some '#' then .silent
  else match Text.cutAt? '=' cs with
    | none => .malformed (String.ofList cs)
    | some (name, value) =>
      let name := String.ofList (Text.trim name)
      match Key.ofName? name with
      | none => .unknown name
      | some key => .setting key (String.ofList (Text.trim value))

def refused? : Line → Option (Key × String)
  | setting key value => if (key.kind.parse? value).isSome then none else some (key, value)
  | _ => none

/-- The configuration with the setting of a line in place; other lines leave it alone. -/
def apply (config : Config) : Line → Config
  | setting key value =>
    match key.kind.parse? value with
    | some parsed => config.set key parsed
    | none => config
  | _ => config

/-- What the operator is told about a line that is not refused. -/
def record (number : Nat) : Line → Log
  | silent => []
  | malformed text => Log.warning ("Ignoring malformed config line " ++ toString number ++ ": " ++ text)
  | unknown name => Log.warning ("Configuration key " ++ name ++ " not found")
  | setting key value => Log.debug (key.name ++ " = " ++ value)

end Line

/-- The lines of a text with their numbers, from 1 on. -/
def numberedLines (text : String) : List (Nat × Line) :=
  (Text.lines text.toList).mapIdx fun index line => (index + 1, Line.ofChars line)

/-- The first refused line decides, else every line takes effect in turn. -/
def ofLines (config : Config) : List (Nat × Line) → Except ConfigError Config
  | [] => .ok config
  | (number, line) :: rest =>
    match line.refused? with
    | some (key, value) => .error (.invalidValue number key value)
    | none => ofLines (line.apply config) rest

def parse (text : String) : Except ConfigError Config := ofLines default (numberedLines text)

/-- What the operator is told while a text is read: nothing from a refused line on. -/
def parseLog (text : String) : Log :=
  ((numberedLines text).takeWhile fun line => line.2.refused?.isNone).flatMap fun line =>
    line.2.record line.1

def renderLine (config : Config) (key : Key) : String := key.name ++ "=" ++ config.text key ++ "\n"

/-- The text of a configuration: one line for every key. -/
def render (config : Config) : String := String.join (Key.all.map config.renderLine)

end Config

end BootServer
