import BootServer.Config.Storage
import BootServer.Dhcp.Leases

/-!
# What an operator asks for

The path of the configuration, the lease table in the log, and saving the configuration of a
running server.
-/

namespace BootServer.Operator

/-- The configuration file where none is named. -/
def defaultPath : String := "netboot.conf"

/-- The path of the configuration: the argument, or else the environment's, unless it is empty. -/
def configPath (argument environment : Option String) : String :=
  ((argument.or environment).filter fun path => !path.isEmpty).getD defaultPath

def dumpLeases (leases : Option Dhcp.Leases) : Log :=
  match leases with
  | none => Log.info "DHCP disabled, no lease table"
  | some leases =>
    let table := leases.toList
    Log.info (toString table.length ++ " DHCP leases:\n" ++ Dhcp.Lease.listing table)

/-- Save a configuration; a failure is only logged. -/
def saveConfig (config : Config) (disk : Disk) (path : String) : Disk × Log :=
  match config.save disk path with
  | (disk, .ok ()) => (disk, Log.info ("Configuration saved to " ++ path))
  | (disk, .error error) => (disk, Log.error ("Failed to save configuration: " ++ error.text))

/-- The configuration that a server starts with: loaded, completed and checked. -/
def startup (disk : Disk) (path : String) : Except ConfigError Config :=
  match Config.load disk path with
  | .error error => .error error
  | .ok config =>
    match config.completed.validate with
    | .error error => .error error
    | .ok () => .ok config.completed

def startupLog (disk : Disk) (path : String) : Log :=
  Config.loadLog disk path ++
    match Config.load disk path with
    | .error _ => []
    | .ok config => config.completionLog

end BootServer.Operator
