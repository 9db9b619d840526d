import BootServer.Net.Address

/-!
# Events

What the services announce to whoever listens: lease decisions, the progress of transfers, and the
course of a service's life.
-/

namespace BootServer

/-- A decision of the address service about a client. -/
inductive LeaseEvent where
  | offered (client : String) (ip : IPv4)
  | acknowledged (client : String) (ip : IPv4)
  | refused (client : String) (reason : String)
  /-- A lease was recorded; `previous` is the address that the client gave up for it. -/
  | assigned (client : String) (ip : IPv4) (previous : Option IPv4)
  | exhausted (client : String)
  | ignored (client : String) (reason : String)
  deriving DecidableEq, Repr

/-- What happened to the transfers of the file service. -/
inductive TransferEvent where
  | started (client : IPv4) (path : String) (size : UInt64) (blockSize : UInt16)
  | completed (client : IPv4) (path : String) (blocks : UInt64)
  | errorSent (client : IPv4) (code : UInt16) (message : String)
  | pruned (count : UInt64)
  deriving DecidableEq, Repr

/-- The states of a service. -/
inductive ServiceState where
  | idle
  | starting
  | running
  | stopping
  | stopped
  deriving DecidableEq, Repr

namespace ServiceState

/-- All states. -/
def all : List ServiceState := [idle, starting, running, stopping, stopped]

def name : ServiceState → String
  | idle => "idle"
  | starting => "starting"
  | running => "running"
  | stopping => "stopping"
  | stopped => "stopped"

/-- The name of a state as a word of its own. -/
def title : ServiceState → String
  | idle => "Idle"
  | starting => "Starting"
  | running => "Running"
  | stopping => "Stopping"
  | stopped => "Stopped"

def ofName? (name : String) : Option ServiceState := all.find? fun state => state.name = name

@[simp] theorem ofName?_name (state : ServiceState) : ofName? state.name = some state := by
  cases state <;> decide

end ServiceState

/-- A service entered a state. -/
structure ServiceEvent where
  service : String
  state : ServiceState
  deriving DecidableEq, Repr

end BootServer
