import BootServer.Config.Basic
import BootServer.Event.Basic
import BootServer.Log
import BootServer.Net.Endpoint
import BootServer.Storage.Fault

/-!
# Services

A service owns a socket: it starts, runs and stops, and every state it enters is announced. What
the operating system makes of the socket is told by a `Host`.
-/

namespace BootServer

/-- How a service uses its socket. -/
structure ServiceOptions where
  bind : Endpoint
  /-- The network device that the socket is bound to. -/
  interface : Option String
  /-- May the socket send broadcasts? -/
  broadcast : Bool
  /-- How often the service looks after itself, in milliseconds. -/
  pollInterval : Nat
  /-- How long every reply is held back, in milliseconds. -/
  replyDelay : Option UInt64
  deriving DecidableEq, Repr

namespace ServiceOptions

/-- A plain socket, looked after once a second. -/
def plain (bind : Endpoint) : ServiceOptions := ⟨bind, none, false, 1000, none⟩

/-- The address service listens on every address, as broadcasts come to none of its own. -/
def dhcp (config : Config) : ServiceOptions :=
  { plain (.v4 .unspecified config.dhcp.serverPort) with
    interface := config.interface?
    broadcast := true
    replyDelay := config.replyDelay? }

/-- The file service listens on the server's address. -/
def tftp (config : Config) : ServiceOptions :=
  { plain (.v4 config.address config.tftp.serverPort) with interface := config.interface? }

end ServiceOptions

/-- Why a service did not start. -/
inductive ServiceError where
  | bind (service : String) (address : Endpoint) (cause : Fault)
  | socket (service : String) (cause : Fault)
  deriving DecidableEq, Repr

namespace ServiceError

def text : ServiceError → String
  | bind service address cause =>
    service ++ ": failed to bind " ++ address.toText ++ ": " ++ cause.text
  | socket service cause => service ++ ": socket setup failed: " ++ cause.text

/-- The failure of the operating system behind an error. -/
def cause : ServiceError → Fault
  | bind _ _ cause | socket _ cause => cause

end ServiceError

/-- What the operating system makes of sockets. -/
structure Host where
  /-- Why an address cannot be bound, if it cannot. -/
  bindFault : Endpoint → Option Fault
  /-- Why a socket cannot be bound to a network device, if it cannot. -/
  deviceFault : String → Option Fault
  /-- The address that a socket gets: the system chooses a port where none is asked for. -/
  localAddress : Endpoint → Endpoint

namespace Service

/-- The course of a stretch of a service's life. -/
structure Course (α : Type) where
  result : α
  events : List ServiceEvent
  log : Log

def stateLog (service : String) (state : ServiceState) : Log :=
  Log.debug (service ++ " -> " ++ state.title)

def openSocket (host : Host) (service : String) (options : ServiceOptions) :
    Except ServiceError Endpoint :=
  match host.bindFault options.bind, options.interface.bind host.deviceFault with
  | some cause, _ => .error (.bind service options.bind cause)
  | none, some cause => .error (.socket service cause)
  | none, none => .ok (host.localAddress options.bind)

/-- The record of the device that a socket is bound to. -/
def deviceLog (service : String) (options : ServiceOptions) : Log :=
  match options.interface with
  | none => []
  | some device => Log.info (service ++ " bound to interface " ++ device)

/-- Start a service. -/
def start (host : Host) (service : String) (options : ServiceOptions) :
    Course (Except ServiceError Endpoint) :=
  match openSocket host service options with
  | .error error =>
    ⟨.error error, [⟨service, .starting⟩, ⟨service, .stopped⟩],
      stateLog service .starting ++ stateLog service .stopped⟩
  | .ok address =>
    ⟨.ok address, [⟨service, .starting⟩, ⟨service, .running⟩],
      stateLog service .starting ++ deviceLog service options ++
        Log.info (service ++ " listening on " ++ address.toText) ++ stateLog service .running⟩

def stop (service : String) : Course Unit :=
  ⟨(), [⟨service, .stopping⟩, ⟨service, .stopped⟩],
    stateLog service .stopping ++ stateLog service .stopped ++ Log.info (service ++ " stopped")⟩

end Service

end BootServer
