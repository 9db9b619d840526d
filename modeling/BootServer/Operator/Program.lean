import BootServer.Dhcp.Exchange
import BootServer.Operator.Commands
import BootServer.Service.Basic
import BootServer.Tftp.Exchange

/-!
# The program

The program reads its configuration, starts the enabled services, obeys signals, and stops the
services in the order of their start. A failure before that is reported with its causes.
-/

namespace BootServer.Operator

/-- The services that a configuration can enable. -/
inductive ServiceKind where
  | dhcp
  | tftp
  deriving DecidableEq, Repr

namespace ServiceKind

def name : ServiceKind → String
  | dhcp => "dhcp"
  | tftp => "tftp"

def options (config : Config) : ServiceKind → ServiceOptions
  | dhcp => .dhcp config
  | tftp => .tftp config

def attempt : ServiceKind → String
  | dhcp => "starting DHCP service"
  | tftp => "starting TFTP service"

end ServiceKind

/-- The services of a configuration, in the order of their start. -/
def services (config : Config) : List ServiceKind :=
  (if config.dhcp.enabled then [.dhcp] else []) ++ if config.tftp.enabled then [.tftp] else []

/-- Why the program ends early. -/
inductive Breakdown where
  | load (path : String) (error : ConfigError)
  | configuration (error : ConfigError)
  | service (kind : ServiceKind) (error : ServiceError)
  deriving DecidableEq, Repr

namespace Breakdown

/-- What failed, and its causes from the nearest to the deepest. -/
def chain : Breakdown → String × List String
  | load path error => ("loading " ++ path, error.text :: (error.cause?.map Fault.text).toList)
  | configuration error => (error.text, (error.cause?.map Fault.text).toList)
  | service kind error => (kind.attempt, [error.text, error.cause.text])

/-- The lines of a cause after the first one start as far in as the first one does. -/
def indented (lead : String) (margin : Nat) (cause : String) : String :=
  let lines := (Text.split (· == '\n') cause.toList).map String.ofList
  lead ++ String.intercalate ("\n" ++ String.ofList (List.replicate margin ' ')) lines ++ "\n"

def causesText : List String → String
  | [] => ""
  | [cause] => "\n\nCaused by:\n" ++ indented "    " 4 cause
  | causes =>
    "\n\nCaused by:\n" ++ String.join (causes.mapIdx fun index cause =>
      indented (Text.padLeft ' ' 5 (toString index) ++ ": ") 7 cause)

def report (breakdown : Breakdown) : String :=
  let (what, causes) := breakdown.chain
  "Error: " ++ what ++ if causes.isEmpty then "\n" else causesText causes

end Breakdown

/-- A running program. -/
structure Running where
  config : Config
  /-- Where the configuration comes from. -/
  path : String
  /-- The addresses that the services listen on. -/
  sockets : List (ServiceKind × Endpoint)
  leases : Dhcp.Leases
  sessions : Tftp.Sessions

/-- The course of the program up to some point. -/
structure Progress (α : Type) where
  result : α
  events : List ServiceEvent
  log : Log

/-- Stop services in turn. -/
def stopServices (kinds : List ServiceKind) : Progress Unit :=
  let courses := kinds.map fun kind => Service.stop kind.name
  ⟨(), courses.flatMap (·.events), courses.flatMap (·.log)⟩

/-- Start services in turn, those before them being started. After a failure the ones started
before it are stopped. -/
def startServices (host : Host) (config : Config) (started : List (ServiceKind × Endpoint)) :
    List ServiceKind → Progress (Except Breakdown (List (ServiceKind × Endpoint)))
  | [] => ⟨.ok started, [], []⟩
  | kind :: rest =>
    let course := Service.start host kind.name (kind.options config)
    match course.result with
    | .error error =>
      let stopped := stopServices (started.map (·.1))
      ⟨.error (.service kind error), course.events ++ stopped.events, course.log ++ stopped.log⟩
    | .ok address =>
      let later := startServices host config (started ++ [(kind, address)]) rest
      ⟨later.result, course.events ++ later.events, course.log ++ later.log⟩

/-- A setting in the summary of a configuration. -/
def enabledText (enabled : Bool) : String := if enabled then "enabled" else "disabled"

def summary (path : String) (config : Config) : String :=
  "Config loaded from " ++ path ++ ": address " ++ config.address.toText ++ ", DHCP " ++
    enabledText config.dhcp.enabled ++ ", TFTP " ++ enabledText config.tftp.enabled

/-- The configuration, or why there is none. -/
def configure (disk : Disk) (path : String) : Except Breakdown Config :=
  match Config.load disk path, startup disk path with
  | .error error, _ => .error (.load path error)
  | .ok _, .error error => .error (.configuration error)
  | .ok _, .ok config => .ok config

/-- Start the program. -/
def launch (host : Host) (disk : Disk) (path : String) : Progress (Except Breakdown Running) :=
  let before := Log.info "Netboot starting..." ++ startupLog disk path
  match configure disk path with
  | .error breakdown => ⟨.error breakdown, [], before⟩
  | .ok config =>
    let course := startServices host config [] (services config)
    let log := before ++ Log.info (summary path config) ++ course.log
    match course.result with
    | .error breakdown => ⟨.error breakdown, course.events, log⟩
    | .ok sockets =>
      ⟨.ok ⟨config, path, sockets, .empty, Tftp.initialSessions config⟩, course.events,
        log ++ Log.info "Netboot started successfully"⟩

namespace Running

/-- Handle a datagram for the address service. -/
def serveDhcp (program : Running) (disk : Disk) (probe : Dhcp.Probe) (source : Endpoint)
    (data : Bytes) : Running × Dhcp.Exchange :=
  let exchange := Dhcp.serve program.config disk probe program.leases source data
  ({ program with leases := exchange.leases }, exchange)

/-- Handle a datagram for the file service. -/
def serveTftp (program : Running) (disk : Disk) (now : Nat) (source : Endpoint) (data : Bytes) :
    Running × Tftp.Exchange :=
  let exchange := Tftp.serve program.config disk program.sessions now source data
  ({ program with sessions := exchange.sessions }, exchange)

/-- Look after the sessions. -/
def maintain (program : Running) (now : Nat) : Running × Tftp.Outcome :=
  let outcome := Tftp.pruneIdle program.sessions now
  ({ program with sessions := outcome.sessions }, outcome)

def dump (program : Running) : Log :=
  dumpLeases (if program.config.dhcp.enabled then some program.leases else none)

def save (program : Running) (disk : Disk) : Disk × Log :=
  saveConfig program.config disk program.path

/-- Stop the program. -/
def shutdown (program : Running) : Progress Unit :=
  let stopped := stopServices (program.sockets.map (·.1))
  ⟨(), stopped.events,
    Log.info "Shutting down..." ++ stopped.log ++ Log.info "Netboot stopped"⟩

end Running

/-- The signals that the program obeys. -/
inductive Signal where
  | dump
  | save
  | terminate
  deriving DecidableEq, Repr

/-- How a run of the program ended. -/
structure Ending where
  code : Nat
  report : String
  disk : Disk
  log : Log

/-- Obey signals in turn until one ends the program; without it the program goes on. -/
def obey (program : Running) (disk : Disk) : List Signal → Disk × Log
  | [] => (disk, [])
  | .terminate :: _ => (disk, program.shutdown.log)
  | .dump :: rest =>
    let (disk, log) := obey program disk rest
    (disk, program.dump ++ log)
  | .save :: rest =>
    let (saved, first) := program.save disk
    let (disk, log) := obey program saved rest
    (disk, first ++ log)

/-- A whole run of the program under signals. -/
def run (host : Host) (disk : Disk) (path : String) (signals : List Signal) : Ending :=
  let start := launch host disk path
  match start.result with
  | .error breakdown => ⟨1, breakdown.report, disk, start.log⟩
  | .ok program =>
    let (disk, log) := obey program disk signals
    ⟨0, "", disk, start.log ++ log⟩

end BootServer.Operator
