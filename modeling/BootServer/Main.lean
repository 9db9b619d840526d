import BootServer.Event.Journal
import BootServer.Operator.Program
import Std.Async.Signal
import Std.Async.TCP
import Std.Async.Timer
import Std.Async.UDP
import Std.Sync.Channel

/-!
# The command

The one argument is the path of the configuration. All decisions are made elsewhere: this module
opens sockets, reads the clock and the files that a decision looks at, waits for what comes next,
and prints the log.
-/

namespace BootServer.Operator

open Std.Async Std.Net

/-- Print the records that an operator is shown, errors and all. -/
def printLog (log : Log) : IO Unit := do
  for record in log.atLeast .info do
    IO.println (Text.padLeft ' ' 5 record.level.name ++ " " ++ record.message)

def printEvents (topic : Topic) (events : List Json) : IO Unit := do
  for record in topic.journal events do
    IO.println (Text.padLeft ' ' 5 record.level.name ++ " " ++ record.message)

/-! ## Files -/

def pathOf (place : Place) : String := "/" ++ String.intercalate "/" place

/-- The place that a path names when nothing on it is a link. -/
def placeOf (disk : Disk) (path : String) : Place :=
  (Path.components path).foldl (fun place part =>
    if part = "." then place else if part = ".." then place.dropLast else place ++ [part])
    (disk.start path)

/-- A failure of the operating system. -/
def faultOf (error : IO.Error) : Fault := .described .other error.toString

/-- Have a file at a place that is not opened. -/
def refuse (disk : Disk) (place : Place) (fault : Fault) : Disk :=
  let disk := match disk.entryAt place with
    | some (.file _) => disk
    | _ => disk.store place []
  let opening := disk.refusals.opening
  { disk with refusals.opening := fun path =>
      if placeOf disk path = place then some fault else opening path }

/-- Look at a place, and put what is there in its place on the disk. -/
def refreshPlace (disk : Disk) (here : Place) (part : String) : IO (Disk × Bool) := do
  let place := here ++ [part]
  try
    if ← (← IO.FS.realPath (pathOf place)).isDir then
      let disk := if disk.entryAt place = some .directory then disk else disk.remove place
      return (disk.makeDirectories here [part], true)
    else if ← (← IO.FS.realPath (pathOf place)).pathExists then
      match ← (IO.FS.readBinFile (pathOf place)).toBaseIO with
      | .ok data => return (disk.store place data.toList, false)
      | .error error => return (refuse disk place (faultOf error), false)
    else return (disk.remove place, false)
  catch _ => return (disk.remove place, false)

/-- Look at every place on the way down from a directory, as far as there are directories. -/
def refreshFrom (disk : Disk) (here : Place) : List String → IO Disk
  | [] => return disk
  | part :: rest => do
    let (disk, isDirectory) ← refreshPlace disk here part
    if isDirectory then refreshFrom disk (here ++ [part]) rest else return disk

/-- Look at everything that a path leads through. What was refused before may not be refused now. -/
def refresh (disk : Disk) (path : String) : IO Disk :=
  refreshFrom { disk with refusals := {} } [] (placeOf disk path)

/-- Look at everything that the resolution of a request leads through. -/
def refreshRequest (root : String) : (hops : Nat) → Disk → List String → IO Disk
  | 0, disk, components => refresh disk (Tftp.located root components)
  | hops + 1, disk, components => do
    let disk ← refresh disk (Tftp.located root components)
    match Tftp.candidate disk root components with
    | .ok (some target) => refreshRequest root hops disk target
    | _ => return disk

/-- Look at the files that a datagram for the file service asks for. -/
def refreshDatagram (root : String) (disk : Disk) (data : Bytes) : IO Disk := do
  match Tftp.Packet.parse data with
  | .ok (.readRequest fileName _ _) =>
    refreshRequest root (Tftp.hopsMax + 1) disk (Tftp.canonical fileName)
  | _ => return disk

/-- The disk before anything on it was looked at. -/
def initialDisk : IO Disk := do
  let directory := Path.components (← IO.currentDir).toString
  return { Disk.empty.makeDirectories [] directory with workingDirectory := directory }

/-- Save the configuration of a running program. -/
def saveFile (program : Running) (disk : Disk) : IO Unit := do
  let temporary := Config.temporaryPath program.path
  try
    IO.FS.writeFile temporary (program.config.serialized program.path)
    IO.FS.rename temporary program.path
    let disk ← refresh (← refresh disk temporary) program.path
    printLog (program.save disk).2
  catch error =>
    let cause := ConfigError.write program.path (faultOf error)
    printLog (Log.error ("Failed to save configuration: " ++ cause.text))

/-! ## Sockets -/

def toSocketAddress : Endpoint → SocketAddress
  | .v4 ip port =>
    let octet := Bytes.octetAt ip.octets
    .v4 ⟨.ofParts (octet 0) (octet 1) (octet 2) (octet 3), port⟩
  | .v6 ip port =>
    let group := fun index => ip.groups.getD index 0
    .v6 ⟨.ofParts (group 0) (group 1) (group 2) (group 3) (group 4) (group 5) (group 6) (group 7),
      port⟩

def ofSocketAddress : SocketAddress → Endpoint
  | .v4 address =>
    let octets := address.addr.octets.toList
    .v4 (.ofOctets (Bytes.octetAt octets 0) (Bytes.octetAt octets 1) (Bytes.octetAt octets 2)
      (Bytes.octetAt octets 3)) address.port
  | .v6 address => .v6 ⟨address.addr.segments.toList⟩ address.port

/-- The octets of a list, packed. -/
def pack (data : Bytes) : ByteArray := ⟨data.toArray⟩

/-- A service's socket, or why there is none. -/
structure Opening where
  kind : ServiceKind
  bind : Endpoint
  result : Except Fault (UDP.Socket × Endpoint)

def openService (config : Config) (kind : ServiceKind) : IO Opening := do
  let options := kind.options config
  try
    let socket ← UDP.Socket.mk
    socket.bind (toSocketAddress options.bind)
    if options.broadcast then socket.setBroadcast true
    return ⟨kind, options.bind, .ok (socket, ofSocketAddress (← socket.getSockName))⟩
  catch error => return ⟨kind, options.bind, .error (faultOf error)⟩

/-- What the operating system made of the sockets. This network library cannot bind them to
devices. -/
def hostOf (openings : List Opening) : Host where
  bindFault := fun bind => openings.findSome? fun opening =>
    match opening.result with
    | .error cause => if opening.bind = bind then some cause else none
    | .ok _ => none
  deviceFault := fun _ => some (.described .other "Binding to a device is not supported")
  localAddress := fun bind => (openings.findSome? fun opening =>
    match opening.result with
    | .ok (_, address) => if opening.bind = bind then some address else none
    | .error _ => none).getD bind

/-- The port that a probe knocks on. -/
def echoPort : UInt16 := 7

/-- How long a probe waits, in milliseconds. -/
def probePatience : Nat := 400

/-- Does anybody answer at an address? A refused connection is an answer. -/
def isAlive (ip : IPv4) : Async Bool := do
  let knock : Async Bool := do
    try
      let client ← TCP.Socket.Client.mk
      client.connect (toSocketAddress (.v4 ip echoPort))
      return true
    catch error => return (error.toString.splitOn "refused").length == 2
  let silence : Async Bool := do
    sleep (.ofNat probePatience)
    return false
  Async.race knock silence

/-- Handle a datagram for the address service: questions are put to the network one by one, and
the decision is made anew with every answer. -/
partial def inquire (program : Running) (disk : Disk) (source : Endpoint) (data : Bytes)
    (answers : List Bool) : IO (Running × Dhcp.Exchange) := do
  let done := program.serveDhcp disk (.replaying answers) source data
  match done.2.questions.drop answers.length with
  | [] => return done
  | question :: _ =>
    inquire program disk source data (answers ++ [← (isAlive question.ip).block])

/-- Send a reply after the service's delay. -/
def sendReply (service : String) (socket : UDP.Socket) (delay : Option UInt64) (reply : Datagram) :
    IO Unit := do
  try
    if let some delay := delay then (sleep (.ofNat delay.toNat)).block
    (socket.send (pack reply.data) (some (toSocketAddress reply.destination))).block
  catch error =>
    printLog (Log.warning (service ++ " failed to send reply to " ++ reply.destination.toText ++
      ": " ++ error.toString))

/-! ## The loop -/

/-- What a running program waits for. -/
inductive Occasion where
  | datagram (kind : ServiceKind) (source : Endpoint) (data : Bytes)
  | signal (signal : Signal)
  | tick
  deriving Inhabited

abbrev Queue := Std.Channel Occasion

/-- The largest datagram, in octets. -/
def datagramMax : UInt64 := 65536

/-- Put the datagrams of a socket into the queue. -/
partial def watchSocket (queue : Queue) (kind : ServiceKind) (socket : UDP.Socket) :
    Async Unit := do
  try
    let (data, source) ← socket.recv datagramMax
    let source := (source.map ofSocketAddress).getD (.v4 .unspecified 0)
    discard <| queue.send (.datagram kind source data.toList)
  catch error =>
    printLog (Log.warning (kind.name ++ " recv error: " ++ error.toString))
  watchSocket queue kind socket

/-- Put a signal into the queue whenever it comes. -/
partial def watchSignal (queue : Queue) (signal : Signal) (waiter : Std.Async.Signal.Waiter) :
    Async Unit := do
  discard <| Std.Async.await (← waiter.wait)
  discard <| queue.send (.signal signal)
  watchSignal queue signal waiter

/-- Put a tick into the queue at every poll interval of the services. -/
partial def watchClock (queue : Queue) (interval : Nat) : Async Unit := do
  sleep (.ofNat interval)
  discard <| queue.send .tick
  watchClock queue interval

/-- Handle a datagram and send the reply. -/
def onDatagram (program : Running) (disk : Disk) (now : Nat)
    (sockets : List (ServiceKind × UDP.Socket)) (kind : ServiceKind) (source : Endpoint)
    (data : Bytes) : IO (Running × Disk) := do
  let some socket := (sockets.find? fun entry => entry.1 = kind).map (·.2)
    | return (program, disk)
  let delay := (kind.options program.config).replyDelay
  match kind with
  | .dhcp =>
    let disk ← refresh disk (Dhcp.bootPath program.config)
    let (program, exchange) ← inquire program disk source data []
    printLog exchange.log
    printEvents .dhcp (exchange.events.map LeaseEvent.toJson)
    if let some reply := exchange.reply then sendReply kind.name socket delay reply
    return (program, disk)
  | .tftp =>
    let disk ← refreshDatagram program.config.tftp.root disk data
    let (program, exchange) := program.serveTftp disk now source data
    printLog exchange.log
    printEvents .tftp (exchange.events.map TransferEvent.toJson)
    if let some reply := exchange.reply then sendReply kind.name socket delay reply
    return (program, disk)

/-- Look after the sessions. -/
def onTick (program : Running) (now : Nat) : IO Running := do
  let (program, outcome) := program.maintain now
  printLog outcome.log
  printEvents .tftp (outcome.events.map TransferEvent.toJson)
  return program

/-- Serve until a signal ends the program. -/
partial def serveForever (program : Running) (disk : Disk)
    (sockets : List (ServiceKind × UDP.Socket)) (queue : Queue) : IO Running := do
  let occasion ← IO.wait (← queue.recv)
  let now ← IO.monoMsNow
  match occasion with
  | .tick => serveForever (← onTick program now) disk sockets queue
  | .datagram kind source data =>
    let (program, disk) ← onDatagram program disk now sockets kind source data
    serveForever program disk sockets queue
  | .signal .dump =>
    printLog program.dump
    serveForever program disk sockets queue
  | .signal .save =>
    saveFile program disk
    serveForever program disk sockets queue
  | .signal .terminate => return program

/-- The signals that the program obeys, by their names in the system. -/
def obeyed : List (Signal × Std.Async.Signal) :=
  [(.terminate, .sigint), (.terminate, .sigterm), (.dump, .sigusr1), (.save, .sighup)]

/-- The queue of a running program. -/
def openQueue (config : Config) (sockets : List (ServiceKind × UDP.Socket)) : IO Queue := do
  let queue ← Std.Channel.new none
  for (kind, socket) in sockets do
    discard (watchSocket queue kind socket).toIO
  for (signal, number) in obeyed do
    discard (watchSignal queue signal (← Std.Async.Signal.Waiter.mk number true)).toIO
  discard (watchClock queue (ServiceOptions.tftp config).pollInterval).toIO
  return queue

/-- Run the program on a configuration file. -/
def runOn (path : String) : IO UInt32 := do
  let disk ← refresh (← initialDisk) path
  let kinds := match configure disk path with
    | .ok config => (services config).map fun kind => (config, kind)
    | .error _ => []
  let openings ← kinds.mapM fun (config, kind) => openService config kind
  let start := launch (hostOf openings) disk path
  printLog start.log
  printEvents .service (start.events.map ServiceEvent.toJson)
  match start.result with
  | .error breakdown =>
    IO.eprint breakdown.report
    return 1
  | .ok program =>
    let sockets := openings.filterMap fun opening => match opening.result with
      | .ok (socket, _) => some (opening.kind, socket)
      | .error _ => none
    let ended ← serveForever program disk sockets (← openQueue program.config sockets)
    let stop := ended.shutdown
    printLog stop.log
    printEvents .service (stop.events.map ServiceEvent.toJson)
    return 0

end BootServer.Operator

/-- Run the boot server. -/
def main (args : List String) : IO UInt32 := do
  BootServer.Operator.runOn
    (BootServer.Operator.configPath args.head? (← IO.getEnv "NETBOOT_CONFIG"))
