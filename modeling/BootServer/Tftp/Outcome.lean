import BootServer.Config.Basic
import BootServer.Event.Basic
import BootServer.Tftp.Resolve
import BootServer.Tftp.Sessions

/-!
# What becomes of a packet

One packet in, at most one packet out. A request opens a transfer in the session of its client,
acknowledgements move it on, and what fails is answered with an error packet. Files are only ever
read.
-/

namespace BootServer.Tftp

/-- What a packet did before its answer went out. -/
structure Work where
  sessions : Sessions
  result : Except Failure (Option Packet)
  events : List TransferEvent
  log : Log

/-- What became of a packet. -/
structure Outcome where
  sessions : Sessions
  reply : Option Packet
  events : List TransferEvent
  log : Log

namespace Work

/-- Nothing but a failure. -/
def failed (sessions : Sessions) (failure : Failure) : Work := ⟨sessions, .error failure, [], []⟩

end Work

/-- The refusal of everything that would write. -/
def writeRefused : Failure := .accessViolation "Writing is not implemented on this server"

/-- A record about the traffic. -/
def traffic (config : Config) (message : String) : Log :=
  Log.packet config.tftp.logPackets message

/-- The option that asks for a block size. -/
def blockSizeOption : String := "blksize"

/-- The option that asks for the size of the file. -/
def sizeOption : String := "tsize"

/-- The block size that a request settles on, if it asks for one. -/
def requestedBlockSize? (options : Options) : Option UInt16 :=
  (options.lookup blockSizeOption).bind negotiate?

def granted (options : Options) (size : UInt64) : Options :=
  ((requestedBlockSize? options).map fun blockSize =>
      (blockSizeOption, toString blockSize.toNat)).toList ++
    ((options.lookup sizeOption).map fun _ => (sizeOption, toString size.toNat)).toList

/-- Open the file that a request stands for. A file that is not there is reported by its name. -/
def openResolved (disk : Disk) (root : String) (components : List String) :
    Except Failure Transfer :=
  let name := joined components
  match Transfer.open disk name (located root components) with
  | .error (.system cause) =>
    .error (if cause.isNotFound then .fileNotFound name else .system cause)
  | result => result

/-- Open the transfer of a request. -/
def openRequested (config : Config) (disk : Disk) (fileName : String) : Except Failure Transfer :=
  match resolve disk config.tftp.root config.tftp.followMarkers fileName with
  | .error failure => .error failure
  | .ok components => openResolved disk config.tftp.root components

/-- The transfer of a request with the block size that the request settles on. -/
def settled (transfer : Transfer) (options : Options) : Transfer :=
  match requestedBlockSize? options with
  | none => transfer
  | some blockSize => transfer.withBlockSize blockSize

/-- The first packet of a transfer: the granted options, or the first block. -/
def firstPacket (disk : Disk) (transfer : Transfer) (options : Options) :
    Except Failure (Transfer × Packet) :=
  if (granted options transfer.size).isEmpty then transfer.sendBlock disk 1
  else .ok (transfer, .optionAck (granted options transfer.size))

/-- Start the transfer of a file. -/
def launch (disk : Disk) (sessions : Sessions) (client : IPv4) (transfer : Transfer)
    (mode : String) (options : Options) : Work :=
  let events := [.started client transfer.path transfer.size transfer.blockSize]
  let log := Log.info ("TFTP " ++ client.toText ++ " sending " ++ transfer.path ++ " (" ++
    toString transfer.size.toNat ++ " bytes, " ++ toString transfer.blockSize.toNat ++
    "-byte blocks, mode " ++ mode ++ ")")
  match firstPacket disk transfer options with
  | .error failure => ⟨sessions, .error failure, events, log⟩
  | .ok (transfer, packet) =>
    ⟨sessions.setTransfer client (some transfer), .ok (some packet), events, log⟩

/-- A read request ends the client's transfer and starts another. -/
def onRead (config : Config) (disk : Disk) (sessions : Sessions) (client : IPv4)
    (fileName mode : String) (options : Options) : Work :=
  let sessions := sessions.setTransfer client none
  let hops := resolveLog disk config.tftp.root config.tftp.followMarkers fileName
  match openRequested config disk fileName with
  | .error failure => ⟨sessions, .error failure, [], hops⟩
  | .ok transfer =>
    let work := launch disk sessions client (settled transfer options) mode options
    { work with log := hops ++ work.log }

/-- An acknowledgement moves the client's transfer on. -/
def onAck (disk : Disk) (sessions : Sessions) (client : IPv4) (wire : UInt16) : Work :=
  match sessions.transfer? client with
  | none => .failed sessions .unknownTransfer
  | some transfer =>
    match transfer.acknowledge disk wire with
    | .error failure => .failed sessions failure
    | .ok (transfer, outcome) =>
      let sessions := sessions.setTransfer client (some transfer)
      match outcome with
      | .data packet => ⟨sessions, .ok (some packet), [], []⟩
      | .idle => ⟨sessions, .ok none, [], []⟩
      | .completed blocks =>
        ⟨sessions, .ok none, [.completed client transfer.path blocks],
          Log.info ("TFTP " ++ client.toText ++ " received " ++ transfer.path ++ " (" ++
            toString blocks.toNat ++ " blocks)")⟩

/-- An error packet ends the client's session. -/
def onError (sessions : Sessions) (client : IPv4) (code : ErrorCode) (message : String) : Work :=
  ⟨sessions.remove client, .ok none, [],
    Log.info ("TFTP client " ++ client.toText ++ " aborted: " ++ toString code.code.toNat ++ " (" ++
      code.text ++ ") " ++ message)⟩

/-- The work on a packet whose client has a session. -/
def perform (config : Config) (disk : Disk) (sessions : Sessions) (client : IPv4) :
    Packet → Work
  | .readRequest fileName mode options =>
    onRead config disk sessions client fileName mode options
  | .writeRequest .. | .data .. => .failed sessions writeRefused
  | .optionAck _ => onAck disk sessions client 0
  | .ack block => onAck disk sessions client block
  | .error code message => onError sessions client code message

/-- The record of a packet that comes in; data and acknowledgements are not recorded. -/
def receivedLog (config : Config) (client : IPv4) (packet : Packet) : Log :=
  match packet with
  | .data .. | .ack .. => []
  | _ => traffic config ("TFTP " ++ packet.opcode.text ++ " received from " ++ client.toText)

/-- The record of a packet that goes out: only granted options are recorded. -/
def sentLog (config : Config) (client : IPv4) : Packet → Log
  | .optionAck _ =>
    traffic config ("TFTP " ++ Opcode.optionAck.text ++ " sent to " ++ client.toText)
  | _ => []

/-- The record of an error packet. -/
def failureLog (config : Config) (client : IPv4) (failure : Failure) : Log :=
  traffic config ("TFTP " ++ Opcode.error.text ++ " " ++ toString failure.code.code.toNat ++ ":\"" ++
    failure.message ++ "\" sent to " ++ client.toText)

/-- Send what the work came to. -/
def finish (config : Config) (client : IPv4) (work : Work) : Outcome :=
  match work.result with
  | .ok none => ⟨work.sessions, none, work.events, work.log⟩
  | .ok (some packet) =>
    ⟨work.sessions, some packet, work.events, work.log ++ sentLog config client packet⟩
  | .error failure =>
    ⟨work.sessions, some failure.packet,
      work.events ++ [.errorSent client failure.code.code failure.message],
      work.log ++ failureLog config client failure⟩

/-- Handle a packet that comes from a client at some time. -/
def handle (config : Config) (disk : Disk) (sessions : Sessions) (now : Nat) (client : IPv4)
    (port : UInt16) (packet : Packet) : Outcome :=
  let outcome := finish config client
    (perform config disk (sessions.touch client port now) client packet)
  { outcome with log := receivedLog config client packet ++ outcome.log }

/-- Drop the sessions that are idle for too long. -/
def pruneIdle (sessions : Sessions) (now : Nat) : Outcome :=
  let kept := sessions.prune now
  let count := sessions.size - kept.size
  if count = 0 then ⟨kept, none, [], []⟩
  else
    ⟨kept, none, [.pruned (UInt64.ofNat count)],
      Log.debug ("Pruned " ++ toString count ++ " idle TFTP sessions")⟩

def initialSessions (config : Config) : Sessions :=
  .empty (config.tftp.sessionTimeout.toNat * 1000)

end BootServer.Tftp
