import BootServer.Dhcp.Packet
import BootServer.Dhcp.Pool

/-!
# What is to be done about a packet

The verdict on a packet is found with a look at the lease table and questions to the probe; nothing
is changed. A client gets the address that it names if that address is on the served subnet and
free for it; a client that merely looks around gets another one otherwise.
-/

namespace BootServer.Dhcp

/-- Why a request is refused or ignored. -/
inductive Reason where
  | otherServer (ip : IPv4)
  | offSubnet
  | unresolved
  deriving DecidableEq, Repr

namespace Reason

def text : Reason → String
  | otherServer ip => "addressed to server " ++ ip.toText
  | offSubnet => "requested address off subnet"
  | unresolved => "no address could be resolved"

end Reason

/-- What is to be done about a packet. -/
inductive Verdict where
  | silence
  | ignore (reason : Reason)
  | refuse (reason : Reason)
  | exhausted
  | offer (ip : IPv4)
  | acknowledge (ip : IPv4)
  deriving DecidableEq, Repr

/-- A verdict, the questions that led to it, and what the operator was told on the way. -/
structure Decision where
  verdict : Verdict
  questions : List Question
  log : Log

namespace Decision

/-- A verdict without questions. -/
def plain (verdict : Verdict) (log : Log) : Decision := ⟨verdict, [], log⟩

/-- The decision with something told before it. -/
def after (decision : Decision) (log : Log) : Decision :=
  { decision with log := log ++ decision.log }

end Decision

/-- How log lines name the sender of a packet. -/
def clientText (packet : Packet) : String :=
  "client <hwaddress=" ++ packet.clientKey ++
    (match packet.hostName? with
      | some name => "; hostname=" ++ name
      | none => "") ++ ">"

/-- A record about the traffic. -/
def traffic (config : Config) (message : String) : Log :=
  Log.packet config.dhcp.logPackets message

/-- The decision about a client that names an address off the subnet. -/
def offSubnet (config : Config) (packet : Packet) (ip : IPv4) : Decision :=
  let pool := Pool.ofConfig config
  let warning := Log.warning ("Requested IP " ++ ip.toText ++ " is not on enforced subnet " ++
    pool.network.toText ++ "/" ++ pool.mask.toText ++ " for " ++ clientText packet)
  if config.dhcp.authoritative then
    .plain (.refuse .offSubnet) (warning ++
      Log.warning ("DHCPNAK to " ++ packet.clientKey ++ ": " ++ Reason.offSubnet.text))
  else .plain (.ignore .offSubnet) warning

/-- Choose an address for a client from the pool, after some questions. -/
def offerAny (config : Config) (leases : Leases) (probe : Probe) (packet : Packet)
    (asked : List Question) : Decision :=
  let (found, questions) :=
    (Pool.ofConfig config).allocate leases probe asked.length packet.clientKey
  match found with
  | some ip =>
    ⟨.offer ip, asked ++ questions, Question.logs questions⟩
  | none =>
    ⟨.exhausted, asked ++ questions, Question.logs questions ++
      Log.error ("Failed to allocate IP for " ++ clientText packet ++ ": pool exhausted")⟩

/-- The decision about a client that looks for an address: the one it names, if it is free. -/
def onDiscover (config : Config) (leases : Leases) (probe : Probe) (packet : Packet) : Decision :=
  let pool := Pool.ofConfig config
  match packet.requestedAddress?.bind IPv4.specified? with
  | none => offerAny config leases probe packet []
  | some ip =>
    if !pool.isValid ip then offSubnet config packet ip
    else
      let (free, questions) := pool.isAvailable leases probe 0 ip packet.clientKey
      if free then ⟨.offer ip, questions, []⟩
      else
        (offerAny config leases probe packet questions).after (Question.logs questions ++
          Log.warning ("Requested IP " ++ ip.toText ++ " is already in use, not assigning it to " ++
            clientText packet))

/-- The server that a request is meant for: 0.0.0.0 for any. -/
def intendedServer (packet : Packet) : IPv4 :=
  packet.serverIdentifier?.getD packet.serverAddress

/-- The address that a request is about. -/
def claimedAddress? (packet : Packet) : Option IPv4 :=
  if packet.clientAddress.isUnspecified then packet.requestedAddress?.bind IPv4.specified?
  else some packet.clientAddress

/-- The refusal of a request that names no address it could have. -/
def unresolved (packet : Packet) (questions : List Question) : Decision :=
  ⟨.refuse .unresolved, questions,
    Log.warning ("DHCPNAK to " ++ clientText packet ++ ": " ++ Reason.unresolved.text)⟩

/-- The decision about a client that claims an address. -/
def onClaim (config : Config) (leases : Leases) (probe : Probe) (packet : Packet) : Decision :=
  let pool := Pool.ofConfig config
  match claimedAddress? packet with
  | none => unresolved packet []
  | some ip =>
    if !pool.isValid ip then offSubnet config packet ip
    else
      let (free, questions) := pool.isAvailable leases probe 0 ip packet.clientKey
      if free then ⟨.acknowledge ip, questions, []⟩
      else
        (unresolved packet questions).after (Question.logs questions ++
          Log.warning ("Requested IP " ++ ip.toText ++ " is already taken, requested by " ++
            clientText packet))

/-- The decision about a request. -/
def onRequest (config : Config) (leases : Leases) (probe : Probe) (packet : Packet) : Decision :=
  let server := intendedServer packet
  if !server.isUnspecified && server != config.address then
    .plain (.ignore (.otherServer server)) (Log.info ("DHCPREQUEST from " ++ clientText packet ++
      " to " ++ server.toText ++ " (ignored)"))
  else
    (onClaim config leases probe packet).after
      (traffic config ("DHCPREQUEST from " ++ clientText packet))

/-- The decision about a packet. -/
def verdict (config : Config) (leases : Leases) (probe : Probe) (packet : Packet) : Decision :=
  if packet.op ≠ Packet.requestOp then
    .plain .silence (Log.debug ("Ignoring DHCP packet with op " ++ toString packet.op.toNat))
  else if config.dhcp.broadcastsOnly && !packet.isBroadcast then
    .plain .silence
      (traffic config ("Ignoring packet without broadcast bit from " ++ clientText packet))
  else match packet.messageCode? with
    | none =>
      .plain .silence
        (Log.debug ("Ignoring packet without message type from " ++ clientText packet))
    | some code =>
      match MessageType.ofCode? code with
      | some .discover =>
        (onDiscover config leases probe packet).after
          (traffic config ("DHCPDISCOVER from " ++ clientText packet))
      | some .request => onRequest config leases probe packet
      | _ =>
        .plain .silence
          (Log.debug ("Ignoring " ++ MessageType.nameOf code ++ " from " ++ clientText packet))

end BootServer.Dhcp
