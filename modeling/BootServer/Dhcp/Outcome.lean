import BootServer.Dhcp.Answer
import BootServer.Dhcp.Verdict
import BootServer.Event.Basic

/-!
# What becomes of a packet

The verdict on a packet is carried out: leases are recorded, replies are made, decisions are
announced. Only an offer and an acknowledgement touch the lease table, and only the lease of their
client.
-/

namespace BootServer.Dhcp

/-- What became of a packet. -/
structure Outcome where
  leases : Leases
  reply : Option Packet
  events : List LeaseEvent
  questions : List Question
  log : Log

/-- The announcement of a change of the lease table. -/
def assignmentEvents (leases : Leases) (client : String) (ip : IPv4) : List LeaseEvent :=
  match leases.outcome client ip with
  | .unchanged => []
  | .fresh => [.assigned client ip none]
  | .reassigned previous => [.assigned client ip (some previous)]

/-- Record a lease and answer with it. -/
def settleGrant (config : Config) (disk : Disk) (leases : Leases) (packet : Packet)
    (decision : Decision) (kind : MessageType) (ip clientAddress : IPv4) (event : LeaseEvent) :
    Outcome :=
  let client := packet.clientKey
  { leases := leases.assign client ip
    reply := some (grant config disk packet kind ip clientAddress)
    events := assignmentEvents leases client ip ++ [event]
    questions := decision.questions
    log := decision.log ++ leases.assignLog client ip ++
      Log.info (kind.name ++ " " ++ ip.toText ++ " to " ++ clientText packet) ++
      bootLog config disk }

/-- Carry out a decision. An offer has no client address, an acknowledgement echoes it. -/
def settle (config : Config) (disk : Disk) (leases : Leases) (packet : Packet)
    (decision : Decision) : Outcome :=
  let client := packet.clientKey
  match decision.verdict with
  | .silence => ⟨leases, none, [], decision.questions, decision.log⟩
  | .ignore reason =>
    ⟨leases, none, [.ignored client reason.text], decision.questions, decision.log⟩
  | .refuse reason =>
    ⟨leases, some (refusal config packet), [.refused client reason.text], decision.questions,
      decision.log⟩
  | .exhausted => ⟨leases, none, [.exhausted client], decision.questions, decision.log⟩
  | .offer ip =>
    settleGrant config disk leases packet decision .offer ip .unspecified (.offered client ip)
  | .acknowledge ip =>
    settleGrant config disk leases packet decision .ack ip packet.clientAddress
      (.acknowledged client ip)

/-- Handle a packet. -/
def handle (config : Config) (disk : Disk) (probe : Probe) (leases : Leases) (packet : Packet) :
    Outcome :=
  settle config disk leases packet (verdict config leases probe packet)

end BootServer.Dhcp
