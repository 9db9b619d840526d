import BootServer.Dhcp.Outcome
import BootServer.Net.Datagram

/-!
# Exchanges of the address service

Datagrams in, datagrams out. Clients have no address yet, so every reply is broadcast to the
client port. What is no DHCP packet is dropped.
-/

namespace BootServer.Dhcp

/-- What became of a datagram. -/
structure Exchange where
  leases : Leases
  reply : Option Datagram
  events : List LeaseEvent
  questions : List Question
  log : Log

/-- A dump for the operator, where packet logging is on. -/
def dumpLog (config : Config) (message : String) : Log :=
  if config.dhcp.logPackets then Log.info message else []

def replyDatagram (config : Config) (reply : Packet) : Datagram :=
  ⟨.v4 .broadcast config.dhcp.clientPort, reply.encode⟩

def serve (config : Config) (disk : Disk) (probe : Probe) (leases : Leases) (source : Endpoint)
    (data : Bytes) : Exchange :=
  match Packet.parse data with
  | .error error =>
    ⟨leases, none, [], [],
      Log.debug ("Invalid DHCP packet from " ++ source.toText ++ ": " ++ error.text)⟩
  | .ok packet =>
    let outcome := handle config disk probe leases packet
    let received :=
      dumpLog config ("DHCP packet from " ++ source.toText ++ ":\n" ++ packet.describe)
    let sent := match outcome.reply with
      | none => []
      | some reply => dumpLog config ("DHCP reply:\n" ++ reply.describe)
    { leases := outcome.leases
      reply := outcome.reply.map (replyDatagram config)
      events := outcome.events
      questions := outcome.questions
      log := received ++ outcome.log ++ sent }

end BootServer.Dhcp
