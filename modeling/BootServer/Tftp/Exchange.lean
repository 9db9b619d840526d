import BootServer.Net.Datagram
import BootServer.Tftp.Outcome

/-!
# Exchanges of the file service

Datagrams in, datagrams out: a reply goes back to where the request came from. What is no packet,
or does not come from an IPv4 address, is dropped.
-/

namespace BootServer.Tftp

/-- What became of a datagram. -/
structure Exchange where
  sessions : Sessions
  reply : Option Datagram
  events : List TransferEvent
  log : Log

/-- Handle a datagram that comes in at some time. -/
def serve (config : Config) (disk : Disk) (sessions : Sessions) (now : Nat) (source : Endpoint)
    (data : Bytes) : Exchange :=
  match source with
  | .v6 .. =>
    ⟨sessions, none, [],
      Log.debug ("Ignoring TFTP packet from non-IPv4 peer " ++ source.toText)⟩
  | .v4 client port =>
    match Packet.parse data with
    | .error cause =>
      ⟨sessions, none, [], Log.debug ("Invalid TFTP packet from " ++ source.toText ++ ": " ++
        (Failure.invalidPacket cause).text)⟩
    | .ok packet =>
      let outcome := handle config disk sessions now client port packet
      { sessions := outcome.sessions
        reply := outcome.reply.map fun reply => ⟨source, reply.encode⟩
        events := outcome.events
        log := outcome.log }

end BootServer.Tftp
