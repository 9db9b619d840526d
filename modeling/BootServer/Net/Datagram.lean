import BootServer.Net.Endpoint

/-!
# Datagrams
-/

namespace BootServer

/-- Octets on their way to a peer. -/
structure Datagram where
  destination : Endpoint
  data : Bytes
  deriving DecidableEq, Repr

end BootServer
