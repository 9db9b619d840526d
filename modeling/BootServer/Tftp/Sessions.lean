import BootServer.Net.Address
import BootServer.Table
import BootServer.Tftp.Transfer

/-!
# Sessions

There is one session per client address, whatever ports the client uses. Times are milliseconds of
a clock that never runs backwards.
-/

namespace BootServer.Tftp

/-- What is kept of a client. -/
structure Session where
  /-- The port that the latest packet came from. -/
  port : UInt16
  /-- When the latest packet came. -/
  lastSeen : Nat
  transfer : Option Transfer
  deriving DecidableEq, Repr

/-- The sessions of all clients. -/
structure Sessions where
  table : Table IPv4 Session
  /-- How long a session may be idle. -/
  timeout : Nat

namespace Session

/-- How long a session has been idle. -/
def idle (session : Session) (now : Nat) : Nat := now - session.lastSeen

end Session

namespace Sessions

def empty (timeout : Nat) : Sessions := ⟨Table.empty, timeout⟩

/-- The session of a client. -/
def get? (sessions : Sessions) (client : IPv4) : Option Session := sessions.table.get? client

def transfer? (sessions : Sessions) (client : IPv4) : Option Transfer :=
  (sessions.get? client).bind (·.transfer)

/-- Note a packet of a client, which starts a session if there is none. -/
def touch (sessions : Sessions) (client : IPv4) (port : UInt16) (now : Nat) : Sessions :=
  { sessions with
    table := sessions.table.insert client ⟨port, now, sessions.transfer? client⟩ }

/-- Put a transfer, or none, into a client's session, if there is one. -/
def setTransfer (sessions : Sessions) (client : IPv4) (transfer : Option Transfer) : Sessions :=
  match sessions.get? client with
  | none => sessions
  | some session =>
    { sessions with table := sessions.table.insert client { session with transfer := transfer } }

def remove (sessions : Sessions) (client : IPv4) : Sessions :=
  { sessions with table := sessions.table.erase client }

def size (sessions : Sessions) : Nat := sessions.table.size

/-- Keep the sessions that are not idle for longer than they may. -/
def prune (sessions : Sessions) (now : Nat) : Sessions :=
  { sessions with table := sessions.table.keepIf fun session => session.idle now ≤ sessions.timeout }

/-- How many sessions pruning drops. -/
def pruneCount (sessions : Sessions) (now : Nat) : Nat := sessions.size - (sessions.prune now).size

def clear (sessions : Sessions) : Sessions := { sessions with table := Table.empty }

/-- All sessions in ascending order of the clients' addresses. -/
def toList (sessions : Sessions) : List (IPv4 × Session) :=
  sessions.table.entries.mergeSort fun a b => a.1.atMost b.1

end Sessions

end BootServer.Tftp
