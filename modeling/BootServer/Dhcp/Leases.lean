import BootServer.Log
import BootServer.Net.Address
import BootServer.Table
import BootServer.Text.Column

/-!
# The lease table

A lease binds a client to an address for good. The table is indexed both ways, and `assign` keeps
the two indexes inverse to each other: a client that moves gives its old address back, and a
client whose address is handed to another one loses its lease.
-/

namespace BootServer.Dhcp

/-- A client's hold on an address. -/
structure Lease where
  client : String
  ip : IPv4
  deriving DecidableEq, Repr

/-- The leases, by client and by address. -/
structure Leases where
  byClient : Table String IPv4
  byAddress : Table IPv4 String

/-- What an assignment did. -/
inductive Assignment where
  | fresh
  | reassigned (previous : IPv4)
  | unchanged
  deriving DecidableEq, Repr

namespace Leases

def empty : Leases := ⟨Table.empty, Table.empty⟩

/-- The address of a client. -/
def addressOf (leases : Leases) (client : String) : Option IPv4 := leases.byClient.get? client

/-- The client that holds an address. -/
def holder (leases : Leases) (ip : IPv4) : Option String := leases.byAddress.get? ip

/-- What an assignment is going to do. -/
def outcome (leases : Leases) (client : String) (ip : IPv4) : Assignment :=
  match leases.addressOf client with
  | none => .fresh
  | some previous => if previous = ip then .unchanged else .reassigned previous

/-- The leases by client once an address is taken from whoever holds it. -/
def withoutHolder (leases : Leases) (ip : IPv4) : Table String IPv4 :=
  match leases.holder ip with
  | some other => leases.byClient.erase other
  | none => leases.byClient

/-- The leases by address once a client has given its address back. -/
def withoutClient (leases : Leases) (client : String) : Table IPv4 String :=
  match leases.addressOf client with
  | some previous => leases.byAddress.erase previous
  | none => leases.byAddress

/-- Record that a client holds an address. -/
def assign (leases : Leases) (client : String) (ip : IPv4) : Leases :=
  match leases.outcome client ip with
  | .unchanged => leases
  | _ => ⟨(leases.withoutHolder ip).insert client ip, (leases.withoutClient client).insert ip client⟩

/-- The warning that an address changes hands. -/
def takeoverLog (leases : Leases) (client : String) (ip : IPv4) : Log :=
  match leases.holder ip with
  | none => []
  | some other =>
    Log.warning (ip.toText ++ " was leased to " ++ other ++ ", handing it to " ++ client)

/-- What the operator is told about an assignment. -/
def assignLog (leases : Leases) (client : String) (ip : IPv4) : Log :=
  match leases.outcome client ip with
  | .unchanged => []
  | .fresh =>
    leases.takeoverLog client ip ++ Log.info ("Assigning " ++ ip.toText ++ " to " ++ client)
  | .reassigned previous =>
    leases.takeoverLog client ip ++
      Log.info ("Re-assigning " ++ ip.toText ++ " to " ++ client ++ " (was " ++ previous.toText ++ ")")

def size (leases : Leases) : Nat := leases.byClient.size

def isEmpty (leases : Leases) : Bool := leases.size == 0

/-- All leases in ascending order of their addresses. -/
def toList (leases : Leases) : List Lease :=
  (leases.byAddress.entries.map fun entry => ⟨entry.2, entry.1⟩).mergeSort fun a b =>
    a.ip.atMost b.ip

end Leases

namespace Lease

def line (lease : Lease) : String := Text.padRight 15 lease.ip.toText ++ " " ++ lease.client

def listing (leases : List Lease) : String :=
  if leases.isEmpty then "no leases" else String.intercalate "\n" (leases.map line)

end Lease

end BootServer.Dhcp
