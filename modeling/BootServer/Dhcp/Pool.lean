import BootServer.Config.Basic
import BootServer.Dhcp.Leases

/-!
# The address pool

A pool hands out the addresses of a window. An address is free for a client that holds it, or when
nobody holds it, it is not the server's own, and nobody answers there. Asking takes time, so every
question is part of the result.
-/

namespace BootServer.Dhcp

/-- The liveness probe: does anybody answer at an address? The first argument says how many
questions were asked before while the same packet was handled. -/
abbrev Probe := Nat → IPv4 → Bool

/-- A question to the probe and its answer. -/
structure Question where
  ip : IPv4
  alive : Bool
  deriving DecidableEq, Repr

namespace Question

/-- What the operator is told about questions: only where somebody answered. -/
def logs (questions : List Question) : Log :=
  (questions.filter (·.alive)).flatMap fun question =>
    Log.debug (question.ip.toText ++ " answered the liveness probe")

end Question

namespace Probe

/-- Nobody ever answers. -/
def nobody : Probe := fun _ _ => false

/-- Exactly the given addresses answer. -/
def answering (alive : List IPv4) : Probe := fun _ ip => alive.contains ip

/-- Questions have the given answers in turn; later ones are answered by nobody. -/
def replaying (answers : List Bool) : Probe := fun asked _ => answers.getD asked false

end Probe

/-- The addresses that a server hands out. -/
structure Pool where
  base : IPv4
  offset : UInt32
  length : UInt32
  mask : IPv4
  /-- Serve only addresses on the subnet of `base`. -/
  enforceSubnet : Bool
  /-- The server's own address. -/
  server : IPv4
  deriving DecidableEq, Repr

/-- How an address stands to a client, as far as the records say. -/
inductive Standing where
  | held
  | taken
  | reserved
  | unclaimed
  deriving DecidableEq, Repr

namespace Pool

def ofConfig (config : Config) : Pool where
  base := config.dhcp.poolBase
  offset := config.dhcp.poolOffset
  length := config.dhcp.poolLength
  mask := config.dhcp.subnetMask
  enforceSubnet := config.dhcp.enforceSubnet
  server := config.address

/-- The greatest 32-bit number; the window ends below it. -/
def wordMax : Nat := 4294967295

/-- The number of the first address of the window. -/
def start (pool : Pool) : Nat := min (pool.base.toNat + pool.offset.toNat) wordMax

/-- The number after the last address of the window. -/
def finish (pool : Pool) : Nat := min (pool.start + pool.length.toNat) wordMax

/-- How many addresses the window has. -/
def size (pool : Pool) : Nat := pool.finish - pool.start

/-- The first addresses of the window in ascending order, `count` of them or all. -/
def firstAddresses (pool : Pool) (count : Nat) : List IPv4 :=
  (List.range' pool.start (min count pool.size)).map IPv4.ofNat

/-- All addresses of the window in ascending order. -/
def window (pool : Pool) : List IPv4 := pool.firstAddresses pool.size

/-- Is an address in the window? -/
def contains (pool : Pool) (ip : IPv4) : Bool := pool.start ≤ ip.toNat && ip.toNat < pool.finish

/-- The address of the subnet. -/
def network (pool : Pool) : IPv4 := pool.base.masked pool.mask

/-- Is an address on the served subnet? Any is, when the subnet is not enforced. -/
def isValid (pool : Pool) (ip : IPv4) : Bool :=
  !pool.enforceSubnet || ip.masked pool.mask == pool.network

/-- How an address stands to a client. -/
def standing (pool : Pool) (leases : Leases) (ip : IPv4) (client : String) : Standing :=
  match leases.holder ip with
  | some holder => if holder = client then .held else .taken
  | none => if ip = pool.server then .reserved else .unclaimed

/-- Is an address free for a client? The probe is asked about unclaimed addresses only. -/
def isAvailable (pool : Pool) (leases : Leases) (probe : Probe) (asked : Nat) (ip : IPv4)
    (client : String) : Bool × List Question :=
  match pool.standing leases ip client with
  | .held => (true, [])
  | .taken | .reserved => (false, [])
  | .unclaimed => (!probe asked ip, [⟨ip, probe asked ip⟩])

/-- The first free one of `count` addresses from `number` on, and the questions asked. -/
def search (pool : Pool) (leases : Leases) (probe : Probe) (client : String) :
    (count number asked : Nat) → Option IPv4 × List Question
  | 0, _, _ => (none, [])
  | count + 1, number, asked =>
    let ip := IPv4.ofNat number
    match pool.isAvailable leases probe asked ip client with
    | (true, questions) => (some ip, questions)
    | (false, questions) =>
      let later := search pool leases probe client count (number + 1) (asked + questions.length)
      (later.1, questions ++ later.2)

/-- The address for a client: the one it has, or else the first free one of the window. -/
def allocate (pool : Pool) (leases : Leases) (probe : Probe) (asked : Nat) (client : String) :
    Option IPv4 × List Question :=
  match leases.addressOf client with
  | some ip => (some ip, [])
  | none => pool.search leases probe client pool.size pool.start asked

end Pool

end BootServer.Dhcp
