import BootServer.Config.Basic
import BootServer.Dhcp.Packet
import BootServer.Log
import BootServer.Storage.Disk

/-!
# The contents of offers, acknowledgements and refusals

An answer lists what the client asked for, as far as it is configured, then the boot file with its
size and server, then the lease times and the client's identifier.
-/

namespace BootServer.Dhcp

/-- Lease, renewal and rebinding time: ten days, in seconds. -/
def leaseSeconds : UInt32 := 864000

/-- The unit of the announced boot file size, in octets. -/
def bootBlock : Nat := 512

/-- The greatest announced boot file size, in units. -/
def bootBlocksMax : Nat := 65535

/-- The address 127.0.0.1 in a configuration stands for the server's own. -/
def forwarded (config : Config) (ip : IPv4) : IPv4 :=
  if ip = .loopback then config.address else ip

/-- The server of the boot file: this one when it serves files and no other is configured, or
else the configured one. -/
def bootServer? (config : Config) : Option IPv4 :=
  let configured := config.dhcp.bootServer
  if config.tftp.enabled && !config.address.isUnspecified &&
      (configured.isUnspecified || configured == config.address) then some config.address
  else configured.specified?

/-- The answer to one requested code, if there is one. -/
def requestedItem? (config : Config) (code : UInt8) : Option Item :=
  if code = Code.subnetMask then config.dhcp.subnetMask.specified?.map (Item.ofAddress code)
  else if code = Code.router then
    config.dhcp.gateway.specified?.map fun ip => Item.ofAddress code (forwarded config ip)
  else if code = Code.nameServer then
    config.dhcp.nameServer.specified?.map fun ip => Item.ofAddress code (forwarded config ip)
  else if code = Code.domainName then
    if config.dhcp.domain.isEmpty then none else some (Item.ofText code config.dhcp.domain)
  else if code = Code.timeServer then
    config.dhcp.timeServer.specified?.map fun ip => Item.ofAddress code (forwarded config ip)
  else none

/-- The answers to the requested codes, in the client's order. -/
def requestedItems (config : Config) (packet : Packet) : List Item :=
  packet.parameterRequests.filterMap (requestedItem? config)

/-- Where the boot file lies. -/
def bootPath (config : Config) : String :=
  Path.push config.tftp.root (String.ofList (config.bootFile.toList.dropWhile (· == '/')))

def storedBootSize? (config : Config) (disk : Disk) : Option Nat :=
  (disk.file? (bootPath config)).map fun id => (disk.content id).length

/-- The size of the boot file: the configured one, or else the one on disk. -/
def bootSize? (config : Config) (disk : Disk) : Option Nat :=
  if config.bootFileSize ≠ 0 then some config.bootFileSize.toNat else storedBootSize? config disk

/-- A size in whole units, as far as the field reaches. -/
def bootBlocks (size : Nat) : UInt16 :=
  UInt16.ofNat (min ((size + (bootBlock - 1)) / bootBlock) bootBlocksMax)

/-- The name, size and server of the boot file. -/
def bootItems (config : Config) (disk : Disk) : List Item :=
  if config.bootFile.isEmpty then []
  else
    Item.ofTerminatedText Code.bootFile config.bootFile ::
      (((bootSize? config disk).map fun size =>
          Item.ofUInt16 Code.bootFileSize (bootBlocks size)).toList ++
        ((bootServer? config).map fun ip => Item.ofText Code.bootServer ip.toText).toList)

/-- The note that the boot file has no size to announce. -/
def bootLog (config : Config) (disk : Disk) : Log :=
  if config.bootFile.isEmpty || (bootSize? config disk).isSome then []
  else Log.debug ("Boot file " ++ bootPath config ++ " not found, size not advertised")

def leaseItems (config : Config) : List Item :=
  [.serverIdentifier config.address, .rebindingTime leaseSeconds, .renewalTime leaseSeconds,
    .leaseTime leaseSeconds]

/-- An offer or acknowledgement of an address. -/
def grant (config : Config) (disk : Disk) (packet : Packet) (kind : MessageType)
    (ip clientAddress : IPv4) : Packet :=
  let server := bootServer? config
  let reply := packet.reply kind.code ip (server.getD .unspecified) clientAddress
    (requestedItems config packet ++ bootItems config disk ++ leaseItems config ++
      [packet.clientIdentifier])
  if config.bootFile.isEmpty then reply
  else
    let reply := reply.withBootFile config.bootFile
    match server with
    | some ip => reply.withServerName ip.toText
    | none => reply

def refusal (config : Config) (packet : Packet) : Packet :=
  packet.reply MessageType.nak.code .unspecified .unspecified .unspecified
    [.serverIdentifier config.address, packet.clientIdentifier]

end BootServer.Dhcp
