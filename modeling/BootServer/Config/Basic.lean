import BootServer.Net.Address

/-!
# The configuration of a boot server

One value that both services read and neither changes. An address of 0.0.0.0 and an empty text mean
"not configured".
-/

namespace BootServer

/-- Settings of the address service. -/
structure DhcpSettings where
  enabled : Bool := true
  /-- Show every packet to the operator. -/
  logPackets : Bool := false
  /-- Refuse requests for addresses off the served subnet aloud. -/
  authoritative : Bool := true
  serverPort : UInt16 := 67
  clientPort : UInt16 := 68
  poolBase : IPv4 := .unspecified
  poolOffset : UInt32 := 0
  poolLength : UInt32 := 0
  subnetMask : IPv4 := .unspecified
  enforceSubnet : Bool := true
  /-- Answer only requests that carry the broadcast flag. -/
  broadcastsOnly : Bool := true
  /-- How long a reply is held back, in milliseconds. -/
  replyDelay : UInt64 := 0
  timeServer : IPv4 := .unspecified
  gateway : IPv4 := .unspecified
  nameServer : IPv4 := .unspecified
  domain : String := ""
  bootServer : IPv4 := .unspecified
  deriving DecidableEq, Repr

/-- Settings of the file service. -/
structure TftpSettings where
  enabled : Bool := true
  serverPort : UInt16 := 69
  /-- Show every packet to the operator. -/
  logPackets : Bool := false
  /-- The directory that holds the boot files. -/
  root : String := "/tftp"
  /-- Follow small text files that hold a relative path. -/
  followMarkers : Bool := true
  /-- How long an idle session lives, in seconds. -/
  sessionTimeout : UInt64 := 300
  deriving DecidableEq, Repr

/-- The configuration of a boot server. -/
structure Config where
  /-- The network device that the sockets are bound to; empty for any. -/
  interface : String := ""
  /-- The address of this server on the boot network. -/
  address : IPv4 := .unspecified
  dhcp : DhcpSettings := {}
  tftp : TftpSettings := {}
  /-- The boot image offered to clients, seen from the directory of boot files. -/
  bootFile : String := "pxelinux.0"
  /-- The size announced for the boot image; 0 for the size of the file. -/
  bootFileSize : UInt32 := 0
  deriving DecidableEq, Repr

namespace Config

/-- The configuration of an empty file. -/
def default : Config := {}

instance : Inhabited Config := ⟨default⟩

/-- The network device to bind to, if one is configured. -/
def interface? (config : Config) : Option String :=
  if config.interface.isEmpty then none else some config.interface

/-- How long a reply is held back, in milliseconds, if at all. -/
def replyDelay? (config : Config) : Option UInt64 :=
  if config.dhcp.replyDelay = 0 then none else some config.dhcp.replyDelay

end Config

end BootServer
