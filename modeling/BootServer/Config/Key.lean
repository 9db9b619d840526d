import BootServer.Config.Basic
import BootServer.Text.Blank
import BootServer.Text.Lowercase

/-!
# The keys of a configuration file

Every setting has a key, a kind of value, and a text form. `Config.get` and `Config.set` reach the
setting of a key: setting one key changes what that key gives and nothing else.
-/

namespace BootServer

/-- How the text of a setting is described to the operator. -/
inductive Format where
  | flag
  | number
  | text
  | address
  deriving DecidableEq, Repr

namespace Format

def describe : Format → String
  | flag => "true/false"
  | number => "a number"
  | text => "text"
  | address => "a dotted-decimal address"

/-- All forms. -/
def all : List Format := [flag, number, text, address]

end Format

/-- The kinds of settings. -/
inductive Kind where
  | flag
  | word16
  | word32
  | word64
  | text
  | address
  deriving DecidableEq, Repr

namespace Kind

abbrev Value : Kind → Type
  | flag => Bool
  | word16 => UInt16
  | word32 => UInt32
  | word64 => UInt64
  | text => String
  | address => IPv4

instance : (kind : Kind) → DecidableEq kind.Value
  | flag => inferInstanceAs (DecidableEq Bool)
  | word16 => inferInstanceAs (DecidableEq UInt16)
  | word32 => inferInstanceAs (DecidableEq UInt32)
  | word64 => inferInstanceAs (DecidableEq UInt64)
  | text => inferInstanceAs (DecidableEq String)
  | address => inferInstanceAs (DecidableEq IPv4)

/-- The form of a kind's text. -/
def format : Kind → Format
  | flag => .flag
  | word16 | word32 | word64 => .number
  | text => .text
  | address => .address

/-- A flag's text, in any case. -/
def flag? (text : String) : Option Bool :=
  let word := Text.lowercase text
  if word ∈ ["true", "1", "yes", "on"] then some true
  else if word ∈ ["false", "0", "no", "off"] then some false
  else none

def parse? : (kind : Kind) → String → Option kind.Value
  | flag, input => flag? input
  | word16, input => (Text.unsigned? (UInt16.size - 1) input.toList).map UInt16.ofNat
  | word32, input => (Text.unsigned? (UInt32.size - 1) input.toList).map UInt32.ofNat
  | word64, input => (Text.unsigned? (UInt64.size - 1) input.toList).map UInt64.ofNat
  | text, input => some input
  | address, input => IPv4.ofText? input

def render : (kind : Kind) → kind.Value → String
  | flag, value => if value then "true" else "false"
  | word16, value => String.ofList (Text.digits value.toNat)
  | word32, value => String.ofList (Text.digits value.toNat)
  | word64, value => String.ofList (Text.digits value.toNat)
  | text, value => value
  | address, value => value.toText

end Kind

/-- The settings of a configuration file. -/
inductive Key where
  | interface
  | address
  | dhcpEnabled
  | dhcpLogPackets
  | dhcpAuthoritative
  | dhcpServerPort
  | dhcpClientPort
  | dhcpPoolBase
  | dhcpPoolOffset
  | dhcpPoolLength
  | dhcpSubnetMask
  | dhcpEnforceSubnet
  | dhcpBroadcastsOnly
  | dhcpReplyDelay
  | dhcpTimeServer
  | dhcpGateway
  | dhcpNameServer
  | dhcpDomain
  | dhcpBootServer
  | tftpEnabled
  | tftpServerPort
  | tftpLogPackets
  | tftpRoot
  | tftpFollowMarkers
  | tftpSessionTimeout
  | bootFile
  | bootFileSize
  deriving DecidableEq, Repr

namespace Key

/-- All keys, in the order of a file. -/
def all : List Key :=
  [interface, address, dhcpEnabled, dhcpLogPackets, dhcpAuthoritative, dhcpServerPort,
    dhcpClientPort, dhcpPoolBase, dhcpPoolOffset, dhcpPoolLength, dhcpSubnetMask,
    dhcpEnforceSubnet, dhcpBroadcastsOnly, dhcpReplyDelay, dhcpTimeServer, dhcpGateway,
    dhcpNameServer, dhcpDomain, dhcpBootServer, tftpEnabled, tftpServerPort, tftpLogPackets,
    tftpRoot, tftpFollowMarkers, tftpSessionTimeout, bootFile, bootFileSize]

def name : Key → String
  | interface => "network_interface"
  | address => "network_address"
  | dhcpEnabled => "dhcp_enabled"
  | dhcpLogPackets => "dhcp_log_packets"
  | dhcpAuthoritative => "dhcp_authoritative"
  | dhcpServerPort => "dhcp_server_port"
  | dhcpClientPort => "dhcp_client_port"
  | dhcpPoolBase => "dhcp_pool_address"
  | dhcpPoolOffset => "dhcp_pool_offset"
  | dhcpPoolLength => "dhcp_pool_length"
  | dhcpSubnetMask => "dhcp_subnet_mask"
  | dhcpEnforceSubnet => "dhcp_enforce_subnet"
  | dhcpBroadcastsOnly => "dhcp_broadcasts_only"
  | dhcpReplyDelay => "dhcp_reply_delay"
  | dhcpTimeServer => "dhcp_opt_time_server_address"
  | dhcpGateway => "dhcp_opt_gateway_address"
  | dhcpNameServer => "dhcp_opt_dns_server_address"
  | dhcpDomain => "dhcp_opt_dns_domain"
  | dhcpBootServer => "dhcp_opt_boot_server_address"
  | tftpEnabled => "tftp_enabled"
  | tftpServerPort => "tftp_server_port"
  | tftpLogPackets => "tftp_log_packets"
  | tftpRoot => "tftp_root_folder"
  | tftpFollowMarkers => "tftp_symlink_markers"
  | tftpSessionTimeout => "tftp_session_timeout"
  | bootFile => "boot_file"
  | bootFileSize => "boot_file_size"

def ofName? (name : String) : Option Key := all.find? fun key => key.name = name

abbrev kind : Key → Kind
  | interface | dhcpDomain | tftpRoot | bootFile => .text
  | address | dhcpPoolBase | dhcpSubnetMask | dhcpTimeServer | dhcpGateway | dhcpNameServer
  | dhcpBootServer => .address
  | dhcpEnabled | dhcpLogPackets | dhcpAuthoritative | dhcpEnforceSubnet | dhcpBroadcastsOnly
  | tftpEnabled | tftpLogPackets | tftpFollowMarkers => .flag
  | dhcpServerPort | dhcpClientPort | tftpServerPort => .word16
  | dhcpPoolOffset | dhcpPoolLength | bootFileSize => .word32
  | dhcpReplyDelay | tftpSessionTimeout => .word64

theorem mem_all (key : Key) : key ∈ all := by cases key <;> decide

end Key

namespace Config

def get (config : Config) : (key : Key) → key.kind.Value
  | .interface => config.interface
  | .address => config.address
  | .dhcpEnabled => config.dhcp.enabled
  | .dhcpLogPackets => config.dhcp.logPackets
  | .dhcpAuthoritative => config.dhcp.authoritative
  | .dhcpServerPort => config.dhcp.serverPort
  | .dhcpClientPort => config.dhcp.clientPort
  | .dhcpPoolBase => config.dhcp.poolBase
  | .dhcpPoolOffset => config.dhcp.poolOffset
  | .dhcpPoolLength => config.dhcp.poolLength
  | .dhcpSubnetMask => config.dhcp.subnetMask
  | .dhcpEnforceSubnet => config.dhcp.enforceSubnet
  | .dhcpBroadcastsOnly => config.dhcp.broadcastsOnly
  | .dhcpReplyDelay => config.dhcp.replyDelay
  | .dhcpTimeServer => config.dhcp.timeServer
  | .dhcpGateway => config.dhcp.gateway
  | .dhcpNameServer => config.dhcp.nameServer
  | .dhcpDomain => config.dhcp.domain
  | .dhcpBootServer => config.dhcp.bootServer
  | .tftpEnabled => config.tftp.enabled
  | .tftpServerPort => config.tftp.serverPort
  | .tftpLogPackets => config.tftp.logPackets
  | .tftpRoot => config.tftp.root
  | .tftpFollowMarkers => config.tftp.followMarkers
  | .tftpSessionTimeout => config.tftp.sessionTimeout
  | .bootFile => config.bootFile
  | .bootFileSize => config.bootFileSize

def set (config : Config) : (key : Key) → key.kind.Value → Config
  | .interface, v => { config with interface := v }
  | .address, v => { config with address := v }
  | .dhcpEnabled, v => { config with dhcp := { config.dhcp with enabled := v } }
  | .dhcpLogPackets, v => { config with dhcp := { config.dhcp with logPackets := v } }
  | .dhcpAuthoritative, v => { config with dhcp := { config.dhcp with authoritative := v } }
  | .dhcpServerPort, v => { config with dhcp := { config.dhcp with serverPort := v } }
  | .dhcpClientPort, v => { config with dhcp := { config.dhcp with clientPort := v } }
  | .dhcpPoolBase, v => { config with dhcp := { config.dhcp with poolBase := v } }
  | .dhcpPoolOffset, v => { config with dhcp := { config.dhcp with poolOffset := v } }
  | .dhcpPoolLength, v => { config with dhcp := { config.dhcp with poolLength := v } }
  | .dhcpSubnetMask, v => { config with dhcp := { config.dhcp with subnetMask := v } }
  | .dhcpEnforceSubnet, v => { config with dhcp := { config.dhcp with enforceSubnet := v } }
  | .dhcpBroadcastsOnly, v => { config with dhcp := { config.dhcp with broadcastsOnly := v } }
  | .dhcpReplyDelay, v => { config with dhcp := { config.dhcp with replyDelay := v } }
  | .dhcpTimeServer, v => { config with dhcp := { config.dhcp with timeServer := v } }
  | .dhcpGateway, v => { config with dhcp := { config.dhcp with gateway := v } }
  | .dhcpNameServer, v => { config with dhcp := { config.dhcp with nameServer := v } }
  | .dhcpDomain, v => { config with dhcp := { config.dhcp with domain := v } }
  | .dhcpBootServer, v => { config with dhcp := { config.dhcp with bootServer := v } }
  | .tftpEnabled, v => { config with tftp := { config.tftp with enabled := v } }
  | .tftpServerPort, v => { config with tftp := { config.tftp with serverPort := v } }
  | .tftpLogPackets, v => { config with tftp := { config.tftp with logPackets := v } }
  | .tftpRoot, v => { config with tftp := { config.tftp with root := v } }
  | .tftpFollowMarkers, v => { config with tftp := { config.tftp with followMarkers := v } }
  | .tftpSessionTimeout, v => { config with tftp := { config.tftp with sessionTimeout := v } }
  | .bootFile, v => { config with bootFile := v }
  | .bootFileSize, v => { config with bootFileSize := v }

@[simp] theorem get_set_self (config : Config) (key : Key) (value : key.kind.Value) :
    (config.set key value).get key = value := by
  cases key <;> rfl

theorem get_set_of_ne (config : Config) {key other : Key} (value : key.kind.Value)
    (h : other ≠ key) : (config.set key value).get other = config.get other := by
  cases key <;> cases other <;> first | rfl | exact absurd rfl h

/-- A configuration is what its keys give. -/
theorem ext_get {a b : Config} (h : ∀ key, a.get key = b.get key) : a = b := by
  obtain ⟨ai, aa, ⟨⟩, ⟨⟩, ab, as⟩ := a
  obtain ⟨bi, ba, ⟨⟩, ⟨⟩, bb, bs⟩ := b
  have := h .interface; have := h .address; have := h .dhcpEnabled; have := h .dhcpLogPackets
  have := h .dhcpAuthoritative; have := h .dhcpServerPort; have := h .dhcpClientPort
  have := h .dhcpPoolBase; have := h .dhcpPoolOffset; have := h .dhcpPoolLength
  have := h .dhcpSubnetMask; have := h .dhcpEnforceSubnet; have := h .dhcpBroadcastsOnly
  have := h .dhcpReplyDelay; have := h .dhcpTimeServer; have := h .dhcpGateway
  have := h .dhcpNameServer; have := h .dhcpDomain; have := h .dhcpBootServer
  have := h .tftpEnabled; have := h .tftpServerPort; have := h .tftpLogPackets
  have := h .tftpRoot; have := h .tftpFollowMarkers; have := h .tftpSessionTimeout
  have := h .bootFile; have := h .bootFileSize
  simp_all [get]

def text (config : Config) (key : Key) : String := key.kind.render (config.get key)

end Config

end BootServer
