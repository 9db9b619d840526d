import BootServer.Net.Address
import BootServer.Text.Utf8

/-!
# Tagged items of a DHCP packet

The last part of a packet is a sequence of items, each with a code, the length of its payload and
the payload. A zero octet fills, the code 255 ends the sequence.
-/

namespace BootServer.Dhcp

/-- Why octets are no DHCP packet. -/
inductive ParseError where
  | tooShort (length : Nat)
  | invalidMagic
  /-- The payload of an item runs past the end; the offset counts from the first item. -/
  | truncated (code : UInt8) (offset : Nat)
  deriving DecidableEq, Repr

namespace ParseError

def text : ParseError → String
  | tooShort length => "Packet too short: " ++ toString length ++ " bytes (minimum 240)"
  | invalidMagic => "Invalid magic cookie"
  | truncated code offset =>
    "Option " ++ toString code.toNat ++ " at offset " ++ toString offset ++
      " runs past the end of the packet"

end ParseError

namespace Code

def fill : UInt8 := 0
def subnetMask : UInt8 := 1
def router : UInt8 := 3
def timeServer : UInt8 := 4
def nameServer : UInt8 := 6
def hostName : UInt8 := 12
def bootFileSize : UInt8 := 13
def domainName : UInt8 := 15
def requestedAddress : UInt8 := 50
def leaseTime : UInt8 := 51
def messageType : UInt8 := 53
def serverIdentifier : UInt8 := 54
def parameterRequests : UInt8 := 55
def renewalTime : UInt8 := 58
def rebindingTime : UInt8 := 59
def clientIdentifier : UInt8 := 61
def bootServer : UInt8 := 66
def bootFile : UInt8 := 67
def finish : UInt8 := 255

def name (code : UInt8) : String :=
  match code.toNat with
  | 0 => "Pad"
  | 1 => "Subnet Mask"
  | 2 => "Time Offset"
  | 3 => "Router"
  | 4 => "Time Server"
  | 5 => "Name Server"
  | 6 => "Domain Name Server"
  | 7 => "Log Server"
  | 12 => "Host Name"
  | 13 => "Boot File Size"
  | 15 => "Domain Name"
  | 17 => "Root Path"
  | 23 => "Default IP TTL"
  | 26 => "Interface MTU"
  | 28 => "Broadcast Address"
  | 42 => "NTP Servers"
  | 43 => "Vendor Specific"
  | 50 => "Requested IP Address"
  | 51 => "IP Address Lease Time"
  | 53 => "DHCP Message Type"
  | 54 => "Server Identifier"
  | 55 => "Parameter Request List"
  | 56 => "Message"
  | 57 => "Maximum DHCP Message Size"
  | 58 => "Renewal (T1) Time"
  | 59 => "Rebinding (T2) Time"
  | 60 => "Vendor Class Identifier"
  | 61 => "Client Identifier"
  | 66 => "TFTP Server Name"
  | 67 => "Bootfile Name"
  | 93 => "Client System Architecture"
  | 94 => "Client Network Interface"
  | 97 => "Client Machine Identifier"
  | 116 => "Auto-Configure"
  | 255 => "End"
  | _ => "Unknown"

end Code

/-- The kinds of messages between clients and servers. -/
inductive MessageType where
  | discover
  | offer
  | request
  | decline
  | ack
  | nak
  | release
  | inform
  deriving DecidableEq, Repr

namespace MessageType

/-- All kinds, in the order of their codes. -/
def all : List MessageType := [discover, offer, request, decline, ack, nak, release, inform]

def code : MessageType → UInt8
  | discover => 1
  | offer => 2
  | request => 3
  | decline => 4
  | ack => 5
  | nak => 6
  | release => 7
  | inform => 8

def name : MessageType → String
  | discover => "DHCPDISCOVER"
  | offer => "DHCPOFFER"
  | request => "DHCPREQUEST"
  | decline => "DHCPDECLINE"
  | ack => "DHCPACK"
  | nak => "DHCPNAK"
  | release => "DHCPRELEASE"
  | inform => "DHCPINFORM"

def ofCode? (code : UInt8) : Option MessageType := all.find? fun kind => kind.code = code

/-- The name of the kind with a code, if there is one. -/
def nameOf (code : UInt8) : String := ((ofCode? code).map name).getD "unknown"

@[simp] theorem ofCode?_code (kind : MessageType) : ofCode? kind.code = some kind := by
  cases kind <;> decide

end MessageType

/-- A tagged item. -/
structure Item where
  code : UInt8
  payload : Bytes
  deriving DecidableEq, Repr

namespace Item

/-- The longest payload that fits its length octet. -/
def payloadMax : Nat := 255

def ofOctet (code octet : UInt8) : Item := ⟨code, [octet]⟩

def ofUInt16 (code : UInt8) (value : UInt16) : Item := ⟨code, Bytes.ofUInt16 value⟩

def ofUInt32 (code : UInt8) (value : UInt32) : Item := ⟨code, Bytes.ofUInt32 value⟩

def ofAddress (code : UInt8) (ip : IPv4) : Item := ⟨code, ip.octets⟩

def ofText (code : UInt8) (text : String) : Item := ⟨code, Text.Utf8.encode text⟩

/-- The item of a text with a zero octet after it. -/
def ofTerminatedText (code : UInt8) (text : String) : Item := ⟨code, Text.Utf8.encode text ++ [0]⟩

/-- The kind of a message, by its code. -/
def messageType (kind : UInt8) : Item := ofOctet Code.messageType kind

def serverIdentifier (ip : IPv4) : Item := ofAddress Code.serverIdentifier ip

def leaseTime (seconds : UInt32) : Item := ofUInt32 Code.leaseTime seconds

/-- After how long a client renews its lease, in seconds. -/
def renewalTime (seconds : UInt32) : Item := ofUInt32 Code.renewalTime seconds

/-- After how long a client asks any server, in seconds. -/
def rebindingTime (seconds : UInt32) : Item := ofUInt32 Code.rebindingTime seconds

/-- The address that a payload of four octets holds. -/
def address? (item : Item) : Option IPv4 :=
  match item.payload with
  | [a, b, c, d] => some (IPv4.ofOctets a b c d)
  | _ => none

/-- The number that a payload of four octets holds. -/
def word32? (item : Item) : Option UInt32 :=
  match item.payload with
  | [a, b, c, d] => some (Bytes.word32 a b c d)
  | _ => none

def octet? (item : Item) : Option UInt8 :=
  match item.payload with
  | [b] => some b
  | _ => none

/-- The text of a payload up to its first zero octet. -/
def text (item : Item) : String := Text.Utf8.decodeLossy (item.payload.takeWhile (· != 0))

/-- The item as it arrives on the other side: its payload fits the length octet. -/
def cut (item : Item) : Item := ⟨item.code, item.payload.take payloadMax⟩

/-- The octets of an item. A payload of odd length has a filler after it. -/
def encode (item : Item) : Bytes :=
  let payload := item.cut.payload
  item.code :: UInt8.ofNat payload.length :: payload ++
    if payload.length % 2 = 1 then [Code.fill] else []

/-- The octets of a sequence of items and its end. -/
def encodeAll (items : List Item) : Bytes := items.flatMap encode ++ [Code.finish]

/-- Read a sequence of items that starts at an offset. -/
def parseFrom (offset : Nat) : Bytes → Except ParseError (List Item)
  | [] => .ok []
  | code :: rest =>
    if code = Code.finish then .ok []
    else if code = Code.fill then parseFrom (offset + 1) rest
    else match rest with
      | [] => .error (.truncated code offset)
      | length :: rest =>
        let payload := rest.take length.toNat
        if payload.length < length.toNat then .error (.truncated code offset)
        else match parseFrom (offset + 2 + length.toNat) (rest.drop length.toNat) with
          | .error error => .error error
          | .ok items => .ok (⟨code, payload⟩ :: items)
  termination_by data => data.length
  decreasing_by all_goals (simp only [List.length_drop, List.length_cons]; omega)

def parseAll (data : Bytes) : Except ParseError (List Item) := parseFrom 0 data

@[simp] theorem address?_ofAddress (code : UInt8) (ip : IPv4) :
    (ofAddress code ip).address? = some ip :=
  congrArg (fun word => some (IPv4.mk word)) (Bytes.word32_ofUInt32 ip.word)

end Item

end BootServer.Dhcp
