import BootServer.Dhcp.Item
import BootServer.Text.Column
import BootServer.Text.Quoted

/-!
# DHCP packets

A packet has a header of fixed layout, a magic word and tagged items. Three header fields hold
octets of their own: the hardware address, the server name and the boot file.
-/

namespace BootServer.Dhcp

/-- A header field of `width` octets. -/
structure FixedField (width : Nat) where
  octets : Bytes
  length_eq : octets.length = width
  deriving DecidableEq

namespace FixedField

/-- The field with the given octets, cut to its width or filled up with zeros. -/
def ofBytes (width : Nat) (data : Bytes) : FixedField width :=
  ⟨data.take width ++ List.replicate (width - data.length) 0, by simp; omega⟩

def zero (width : Nat) : FixedField width := ⟨List.replicate width 0, by simp⟩

/-- The field with a text in it, cut so that a zero octet remains at the end. -/
def ofText (width : Nat) (text : String) : FixedField width :=
  ofBytes width ((Text.Utf8.encode text).take (width - 1))

/-- The text of a field up to its first zero octet. -/
def text {width : Nat} (field : FixedField width) : String :=
  Text.Utf8.decodeLossy (field.octets.takeWhile (· != 0))

end FixedField

/-- A DHCP packet. -/
structure Packet where
  op : UInt8
  hardwareType : UInt8
  hardwareLength : UInt8
  hops : UInt8
  transaction : UInt32
  seconds : UInt16
  flags : UInt16
  clientAddress : IPv4
  yourAddress : IPv4
  serverAddress : IPv4
  relayAddress : IPv4
  hardware : FixedField 16
  serverName : FixedField 64
  bootFile : FixedField 128
  items : List Item
  deriving DecidableEq

namespace Packet

def requestOp : UInt8 := 1

def replyOp : UInt8 := 2

def broadcastFlag : UInt16 := 0x8000

/-- The magic word between the header and the items. -/
def magic : Bytes := [0x63, 0x82, 0x53, 0x63]

def headerLength : Nat := 236

def lengthMin : Nat := 240

def sentLengthMin : Nat := 300

def addressAt (data : Bytes) (index : Nat) : IPv4 := ⟨Bytes.word32At data index⟩

/-- The packet of a header and its items. -/
def ofHeader (data : Bytes) (items : List Item) : Packet where
  op := Bytes.octetAt data 0
  hardwareType := Bytes.octetAt data 1
  hardwareLength := Bytes.octetAt data 2
  hops := Bytes.octetAt data 3
  transaction := Bytes.word32At data 4
  seconds := Bytes.word16At data 8
  flags := Bytes.word16At data 10
  clientAddress := addressAt data 12
  yourAddress := addressAt data 16
  serverAddress := addressAt data 20
  relayAddress := addressAt data 24
  hardware := .ofBytes 16 (Bytes.slice data 28 16)
  serverName := .ofBytes 64 (Bytes.slice data 44 64)
  bootFile := .ofBytes 128 (Bytes.slice data 108 128)
  items := items

def parse (data : Bytes) : Except ParseError Packet :=
  if data.length < lengthMin then .error (.tooShort data.length)
  else if Bytes.slice data headerLength magic.length ≠ magic then .error .invalidMagic
  else match Item.parseAll (data.drop lengthMin) with
    | .error error => .error error
    | .ok items => .ok (ofHeader data items)

def header (packet : Packet) : Bytes :=
  [packet.op, packet.hardwareType, packet.hardwareLength, packet.hops] ++
    Bytes.ofUInt32 packet.transaction ++ Bytes.ofUInt16 packet.seconds ++
    Bytes.ofUInt16 packet.flags ++ packet.clientAddress.octets ++ packet.yourAddress.octets ++
    packet.serverAddress.octets ++ packet.relayAddress.octets ++ packet.hardware.octets ++
    packet.serverName.octets ++ packet.bootFile.octets

/-- The datagram of a packet, filled up with zeros to the usual length. -/
def encode (packet : Packet) : Bytes :=
  let data := packet.header ++ magic ++ Item.encodeAll packet.items
  data ++ List.replicate (sentLengthMin - data.length) 0

/-- The octets of the hardware address: as many as the packet says, and no more than there are. -/
def hardwareOctets (packet : Packet) : Bytes :=
  packet.hardware.octets.take (min packet.hardwareLength.toNat 16)

/-- The hardware address in hexadecimal, which is the key of a client's lease. -/
def clientKey (packet : Packet) : String :=
  String.intercalate ":" (packet.hardwareOctets.map Text.hexOctet)

def item? (packet : Packet) (code : UInt8) : Option Item :=
  packet.items.find? fun item => item.code = code

def messageCode? (packet : Packet) : Option UInt8 :=
  (packet.item? Code.messageType).bind Item.octet?

/-- The address that the client would like. -/
def requestedAddress? (packet : Packet) : Option IPv4 :=
  (packet.item? Code.requestedAddress).bind Item.address?

/-- The address of the server that is meant. -/
def serverIdentifier? (packet : Packet) : Option IPv4 :=
  (packet.item? Code.serverIdentifier).bind Item.address?

/-- The name of the client's host, unless it is empty. -/
def hostName? (packet : Packet) : Option String :=
  ((packet.item? Code.hostName).map Item.text).filter fun name => !name.isEmpty

/-- The codes that the client asks for. -/
def parameterRequests (packet : Packet) : List UInt8 :=
  ((packet.item? Code.parameterRequests).map Item.payload).getD []

/-- What a reply names the client by: the client's own identifier, or else its hardware address. -/
def clientIdentifier (packet : Packet) : Item :=
  let own := (packet.item? Code.clientIdentifier).filter fun item => !item.payload.isEmpty
  own.getD ⟨Code.clientIdentifier, packet.hardwareOctets⟩

def isBroadcast (packet : Packet) : Bool := packet.flags &&& broadcastFlag != 0

def withServerName (packet : Packet) (name : String) : Packet :=
  { packet with serverName := .ofText 64 name }

def withBootFile (packet : Packet) (name : String) : Packet :=
  { packet with bootFile := .ofText 128 name }

/-- The broadcast reply to a request. -/
def reply (request : Packet) (kind : UInt8) (yourAddress serverAddress clientAddress : IPv4)
    (items : List Item) : Packet where
  op := replyOp
  hardwareType := request.hardwareType
  hardwareLength := request.hardwareLength
  hops := 0
  transaction := request.transaction
  seconds := 0
  flags := broadcastFlag
  clientAddress := clientAddress
  yourAddress := yourAddress
  serverAddress := serverAddress
  relayAddress := request.relayAddress
  hardware := request.hardware
  serverName := .zero 64
  bootFile := .zero 128
  items := Item.messageType kind :: items

/-- What a dump shows of a payload: an address, a number, or the octets. -/
def payloadText (item : Item) : String :=
  match item.address?, item.octet? with
  | some ip, _ => " " ++ ip.toText
  | none, some octet => " " ++ toString octet.toNat
  | none, none => String.join (item.payload.map fun octet => " " ++ Text.hexOctet octet)

def itemLine (item : Item) : String :=
  "  " ++ Text.padLeft ' ' 3 (toString item.code.toNat) ++ " " ++
    Text.padRight 26 (Code.name item.code) ++ " len=" ++
    Text.padRight 3 (toString item.payload.length) ++ payloadText item ++ "\n"

/-- A dump of the packet in several lines. -/
def describe (packet : Packet) : String :=
  "op=" ++ toString packet.op.toNat ++ " htype=" ++ toString packet.hardwareType.toNat ++
    " hlen=" ++ toString packet.hardwareLength.toNat ++ " hops=" ++ toString packet.hops.toNat ++
    " xid=" ++ Text.hexWide 8 packet.transaction.toNat ++
    " secs=" ++ toString packet.seconds.toNat ++
    " flags=" ++ Text.hexWide 4 packet.flags.toNat ++
    "\nciaddr=" ++ packet.clientAddress.toText ++ " yiaddr=" ++ packet.yourAddress.toText ++
    " siaddr=" ++ packet.serverAddress.toText ++ " giaddr=" ++ packet.relayAddress.toText ++
    " chaddr=" ++ packet.clientKey ++
    "\nsname=" ++ Text.quoted packet.serverName.text ++
    " file=" ++ Text.quoted packet.bootFile.text ++ "\n" ++
    String.join (packet.items.map itemLine)

@[simp] theorem messageCode?_reply (request : Packet) (kind : UInt8)
    (yourAddress serverAddress clientAddress : IPv4) (items : List Item) :
    (request.reply kind yourAddress serverAddress clientAddress items).messageCode? =
      some kind := by
  simp [messageCode?, item?, reply, Item.messageType, Item.ofOctet, Item.octet?]

@[simp] theorem messageCode?_withServerName (packet : Packet) (name : String) :
    (packet.withServerName name).messageCode? = packet.messageCode? :=
  rfl

@[simp] theorem messageCode?_withBootFile (packet : Packet) (name : String) :
    (packet.withBootFile name).messageCode? = packet.messageCode? :=
  rfl

end Packet

end BootServer.Dhcp
