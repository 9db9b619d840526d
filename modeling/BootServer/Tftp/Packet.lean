import BootServer.Bytes
import BootServer.Text.Lowercase
import BootServer.Text.Split
import BootServer.Text.Utf8

/-!
# TFTP packets

A packet starts with its opcode. Texts end with a zero octet; requests and option
acknowledgements carry options as pairs of texts. Modes and option names are read in lower case.
-/

namespace BootServer.Tftp

/-- The kinds of packets. -/
inductive Opcode where
  | readRequest
  | writeRequest
  | data
  | ack
  | error
  | optionAck
  deriving DecidableEq, Repr

namespace Opcode

/-- All kinds, in the order of their codes. -/
def all : List Opcode := [readRequest, writeRequest, data, ack, error, optionAck]

def code : Opcode → UInt16
  | readRequest => 1
  | writeRequest => 2
  | data => 3
  | ack => 4
  | error => 5
  | optionAck => 6

def text : Opcode → String
  | readRequest => "Read request (RRQ)"
  | writeRequest => "Write request (WRQ)"
  | data => "Data (DATA)"
  | ack => "Acknowledgment (ACK)"
  | error => "Error (ERROR)"
  | optionAck => "Option acknowledgment (OACK)"

def ofCode? (code : UInt16) : Option Opcode := all.find? fun opcode => opcode.code = code

@[simp] theorem ofCode?_code (opcode : Opcode) : ofCode? opcode.code = some opcode := by
  cases opcode <;> decide

end Opcode

/-- The causes that an error packet can name. -/
inductive ErrorCode where
  | notDefined
  | fileNotFound
  | accessViolation
  | diskFull
  | illegalOperation
  | unknownTransferId
  | fileAlreadyExists
  | noSuchUser
  | optionNegotiationFailed
  deriving DecidableEq, Repr

namespace ErrorCode

/-- All causes, in the order of their codes. -/
def all : List ErrorCode :=
  [notDefined, fileNotFound, accessViolation, diskFull, illegalOperation, unknownTransferId,
    fileAlreadyExists, noSuchUser, optionNegotiationFailed]

def code : ErrorCode → UInt16
  | notDefined => 0
  | fileNotFound => 1
  | accessViolation => 2
  | diskFull => 3
  | illegalOperation => 4
  | unknownTransferId => 5
  | fileAlreadyExists => 6
  | noSuchUser => 7
  | optionNegotiationFailed => 8

def text : ErrorCode → String
  | notDefined => "Not defined, see error message (if any)"
  | fileNotFound => "File not found"
  | accessViolation => "Access violation"
  | diskFull => "Disk full or allocation exceeded"
  | illegalOperation => "Illegal TFTP operation"
  | unknownTransferId => "Unknown transfer ID"
  | fileAlreadyExists => "File already exists"
  | noSuchUser => "No such user"
  | optionNegotiationFailed => "Option negotiation error"

/-- The cause with a code; an unknown code names none. -/
def ofCode (code : UInt16) : ErrorCode :=
  (all.find? fun cause => cause.code = code).getD notDefined

@[simp] theorem ofCode_code (cause : ErrorCode) : ofCode cause.code = cause := by
  cases cause <;> decide

end ErrorCode

/-- Why octets are no packet. -/
inductive Malformed where
  | tooShort
  | unknownOpcode (code : UInt16)
  | missingFileName
  | missingMode
  | dataTooShort
  | ackTooShort
  | errorTooShort
  | described (text : String)
  deriving DecidableEq, Repr

namespace Malformed

def text : Malformed → String
  | tooShort => "packet too short"
  | unknownOpcode code => "unknown opcode: " ++ toString code.toNat
  | missingFileName => "missing filename"
  | missingMode => "missing mode"
  | dataTooShort => "data packet too short"
  | ackTooShort => "ack packet too short"
  | errorTooShort => "error packet too short"
  | described text => text

end Malformed

/-- Names and values, in the order in which they stand. -/
abbrev Options := List (String × String)

/-- A packet. -/
inductive Packet where
  | readRequest (fileName mode : String) (options : Options)
  | writeRequest (fileName mode : String) (options : Options)
  | data (block : UInt16) (payload : Bytes)
  | ack (block : UInt16)
  | error (code : ErrorCode) (message : String)
  | optionAck (options : Options)
  deriving DecidableEq, Repr

namespace Packet

def opcode : Packet → Opcode
  | readRequest .. => .readRequest
  | writeRequest .. => .writeRequest
  | data .. => .data
  | ack .. => .ack
  | error .. => .error
  | optionAck .. => .optionAck

def options : Packet → Options
  | readRequest _ _ options | writeRequest _ _ options | optionAck options => options
  | _ => []

def option? (packet : Packet) (name : String) : Option String := packet.options.lookup name

/-- The pieces between zero octets; the last one has no zero after it. -/
def pieces (data : Bytes) : List Bytes := Text.split (· == 0) data

/-- The options of pieces: a name needs its zero octet, a last value does not. -/
def optionsOfPieces : List Bytes → Options
  | [] | [_] => []
  | name :: value :: rest =>
    if name.isEmpty then []
    else (Text.lowercase (Text.Utf8.decodeLossy name), Text.Utf8.decodeLossy value) ::
      optionsOfPieces rest

/-- A file name, a mode and options. Name and mode need their zero octet and must not be empty. -/
def requestOfPieces (make : String → String → Options → Packet) :
    List Bytes → Except Malformed Packet
  | name :: mode :: rest =>
    if name.isEmpty then .error .missingFileName
    else if rest.isEmpty || mode.isEmpty then .error .missingMode
    else .ok (make (Text.Utf8.decodeLossy name) (Text.lowercase (Text.Utf8.decodeLossy mode))
      (optionsOfPieces rest))
  | _ => .error .missingFileName

def parseBody (opcode : Opcode) (body : Bytes) : Except Malformed Packet :=
  match opcode, body with
  | .readRequest, _ => requestOfPieces readRequest (pieces body)
  | .writeRequest, _ => requestOfPieces writeRequest (pieces body)
  | .data, high :: low :: payload => .ok (data (Bytes.word16 high low) payload)
  | .data, _ => .error .dataTooShort
  | .ack, high :: low :: _ => .ok (ack (Bytes.word16 high low))
  | .ack, _ => .error .ackTooShort
  | .error, high :: low :: rest =>
    .ok (error (.ofCode (Bytes.word16 high low)) (Text.Utf8.decodeLossy (rest.takeWhile (· != 0))))
  | .error, _ => .error .errorTooShort
  | .optionAck, _ => .ok (optionAck (optionsOfPieces (pieces body)))

def parse : Bytes → Except Malformed Packet
  | high :: low :: body =>
    match Opcode.ofCode? (Bytes.word16 high low) with
    | some opcode => parseBody opcode body
    | none => .error (.unknownOpcode (Bytes.word16 high low))
  | _ => .error .tooShort

def encodeText (text : String) : Bytes := Text.Utf8.encode text ++ [0]

/-- Names and values, each with its zero octet. -/
def encodeOptions (options : Options) : Bytes :=
  options.flatMap fun option => encodeText option.1 ++ encodeText option.2

def encodeBody : Packet → Bytes
  | readRequest name mode options | writeRequest name mode options =>
    encodeText name ++ encodeText mode ++ encodeOptions options
  | data block payload => Bytes.ofUInt16 block ++ payload
  | ack block => Bytes.ofUInt16 block
  | error code message => Bytes.ofUInt16 code.code ++ encodeText message
  | optionAck options => encodeOptions options

def encode (packet : Packet) : Bytes := Bytes.ofUInt16 packet.opcode.code ++ packet.encodeBody

end Packet

end BootServer.Tftp
