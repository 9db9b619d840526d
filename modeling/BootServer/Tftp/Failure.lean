import BootServer.Storage.Fault
import BootServer.Tftp.Packet

/-!
# Failures of requests

Each failure has a text, the code that an error packet names, and the message that the packet
carries, which says less of some failures than the text does.
-/

namespace BootServer.Tftp

/-- Why a packet is answered with an error. -/
inductive Failure where
  | invalidPacket (cause : Malformed)
  | fileNotFound (name : String)
  | accessViolation (text : String)
  | unknownTransfer
  | tooManyHops (request : String)
  | system (cause : Fault)
  deriving DecidableEq, Repr

namespace Failure

def text : Failure → String
  | invalidPacket cause => "invalid TFTP packet: " ++ cause.text
  | fileNotFound name => "file not found: " ++ name
  | accessViolation text => "access violation: " ++ text
  | unknownTransfer => "no transfer in progress"
  | tooManyHops request => "too many symbolic link hops resolving " ++ request
  | system cause => "I/O error: " ++ cause.text

/-- The cause that the error packet names. -/
def code : Failure → ErrorCode
  | invalidPacket _ => .illegalOperation
  | fileNotFound _ => .fileNotFound
  | accessViolation _ => .accessViolation
  | unknownTransfer => .unknownTransferId
  | tooManyHops _ => .notDefined
  | system cause => if cause.isNotFound then .fileNotFound else .notDefined

def message : Failure → String
  | accessViolation text => text
  | tooManyHops _ => "too many symbolic link hops"
  | system cause => cause.text
  | failure => failure.text

def packet (failure : Failure) : Packet := .error failure.code failure.message

end Failure

end BootServer.Tftp
