/-!
# Failures of the operating system

The causes for which a request to the file system or the network is refused, and their texts.
-/

namespace BootServer

/-- The coarse class of a failure that carries a text of its own. -/
inductive FaultClass where
  | notFound
  | permissionDenied
  | interrupted
  | other
  deriving DecidableEq, Repr

/-- Why the operating system refused a request. -/
inductive Fault where
  | notFound
  | deviceBusy
  | noDevice
  | notDirectory
  | isDirectory
  | invalidArgument
  | nameTooLong
  | addressUnavailable
  | networkUnreachable
  | zeroInName
  | notUtf8
  | described (class_ : FaultClass) (text : String)
  deriving DecidableEq, Repr

namespace Fault

def text : Fault → String
  | notFound => "No such file or directory (os error 2)"
  | deviceBusy => "Device or resource busy (os error 16)"
  | noDevice => "No such device (os error 19)"
  | notDirectory => "Not a directory (os error 20)"
  | isDirectory => "Is a directory (os error 21)"
  | invalidArgument => "Invalid argument (os error 22)"
  | nameTooLong => "File name too long (os error 36)"
  | addressUnavailable => "Cannot assign requested address (os error 99)"
  | networkUnreachable => "Network is unreachable (os error 101)"
  | zeroInName => "file name contained an unexpected NUL byte"
  | notUtf8 => "stream did not contain valid UTF-8"
  | described _ text => text

/-- Does the failure say that there is no such file? -/
def isNotFound : Fault → Bool
  | notFound => true
  | described .notFound _ => true
  | _ => false

end Fault

end BootServer
