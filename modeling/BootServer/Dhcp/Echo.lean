import BootServer.Text.Utf8

/-!
# Echo messages and the internet checksum

The checksum of octets is the complement of the one's complement sum of their 16-bit words; a last
odd octet is the high half of a word. A message that carries its own checksum sums to zero.
-/

namespace BootServer.Dhcp.Echo

def words : Bytes → List UInt16
  | [] => []
  | [high] => [Bytes.word16 high 0]
  | high :: low :: rest => Bytes.word16 high low :: words rest

/-- The sum of words in a 32-bit register. -/
def total (words : List UInt16) : UInt32 :=
  words.foldl (fun sum word => sum + word.toUInt32) 0

/-- Add the part above 16 bits to the part below, until there is none above. -/
def fold (sum : Nat) : Nat :=
  if sum < 65536 then sum else fold (sum % 65536 + sum / 65536)
  termination_by sum
  decreasing_by omega

def checksum (data : Bytes) : UInt16 := ~~~ (UInt16.ofNat (fold (total (words data)).toNat))

/-- The type octet of a request and of a reply. -/
def requestType : UInt8 := 8

def replyType : UInt8 := 0

/-- What every request carries. -/
def content : Bytes := Text.Utf8.encode "netboot-probe"

/-- A request with a given checksum field. -/
def requestWith (sum sequence : UInt16) : Bytes :=
  [requestType, 0] ++ Bytes.ofUInt16 sum ++ [0, 0] ++ Bytes.ofUInt16 sequence ++ content

def request (sequence : UInt16) : Bytes := requestWith (checksum (requestWith 0 sequence)) sequence

/-- Do the octets answer the request with a sequence number? -/
def isReply (data : Bytes) (sequence : UInt16) : Bool :=
  8 ≤ data.length && Bytes.octetAt data 0 == replyType && Bytes.word16At data 6 == sequence

end BootServer.Dhcp.Echo
