import BootServer.Storage.Disk
import BootServer.Text.Blank
import BootServer.Text.Decimal
import BootServer.Tftp.Failure

/-!
# Read transfers

A file is sent in blocks of one size, numbered from 1; a shorter block is the last one. The wire
carries block numbers modulo 65536, and an acknowledgement is taken to be of the latest block sent
that has its number.
-/

namespace BootServer.Tftp

def defaultBlockSize : UInt16 := 512

def blockSizeMin : UInt16 := 8

def blockSizeMax : UInt16 := 65464

/-- A block size within the limits. -/
def clampBlockSize (size : Nat) : UInt16 :=
  UInt16.ofNat (max blockSizeMin.toNat (min size blockSizeMax.toNat))

/-- The block size for a client that asks for one; what is no number asks for nothing. -/
def negotiate? (value : String) : Option UInt16 :=
  (Text.unsigned? (UInt64.size - 1) (Text.trim value.toList)).map clampBlockSize

/-- The block that an acknowledgement means. -/
def ackedBlock (lastSent : UInt64) (wire : UInt16) : UInt64 :=
  let back := (lastSent.toUInt16 - wire).toUInt64
  if back ≤ lastSent then lastSent - back else 0

/-- An open read transfer. -/
structure Transfer where
  /-- The path under the root. -/
  path : String
  file : FileId
  size : UInt64
  blockSize : UInt16
  lastSent : UInt64
  /-- The last block was sent. -/
  atEnd : Bool
  /-- The last block was acknowledged. -/
  completed : Bool
  deriving DecidableEq, Repr

/-- What an acknowledgement leads to. -/
inductive AckOutcome where
  | data (packet : Packet)
  | completed (blocks : UInt64)
  | idle
  deriving DecidableEq, Repr

namespace Transfer

def ofFile (disk : Disk) (path : String) (file : FileId) : Transfer where
  path := path
  file := file
  size := UInt64.ofNat (disk.content file).length
  blockSize := defaultBlockSize
  lastSent := 0
  atEnd := false
  completed := false

/-- Open the file at a location; `path` names it under the root. -/
def «open» (disk : Disk) (path location : String) : Except Failure Transfer :=
  match disk.openPath location with
  | .error cause => .error (.system cause)
  | .ok .directory => .error (.fileNotFound path)
  | .ok (.file id) => .ok (ofFile disk path id)

def withBlockSize (transfer : Transfer) (size : UInt16) : Transfer :=
  { transfer with blockSize := clampBlockSize size.toNat }

/-- Where a block starts. -/
def offset (transfer : Transfer) (block : UInt64) : UInt64 :=
  (block - 1) * transfer.blockSize.toUInt64

/-- The greatest offset at which a file can be read. -/
def offsetMax : UInt64 := 0x7FFFFFFFFFFFFFFF

/-- Read the octets of a block. -/
def readBlock (disk : Disk) (transfer : Transfer) (block : UInt64) : Except Fault Bytes :=
  if offsetMax < transfer.offset block then .error .invalidArgument
  else disk.readPart transfer.file (transfer.offset block).toNat transfer.blockSize.toNat

/-- Send a block. The transfer stays as it is if the block cannot be read. -/
def sendBlock (disk : Disk) (transfer : Transfer) (block : UInt64) :
    Except Failure (Transfer × Packet) :=
  match transfer.readBlock disk block with
  | .error cause => .error (.system cause)
  | .ok payload =>
    .ok ({ transfer with
      atEnd := payload.length < transfer.blockSize.toNat
      lastSent := block }, .data block.toUInt16 payload)

/-- Take an acknowledgement: the next block follows, until the last one was sent. -/
def acknowledge (disk : Disk) (transfer : Transfer) (wire : UInt16) :
    Except Failure (Transfer × AckOutcome) :=
  let acked := ackedBlock transfer.lastSent wire
  if transfer.atEnd then
    if acked = transfer.lastSent && !transfer.completed then
      .ok ({ transfer with completed := true }, .completed transfer.lastSent)
    else .ok (transfer, .idle)
  else match transfer.sendBlock disk (acked + 1) with
    | .error failure => .error failure
    | .ok (transfer, packet) => .ok (transfer, .data packet)

end Transfer

end BootServer.Tftp
