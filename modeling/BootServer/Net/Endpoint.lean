import BootServer.Net.Address
import BootServer.Text.Column

/-!
# Addresses with a port

The peer of a datagram: an IPv4 or an IPv6 address and a port. The text of an IPv6 address
abbreviates the first longest run of at least two zero groups, and shows the last two groups of an
IPv4-mapped address as an IPv4 address.
-/

namespace BootServer

/-- An IPv6 address, as its eight 16-bit groups from the highest to the lowest. -/
structure IPv6 where
  groups : List UInt16
  deriving DecidableEq, Repr

namespace IPv6

/-- The length of the run of zero groups at the front. -/
def zerosAhead : List UInt16 → Nat
  | [] => 0
  | g :: rest => if g = 0 then zerosAhead rest + 1 else 0

/-- Where the first longest run of zero groups starts, and its length; places count from `index`. -/
def longestZeros (index : Nat) : List UInt16 → Nat × Nat
  | [] => (index, 0)
  | g :: rest =>
    let here := zerosAhead (g :: rest)
    let later := longestZeros (index + 1) rest
    if here < later.2 then later else (index, here)

def groupsText (groups : List UInt16) : String :=
  String.intercalate ":" (groups.map fun g => Text.hex g.toNat)

def toText (ip : IPv6) : String :=
  match ip.groups with
  | [0, 0, 0, 0, 0, 0xFFFF, high, low] =>
    "::ffff:" ++ (IPv4.ofNat (high.toNat * 65536 + low.toNat)).toText
  | groups =>
    let run := longestZeros 0 groups
    if run.2 < 2 then groupsText groups
    else groupsText (groups.take run.1) ++ "::" ++ groupsText (groups.drop (run.1 + run.2))

/-- One group: one to four hexadecimal digits. -/
def group? (cs : List Char) : Option UInt16 :=
  if cs.isEmpty || 4 < cs.length then none
  else (cs.mapM Text.hexDigit?).map fun ds => UInt16.ofNat (ds.foldl (fun n d => n * 16 + d) 0)

/-- Groups between colons, the last piece possibly an IPv4 address. -/
def groups? : List (List Char) → Option (List UInt16)
  | [] => some []
  | [piece] =>
    match IPv4.ofChars? piece with
    | some ip =>
      let o := ip.octets
      some [Bytes.word16At o 0, Bytes.word16At o 2]
    | none => (group? piece).map fun g => [g]
  | piece :: rest => do
    let g ← group? piece
    let gs ← groups? rest
    return g :: gs

/-- The groups of a stretch of text without a double colon. -/
def stretch? (cs : List Char) : Option (List UInt16) :=
  if cs.isEmpty then some [] else groups? (Text.split (· == ':') cs)

/-- The text before and after the first double colon. -/
def cutDouble? : List Char → Option (List Char × List Char)
  | ':' :: ':' :: rest => some ([], rest)
  | c :: rest => (cutDouble? rest).map fun parts => (c :: parts.1, parts.2)
  | [] => none

/-- The address of a text. Only its last two groups can be written as an IPv4 address. -/
def ofChars? (cs : List Char) : Option IPv6 :=
  match cutDouble? cs with
  | none => ((stretch? cs).filter (·.length == 8)).map fun gs => ⟨gs⟩
  | some (front, back) => do
    let high ← if front.contains '.' then none else stretch? front
    let low ← stretch? back
    if high.length + low.length < 8 then
      some ⟨high ++ List.replicate (8 - high.length - low.length) 0 ++ low⟩
    else none

end IPv6

/-- The address and port of a socket. -/
inductive Endpoint where
  | v4 (ip : IPv4) (port : UInt16)
  | v6 (ip : IPv6) (port : UInt16)
  deriving DecidableEq, Repr

namespace Endpoint

/-- The text of an endpoint; an IPv6 address stands in square brackets. -/
def toText : Endpoint → String
  | v4 ip port => ip.toText ++ ":" ++ toString port.toNat
  | v6 ip port => "[" ++ ip.toText ++ "]:" ++ toString port.toNat

/-- The address without the port. -/
def hostText : Endpoint → String
  | v4 ip _ => ip.toText
  | v6 ip _ => ip.toText

/-- A port's numeral: digits without a sign. -/
def port? (cs : List Char) : Option UInt16 :=
  ((Text.digitsValue? cs).filter (· ≤ 65535)).map UInt16.ofNat

def ofText? (text : String) : Option Endpoint :=
  match text.toList with
  | '[' :: rest => do
    let (host, tail) ← Text.cutAt? ']' rest
    match tail with
    | ':' :: digits => do
      let ip ← IPv6.ofChars? host
      let port ← port? digits
      return .v6 ip port
    | _ => none
  | cs => do
    let (host, digits) ← Text.cutAt? ':' cs
    let ip ← IPv4.ofChars? host
    let port ← port? digits
    return .v4 ip port

end Endpoint

end BootServer
