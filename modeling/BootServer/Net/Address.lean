import BootServer.Bytes
import BootServer.Text.Decimal
import BootServer.Text.Split

/-!
# IPv4 addresses

An address is a 32-bit word. Its text has four decimal numbers between dots; a numeral of more
than one digit does not start with zero.
-/

namespace BootServer

/-- An IPv4 address. -/
structure IPv4 where
  word : UInt32
  deriving DecidableEq, Repr

namespace IPv4

/-- The address of four octets, the highest first. -/
def ofOctets (a b c d : UInt8) : IPv4 := ⟨Bytes.word32 a b c d⟩

/-- The four octets of an address, the highest first. -/
def octets (ip : IPv4) : Bytes := Bytes.ofUInt32 ip.word

/-- The address with a number, modulo 2^32. -/
def ofNat (n : Nat) : IPv4 := ⟨UInt32.ofNat n⟩

def toNat (ip : IPv4) : Nat := ip.word.toNat

/-- The address 0.0.0.0, which stands for "not configured". -/
def unspecified : IPv4 := ⟨0⟩

def loopback : IPv4 := ofOctets 127 0 0 1

/-- The address 255.255.255.255. -/
def broadcast : IPv4 := ⟨0xFFFFFFFF⟩

def isUnspecified (ip : IPv4) : Bool := ip.word == 0

/-- The bits that both words have. -/
def masked (ip mask : IPv4) : IPv4 := ⟨ip.word &&& mask.word⟩

/-- The address, unless it is 0.0.0.0. -/
def specified? (ip : IPv4) : Option IPv4 := if ip.isUnspecified then none else some ip

/-- The characters of an address's text. -/
def chars (ip : IPv4) : List Char :=
  Text.join ['.'] (ip.octets.map fun octet => Text.digits octet.toNat)

def toText (ip : IPv4) : String := String.ofList ip.chars

/-- An octet's numeral: one to three digits, no zero in front, at most 255. -/
def octet? (cs : List Char) : Option UInt8 :=
  if 3 < cs.length || (cs.head? == some '0' && 1 < cs.length) then none
  else ((Text.digitsValue? cs).filter (· ≤ 255)).map UInt8.ofNat

def ofChars? (cs : List Char) : Option IPv4 :=
  match Text.split (· == '.') cs with
  | [a, b, c, d] => do
    let a ← octet? a
    let b ← octet? b
    let c ← octet? c
    let d ← octet? d
    return ofOctets a b c d
  | _ => none

def ofText? (text : String) : Option IPv4 := ofChars? text.toList

/-- Ascending order of the numbers. -/
def atMost (a b : IPv4) : Bool := a.word ≤ b.word

@[simp] theorem length_octets (ip : IPv4) : ip.octets.length = 4 := rfl

@[simp] theorem isUnspecified_eq_true {ip : IPv4} : ip.isUnspecified = true ↔ ip = unspecified := by
  cases ip
  simp [isUnspecified, unspecified]

theorem specified?_eq_some_iff {ip other : IPv4} :
    ip.specified? = some other ↔ ip = other ∧ ip ≠ unspecified := by
  unfold specified?
  split
  next hunspecified => simp [isUnspecified_eq_true.mp hunspecified]
  next hspecified => simp [mt isUnspecified_eq_true.mpr hspecified]

@[simp] theorem ofNat_toNat (ip : IPv4) : ofNat ip.toNat = ip := by
  rw [ofNat, toNat, UInt32.ofNat_toNat]

theorem toNat_ofNat {n : Nat} (h : n < 4294967296) : (ofNat n).toNat = n := by
  rw [toNat, ofNat, UInt32.toNat_ofNat']
  exact Nat.mod_eq_of_lt h

end IPv4

end BootServer
