import BootServer.Text.Decimal

/-!
# JSON numbers

A numeral keeps the digits of a number as they were written. Its magnitude is what a reader with a
significand of 64 bits makes of them: digits beyond the significand move the scale or are dropped.
A numeral is finite when that magnitude, computed in double precision, does not overflow.
-/

namespace BootServer

/-- A JSON number as it was written. -/
structure Numeral where
  negative : Bool
  whole : List Char
  fraction : Option (List Char)
  /-- The sign of the exponent (`true` for minus) and its digits. -/
  exponent : Option (Bool × List Char)
  deriving DecidableEq, Repr

/-- The number `significand` times ten to the power `scale`. -/
structure Magnitude where
  significand : Nat
  scale : Int
  deriving DecidableEq, Repr

/-- The nearest number with at most 53 significant binary digits, of two the one whose last digit is
even. -/
def nearestDouble (n : Nat) : Nat :=
  let unit := Nat.pow 2 (Nat.log2 n - 52)
  let below := n / unit
  let rest := n % unit
  if 2 * rest < unit ∨ (2 * rest = unit ∧ below % 2 = 0) then below * unit else (below + 1) * unit

/-- The least number that double precision rounds to infinity: halfway from the largest finite number
to the power of two above it. -/
def overflowBound : Nat := Nat.pow 2 1024 - Nat.pow 2 970

namespace Magnitude

/-- The significand with one more digit, when 64 bits hold it. -/
def extended? (significand : Nat) (digit : Char) : Option Nat :=
  (some (significand * 10 + Text.ofDigits [digit])).filter (· < Nat.pow 2 64)

/-- Take whole digits while the significand holds them; each later one raises the scale. -/
def readWhole (significand : Nat) : List Char → Magnitude
  | [] => ⟨significand, 0⟩
  | digit :: rest =>
    match extended? significand digit with
    | some longer => readWhole longer rest
    | none => ⟨significand, rest.length + 1⟩

/-- Take digits of the fraction, each lowering the scale, up to the first that the significand does
not hold. -/
def readFraction (m : Magnitude) : List Char → Magnitude
  | [] => m
  | digit :: rest =>
    match extended? m.significand digit with
    | some longer => readFraction ⟨longer, m.scale - 1⟩ rest
    | none => m

/-- Is the product of the significand and its power of ten, both rounded, in the range of double
precision? Division by a power of ten does not leave it. -/
def isFinite (m : Magnitude) : Bool :=
  if m.significand = 0 ∨ m.scale < 0 then true
  else if 308 < m.scale then false
  else nearestDouble m.significand * nearestDouble (Nat.pow 10 m.scale.toNat) < overflowBound

end Magnitude

namespace Numeral

def ofNat (n : Nat) : Numeral := ⟨false, Text.digits n, none, none⟩

/-- The natural number that a numeral writes without sign, fraction and exponent. -/
def natural? : Numeral → Option Nat
  | ⟨false, whole, none, none⟩ => some (Text.ofDigits whole)
  | _ => none

def power (n : Numeral) : Int :=
  match n.exponent with
  | none => 0
  | some (true, digits) => -(Text.ofDigits digits : Int)
  | some (false, digits) => Text.ofDigits digits

/-- The significand and the scale of the digits, moved by the written exponent. -/
def magnitude (n : Numeral) : Magnitude :=
  let digits := (Magnitude.readWhole 0 n.whole).readFraction (n.fraction.getD [])
  ⟨digits.significand, digits.scale + n.power⟩

/-- Does the number fit double precision? -/
def isFinite (n : Numeral) : Bool := n.magnitude.isFinite

@[simp] theorem natural?_ofNat (n : Nat) : (ofNat n).natural? = some n := by
  simp [ofNat, natural?]

end Numeral

end BootServer
