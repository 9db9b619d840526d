/-!
# Decimal numerals

An unsigned numeral is one or more ASCII digits, with at most one plus sign before them; zeros may
lead. A number is printed without sign and without leading zeros.
-/

namespace BootServer.Text

def isDigit (c : Char) : Bool := '0' ≤ c && c ≤ '9'

/-- The digits of a number, the most significant one first. -/
def digits (n : Nat) : List Char := Nat.toDigits 10 n

def ofDigits (cs : List Char) : Nat := Nat.ofDigitChars 10 cs 0

/-- The number of a non-empty list of digits. -/
def digitsValue? (cs : List Char) : Option Nat :=
  if cs.isEmpty || !cs.all isDigit then none else some (ofDigits cs)

/-- The numeral without the one plus sign that may lead it. -/
def dropPlus : List Char → List Char
  | '+' :: rest => rest
  | cs => cs

/-- The number of an unsigned numeral, when it is at most `bound`. -/
def unsigned? (bound : Nat) (cs : List Char) : Option Nat :=
  (digitsValue? (dropPlus cs)).filter (· ≤ bound)

@[simp] theorem ofDigits_digits (n : Nat) : ofDigits (digits n) = n :=
  Nat.ofDigitChars_ten_toDigits

theorem eq_of_toString_eq {m n : Nat} (h : toString m = toString n) : m = n := by
  have hdigits : digits m = digits n := String.ofList_injective h
  rw [← ofDigits_digits m, hdigits, ofDigits_digits]

end BootServer.Text
