/-!
# Ranges of code points

A character property is a list of closed ranges of code points; a character has the property when
one of the ranges holds its number.
-/

namespace BootServer.Text

/-- A closed range of code points, first and last. -/
abbrev CodeRange := Nat × Nat

def inRanges (ranges : List CodeRange) (c : Char) : Bool :=
  ranges.any fun range => range.1 ≤ c.toNat && c.toNat ≤ range.2

theorem toNat_ofNat {n : Nat} (h : n.isValidChar) : (Char.ofNat n).toNat = n := by
  rw [Char.ofNat, dif_pos h]
  rfl

end BootServer.Text
