import BootServer.Text.Split

/-!
# Blank characters

The property White_Space, and trimming: blanks are removed from both ends of a text.
-/

namespace BootServer.Text

/-- The property White_Space. -/
def isBlank (c : Char) : Bool :=
  let n := c.toNat
  (9 ≤ n && n ≤ 13) || n == 0x20 || n == 0x85 || n == 0xA0 || n == 0x1680 ||
    (0x2000 ≤ n && n ≤ 0x200A) || n == 0x2028 || n == 0x2029 || n == 0x202F || n == 0x205F ||
    n == 0x3000

/-- The text without blanks at its ends. -/
def trim (cs : List Char) : List Char := dropTrailing isBlank (cs.dropWhile isBlank)

end BootServer.Text
