import BootServer.Text.Split

/-!
# Lines of a text

A line ends with a line feed, or with a carriage return and a line feed; the last line may lack
its end. A text that ends with a line end has no empty line after it.
-/

namespace BootServer.Text

/-- A line without the carriage return that belongs to its end. -/
def dropReturn (line : List Char) : List Char :=
  if line.getLast? = some '\r' then line.dropLast else line

/-- The lines of a text, without their ends. -/
def lines (cs : List Char) : List (List Char) :=
  let pieces := split (· == '\n') cs
  let last := pieces.getLastD []
  pieces.dropLast.map dropReturn ++ if last.isEmpty then [] else [last]

end BootServer.Text
