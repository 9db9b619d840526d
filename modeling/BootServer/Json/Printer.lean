import BootServer.Json.Value
import BootServer.Text.Column
import BootServer.Text.Split

/-!
# Writing JSON

The compact form has no blanks. In a string only the quote, the backslash and the controls below
the space are escaped, by letter where there is one.
-/

namespace BootServer.Json

/-- A character as it stands in a string. -/
def escape (c : Char) : List Char :=
  match c with
  | '"' => ['\\', '"']
  | '\\' => ['\\', '\\']
  | '\x08' => ['\\', 'b']
  | '\x0c' => ['\\', 'f']
  | '\n' => ['\\', 'n']
  | '\r' => ['\\', 'r']
  | '\t' => ['\\', 't']
  | c =>
    if c.toNat < 0x20 then
      ['\\', 'u', '0', '0', Nat.digitChar (c.toNat / 16), Nat.digitChar (c.toNat % 16)]
    else [c]

def printText (cs : List Char) : List Char := '"' :: cs.flatMap escape ++ ['"']

def printNumeral (n : Numeral) : List Char :=
  (if n.negative then ['-'] else []) ++ n.whole ++
    (match n.fraction with
      | none => []
      | some ds => '.' :: ds) ++
    match n.exponent with
      | none => []
      | some (negative, ds) => 'e' :: (if negative then '-' :: ds else ds)

mutual

/-- A value in compact form. -/
def print : Json → List Char
  | .null => ['n', 'u', 'l', 'l']
  | .bool true => ['t', 'r', 'u', 'e']
  | .bool false => ['f', 'a', 'l', 's', 'e']
  | .number n => printNumeral n
  | .string text => printText (text.getD "").toList
  | .array items => '[' :: printItems items ++ [']']
  | .object members => '{' :: printMembers members ++ ['}']

def printItems : List Json → List Char
  | [] => []
  | [item] => print item
  | item :: next :: rest => print item ++ ',' :: printItems (next :: rest)

def printMembers : List (Option String × Json) → List Char
  | [] => []
  | [(name, value)] => printText (name.getD "").toList ++ ':' :: print value
  | (name, value) :: next :: rest =>
    printText (name.getD "").toList ++ ':' :: print value ++ ',' :: printMembers (next :: rest)

end

def compact (value : Json) : String := String.ofList (print value)

/-- A member on a line of its own, two blanks in. -/
def printLine (member : String × Json) : List Char :=
  ' ' :: ' ' :: printText member.1.toList ++ ':' :: ' ' :: print member.2

def layout (members : List (String × Json)) : String :=
  String.ofList ('{' :: '\n' :: Text.join [',', '\n'] (members.map printLine) ++ ['\n', '}'])

end BootServer.Json
