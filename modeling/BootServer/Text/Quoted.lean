import BootServer.Text.Column
import BootServer.Text.Glyphless

/-!
# Quoted text

A text between double quotes, fit for a log line or an error message: quotes and backslashes are
escaped, the usual controls have letters, and every other character without a plain glyph is
written by its number.
-/

namespace BootServer.Text

def quoteChar (c : Char) : String :=
  match c with
  | '\x00' => "\\0"
  | '\t' => "\\t"
  | '\r' => "\\r"
  | '\n' => "\\n"
  | '\\' => "\\\\"
  | '"' => "\\\""
  | c => if inRanges glyphlessRanges c then "\\u\x7b" ++ hex c.toNat ++ "\x7d" else String.singleton c

def quoted (text : String) : String :=
  "\"" ++ String.join (text.toList.map quoteChar) ++ "\""

end BootServer.Text
